import Mathlib.Data.List.Nodup
import Mathlib.Data.List.Perm.Subperm
import Polyglot.Block
import Polyglot.Proofs.Support.Sort

/-!
# `Polyglot.Proofs.Block.Nesting`: blocks nest

`blockSpans_wellNested`: whatever the rules and the tokens are, the blocks that are found are
well formed. A block opens before it closes, at tokens that some rule of its name has for its two
texts; no token opens or closes two blocks; of two blocks, one lies inside the other or they are
apart; and a block is at least as deep as there are blocks around it.

A closing token may drop open blocks, rules may share names and texts, and one text may open and
close. None of this matters, because of what is true of the stack of open blocks at any time
(`Stacked`): the blocks on it were opened one after the other, and the depth of each is the
number of those below it. A step can only put a block on top or cut the stack down
(`blockStep_cases`). So a block that is closed leaves below it just those that were opened
before it, and these are the only ones that can still close around it (`Closes`).

The blocks come in the order of their ends, and are sorted by their starts afterwards. What is
said of two blocks does not depend on which one comes first, so it survives the sorting.
-/

set_option autoImplicit false

namespace Polyglot

namespace BlockSpan

/-- A block that lies strictly around another one. -/
def Encloses (outer inner : BlockSpan) : Prop :=
  outer.openIndex < inner.openIndex ∧ inner.closeIndex < outer.closeIndex

instance (outer inner : BlockSpan) : Decidable (outer.Encloses inner) :=
  inferInstanceAs (Decidable (_ ∧ _))

/-- Two blocks of which one ends before the other one starts. -/
def Apart (a b : BlockSpan) : Prop := a.closeIndex < b.openIndex ∨ b.closeIndex < a.openIndex

end BlockSpan

/-- Blocks among tokens with the given texts, in order and nested. -/
structure WellNested (rules : List BlockRule) (values : List String) (spans : List BlockSpan) :
    Prop where
  /-- A block opens before it closes, and closes at one of the tokens. -/
  bounds : ∀ s ∈ spans, s.openIndex < s.closeIndex ∧ s.closeIndex < values.length
  /-- A block opens at the opening text of a rule of its name. -/
  opening : ∀ s ∈ spans, ∃ rule ∈ rules, rule.name = s.name ∧
    values[s.openIndex]? = some rule.opening
  /-- A block closes at the closing text of a rule of its name. -/
  closing : ∀ s ∈ spans, ∃ rule ∈ rules, rule.name = s.name ∧
    values[s.closeIndex]? = some rule.closing
  /-- No token opens or closes two blocks, or opens one and closes one. -/
  distinct : (spans.flatMap fun s => [s.openIndex, s.closeIndex]).Nodup
  /-- Of two blocks, one lies inside the other or they are apart. -/
  nested : spans.Pairwise fun a b => a.Apart b ∨ a.Encloses b ∨ b.Encloses a
  /-- The blocks come in the order of their opening tokens. -/
  increasing : spans.Pairwise fun a b => a.openIndex < b.openIndex
  /-- A block is at least as deep as there are blocks around it. -/
  depth : ∀ s ∈ spans, spans.countP (·.Encloses s) ≤ s.depth

/-! ### Steps -/

/-- A block that is closed has the name, and it is cut off the stack with what is above it. The
blocks above it are never closed then. They stay without a span, as unbalanced text should. -/
theorem closeNearest?_eq_some {name : String} {stack below : List OpenBlock} {block : OpenBlock}
    (h : closeNearest? name stack = some (block, below)) :
    block.name = name ∧ ∃ above, stack = above ++ block :: below := by
  induction stack with
  | nil => cases h
  | cons head tail ih =>
    rw [closeNearest?] at h
    split at h
    · rename_i hname
      obtain ⟨rfl, rfl⟩ := Prod.mk.inj (Option.some.inj h)
      exact ⟨hname, [], rfl⟩
    · obtain ⟨hname, above, rfl⟩ := ih h
      exact ⟨hname, head :: above, rfl⟩

/-- A block can be closed if there is one of the name. -/
theorem exists_closeNearest? {name : String} {stack : List OpenBlock}
    (h : stack.any (·.name == name) = true) :
    ∃ block below, closeNearest? name stack = some (block, below) := by
  induction stack with
  | nil => cases h
  | cons head tail ih =>
    rw [closeNearest?]
    split
    · exact ⟨_, _, rfl⟩
    · rename_i hname
      rw [List.any_cons, beq_eq_false_iff_ne.mpr hname, Bool.false_or] at h
      exact ih h

/-- What a token can do: nothing, open the block of a rule, or close a block and drop those above
it. All that is said of blocks below is shown for these three cases, so a change to how rules are
chosen would not reach beyond this lemma. -/
theorem blockStep_cases (rules : List BlockRule) (stack : List OpenBlock) (index : Nat)
    (value : String) :
    blockStep rules stack index value = (stack, none) ∨
    (∃ rule ∈ rules, rule.opening = value ∧
      blockStep rules stack index value = (⟨rule.name, index, stack.length⟩ :: stack, none)) ∨
    ∃ rule ∈ rules, rule.closing = value ∧ ∃ above block below,
      stack = above ++ block :: below ∧ block.name = rule.name ∧
      blockStep rules stack index value =
        (below, some ⟨rule.name, block.openIndex, index, block.depth⟩) := by
  unfold blockStep
  cases hclosing : closingRule? rules stack value with
  | some rule =>
    have happlies := List.find?_some hclosing
    obtain ⟨hvalue, hopen⟩ := Bool.and_eq_true_iff.mp happlies
    -- a closing rule is chosen only if a block of its name is open
    obtain ⟨block, below, hclose⟩ := exists_closeNearest? hopen
    obtain ⟨hname, above, hstack⟩ := closeNearest?_eq_some hclose
    refine .inr (.inr ⟨rule, List.mem_of_find?_eq_some hclosing, beq_iff_eq.mp hvalue,
      above, block, below, hstack, hname, ?_⟩)
    dsimp only
    rw [hclose]
  | none =>
    cases hopening : rules.find? (·.opening == value) with
    | some rule =>
      have happlies := List.find?_some hopening
      exact .inr (.inl ⟨rule, List.mem_of_find?_eq_some hopening, beq_iff_eq.mp happlies, rfl⟩)
    | none => exact .inl rfl

/-! ### The stack -/

/-- The blocks that are open in front of the token at an index, the nearest first. -/
structure Stacked (rules : List BlockRule) (values : List String) (index : Nat)
    (stack : List OpenBlock) : Prop where
  /-- A block was opened before the token. -/
  before : ∀ b ∈ stack, b.openIndex < index
  /-- A block was opened after those below it. -/
  order : stack.Pairwise fun upper lower => lower.openIndex < upper.openIndex
  /-- A block was opened by the opening text of a rule of its name. -/
  opening : ∀ b ∈ stack, ∃ rule ∈ rules, rule.name = b.name ∧
    values[b.openIndex]? = some rule.opening
  /-- The depth of a block is the number of blocks below it. -/
  depth : ∀ b below, b :: below <:+ stack → b.depth = below.length

namespace Stacked

variable {rules : List BlockRule} {values : List String} {index : Nat} {stack : List OpenBlock}

/-- At the start no block is open. -/
theorem empty : Stacked rules values 0 [] where
  before := fun _ h => nomatch h
  order := .nil
  opening := fun _ h => nomatch h
  depth := fun _ _ h => nomatch List.suffix_nil.mp h

/-- The blocks that are open stay so at the next token, if some are cut off the stack or none. The
depth of a block counts the blocks below it, and those are not cut off before the block is. -/
theorem next_of_suffix (h : Stacked rules values index stack) {below : List OpenBlock}
    (hbelow : below <:+ stack) : Stacked rules values (index + 1) below where
  before := fun b hb => Nat.lt_succ_of_lt (h.before b (hbelow.subset hb))
  order := h.order.sublist hbelow.sublist
  opening := fun b hb => h.opening b (hbelow.subset hb)
  depth := fun b rest hb => h.depth b rest (hb.trans hbelow)

/-- A block is opened by the token at the index. All blocks on the stack were opened by earlier
tokens, so it is the one with the greatest index. -/
theorem next_of_open (h : Stacked rules values index stack) {rule : BlockRule}
    (hrule : rule ∈ rules) (hvalue : values[index]? = some rule.opening) :
    Stacked rules values (index + 1) (⟨rule.name, index, stack.length⟩ :: stack) where
  before := List.forall_mem_cons.mpr
    ⟨Nat.lt_succ_self index, fun b hb => Nat.lt_succ_of_lt (h.before b hb)⟩
  order := List.pairwise_cons.mpr ⟨h.before, h.order⟩
  opening := List.forall_mem_cons.mpr ⟨⟨rule, hrule, rfl, hvalue⟩, h.opening⟩
  depth := by
    intro b below hb
    rcases List.suffix_cons_iff.mp hb with heq | hb
    · obtain ⟨rfl, rfl⟩ := List.cons.inj heq
      rfl
    · exact h.depth b below hb

end Stacked

/-! ### Runs -/

/-- The blocks that the tokens from an index on close, `stack` being open in front of them. They
come in the order of their ends. -/
structure Closes (rules : List BlockRule) (values : List String) (index : Nat)
    (stack : List OpenBlock) (spans : List BlockSpan) : Prop where
  /-- A block opens before it closes, and closes at one of the tokens. -/
  bounds : ∀ s ∈ spans, index ≤ s.closeIndex ∧ s.openIndex < s.closeIndex ∧
    s.closeIndex < values.length
  /-- A block opens at the opening text of a rule of its name. -/
  opening : ∀ s ∈ spans, ∃ rule ∈ rules, rule.name = s.name ∧
    values[s.openIndex]? = some rule.opening
  /-- A block closes at the closing text of a rule of its name. -/
  closing : ∀ s ∈ spans, ∃ rule ∈ rules, rule.name = s.name ∧
    values[s.closeIndex]? = some rule.closing
  /-- A block was open before, or it is opened by one of the tokens. -/
  origin : ∀ s ∈ spans, s.openIndex ∈ stack.map (·.openIndex) ∨ index ≤ s.openIndex
  /-- A block that closes after another one lies around it or after it. -/
  order : spans.Pairwise fun a b =>
    a.closeIndex < b.closeIndex ∧ (b.openIndex < a.openIndex ∨ a.closeIndex < b.openIndex)
  /-- A block is at least as deep as there are blocks around it. -/
  depth : ∀ s ∈ spans, spans.countP (·.Encloses s) ≤ s.depth

namespace Closes

variable {rules : List BlockRule} {values : List String} {index : Nat} {stack : List OpenBlock}
  {spans : List BlockSpan}

/-- Without tokens no block is closed. -/
theorem nil : Closes rules values index stack [] where
  bounds := fun _ h => nomatch h
  opening := fun _ h => nomatch h
  closing := fun _ h => nomatch h
  origin := fun _ h => nomatch h
  order := .nil
  depth := fun _ h => nomatch h

/-- A token that closes nothing; it may open a block. A block that it opens is one that is opened
from the index on, for those who look from in front of the token. -/
theorem of_next {stack' : List OpenBlock} (h : Closes rules values (index + 1) stack' spans)
    (hstack : ∀ n ∈ stack'.map (·.openIndex), n ∈ stack.map (·.openIndex) ∨ index ≤ n) :
    Closes rules values index stack spans where
  bounds := fun s hs => ⟨Nat.le_of_succ_le (h.bounds s hs).1, (h.bounds s hs).2⟩
  opening := h.opening
  closing := h.closing
  origin := by
    intro s hs
    rcases h.origin s hs with hold | hnew
    · exact hstack _ hold
    · exact .inr (Nat.le_of_succ_le hnew)
  order := h.order
  depth := h.depth

/-- Of two blocks, one lies inside the other or they are apart. The later one in the order of ends
opens in front of the earlier one or behind its end. -/
theorem nested (h : Closes rules values index stack spans) :
    spans.Pairwise fun a b => a.Apart b ∨ a.Encloses b ∨ b.Encloses a := by
  refine h.order.imp ?_
  rintro a b ⟨hclose, hinside | hafter⟩
  · exact .inr (.inr ⟨hinside, hclose⟩)
  · exact .inl (.inl hafter)

/-- No two blocks open at the same token. A block is taken off the stack when it is closed, so it
cannot be closed again. -/
theorem nodup_openIndex (h : Closes rules values index stack spans) :
    (spans.map (·.openIndex)).Nodup := by
  unfold List.Nodup
  rw [List.pairwise_map]
  refine h.order.imp_of_mem ?_
  intro a b ha _ hab heq
  have hopen := (h.bounds a ha).2.1
  omega

/-- Of the blocks that are closed from an index on, no more were opened before it than are on the
stack. They have different opening tokens, all of which are on the stack. -/
theorem countP_le (h : Closes rules values index stack spans) {p : BlockSpan → Bool}
    (hp : ∀ s ∈ spans, p s = true → s.openIndex < index) :
    spans.countP p ≤ stack.length := by
  have hnodup : ((spans.filter p).map (·.openIndex)).Nodup :=
    h.nodup_openIndex.sublist (List.filter_sublist.map _)
  have hsubset : (spans.filter p).map (·.openIndex) ⊆ stack.map (·.openIndex) := by
    -- the index of an opening in front is that of a block that was open
    intro n hn
    obtain ⟨s, hs, rfl⟩ := List.mem_map.mp hn
    obtain ⟨hmem, hps⟩ := List.mem_filter.mp hs
    rcases h.origin s hmem with hold | hnew
    · exact hold
    · exact absurd (hp s hmem hps) (Nat.not_lt.mpr hnew)
  have hlength := (hnodup.subperm hsubset).length_le
  rw [List.length_map, List.length_map] at hlength
  rw [List.countP_eq_length_filter]
  exact hlength

/-- A token that closes a block, where `below` is left of the stack. What is closed later was opened
below the block or behind the token, so it lies around the block or after it. Of the blocks around
it there are at most as many as there are below it on the stack. -/
theorem cons {above below : List OpenBlock} {block : OpenBlock} {rule : BlockRule}
    (hstack : Stacked rules values index (above ++ block :: below))
    (h : Closes rules values (index + 1) below spans)
    (hrule : rule ∈ rules) (hname : block.name = rule.name)
    (hvalue : values[index]? = some rule.closing) :
    Closes rules values index (above ++ block :: below)
      (⟨rule.name, block.openIndex, index, block.depth⟩ :: spans) := by
  have hblock : block ∈ above ++ block :: below := List.mem_append_right _ List.mem_cons_self
  have hopen : block.openIndex < index := hstack.before block hblock
  have hlength : index < values.length := (List.getElem?_eq_some_iff.mp hvalue).1
  have hbelow : ∀ n ∈ below.map (·.openIndex), n < block.openIndex := by
    intro n hn
    obtain ⟨b, hb, rfl⟩ := List.mem_map.mp hn
    exact (List.pairwise_cons.mp (List.pairwise_append.mp hstack.order).2.1).1 b hb
  -- what closes later was open below the block, or is opened after it closes
  have hlater : ∀ s ∈ spans, s.openIndex < block.openIndex ∨ index < s.openIndex := by
    intro s hs
    exact (h.origin s hs).imp (hbelow _) Nat.lt_of_succ_le
  exact {
    bounds := by
      refine List.forall_mem_cons.mpr ⟨⟨Nat.le_refl _, hopen, hlength⟩, ?_⟩
      exact fun s hs => ⟨Nat.le_of_succ_le (h.bounds s hs).1, (h.bounds s hs).2⟩
    opening := by
      obtain ⟨opener, hopener, hsame, hat⟩ := hstack.opening block hblock
      exact List.forall_mem_cons.mpr ⟨⟨opener, hopener, hsame.trans hname, hat⟩, h.opening⟩
    closing := List.forall_mem_cons.mpr ⟨⟨rule, hrule, rfl, hvalue⟩, h.closing⟩
    origin := by
      refine List.forall_mem_cons.mpr ⟨.inl (List.mem_map_of_mem hblock), ?_⟩
      intro s hs
      refine (h.origin s hs).imp ?_ Nat.le_of_succ_le
      intro hn
      rw [List.map_append, List.map_cons]
      exact List.mem_append_right _ (List.mem_cons_of_mem _ hn)
    order := List.pairwise_cons.mpr
      ⟨fun s hs => ⟨Nat.lt_of_succ_le (h.bounds s hs).1, hlater s hs⟩, h.order⟩
    depth := by
      -- the block closes before all others, so it lies around none of them
      have hinner : ∀ s : BlockSpan, index ≤ s.closeIndex →
          ¬ (⟨rule.name, block.openIndex, index, block.depth⟩ : BlockSpan).Encloses s :=
        fun s hs henc => absurd henc.2 (Nat.not_lt.mpr hs)
      refine List.forall_mem_cons.mpr ⟨?_, fun s hs => ?_⟩
      · rw [List.countP_cons_of_neg (by simpa using hinner _ (Nat.le_refl _))]
        have hdepth : block.depth = below.length :=
          hstack.depth block below (List.suffix_append above (block :: below))
        show spans.countP _ ≤ block.depth
        rw [hdepth]
        -- a block around it starts before it, so it was open below it
        refine h.countP_le fun s hs henc => ?_
        exact Nat.lt_succ_of_lt (Nat.lt_trans (of_decide_eq_true henc).1 hopen)
      · rw [List.countP_cons_of_neg (by
          simpa using hinner s (Nat.le_of_succ_le (h.bounds s hs).1))]
        exact h.depth s hs }

end Closes

/-- The blocks that the rest of the tokens close. The induction is on the rest, for any stack, and
its cases are those of `blockStep_cases`. -/
theorem closes_closedBlocks {rules : List BlockRule} {values : List String} {index : Nat}
    {stack : List OpenBlock} {rest : List String} (hrest : values.drop index = rest)
    (h : Stacked rules values index stack) :
    Closes rules values index stack (closedBlocks rules stack index rest) := by
  induction rest generalizing index stack with
  | nil => exact .nil
  | cons value rest ih =>
    have hvalue : values[index]? = some value := by
      rw [← List.head?_drop, hrest, List.head?_cons]
    have hnext : values.drop (index + 1) = rest := by
      rw [← List.drop_drop, hrest, List.drop_succ_cons, List.drop_zero]
    unfold closedBlocks
    -- after each of the three effects the stack is again one in front of the next token
    rcases blockStep_cases rules stack index value with
      heq | ⟨rule, hrule, rfl, heq⟩ | ⟨rule, hrule, rfl, above, block, below, rfl, hname, heq⟩
    · rw [heq]
      exact (ih hnext (h.next_of_suffix List.suffix_rfl)).of_next fun n hn => .inl hn
    · rw [heq]
      refine (ih hnext (h.next_of_open hrule hvalue)).of_next ?_
      exact List.forall_mem_cons.mpr ⟨.inr (Nat.le_refl _), fun n hn => .inl hn⟩
    · rw [heq]
      have hbelow : below <:+ above ++ block :: below :=
        (List.suffix_cons block below).trans (List.suffix_append above _)
      exact .cons h (ih hnext (h.next_of_suffix hbelow)) hrule hname hvalue

/-! ### Sorting -/

/-- Sorting keeps the blocks that were closed. They are found in the order of their ends and given
out in the order of their openings. -/
theorem blockSpansOf_perm (rules : List BlockRule) (values : List String) :
    (blockSpansOf rules values).Perm (closedBlocks rules [] 0 values) :=
  List.mergeSort_perm _ _

/-- The blocks are sorted by their opening tokens. -/
theorem pairwise_blockSpansOf (rules : List BlockRule) (values : List String) :
    (blockSpansOf rules values).Pairwise fun a b => a.openIndex ≤ b.openIndex :=
  pairwise_mergeSort_key BlockSpan.openIndex (closedBlocks rules [] 0 values)

/-- Blocks are found in the one order in which their opening tokens increase. So to know what is
found it is enough to know it up to its order. -/
theorem blockSpansOf_eq_of_perm {rules : List BlockRule} {values : List String}
    {spans : List BlockSpan} (hperm : (closedBlocks rules [] 0 values).Perm spans)
    (hincreasing : spans.Pairwise fun a b => a.openIndex < b.openIndex) :
    blockSpansOf rules values = spans := by
  have hfound := (blockSpansOf_perm rules values).trans hperm
  have hdistinct : (spans.map (·.openIndex)).Nodup :=
    List.pairwise_map.mpr (hincreasing.imp Nat.ne_of_lt)
  refine hfound.eq_of_pairwise ?_ (pairwise_blockSpansOf rules values)
    (hincreasing.imp Nat.le_of_lt)
  intro a b ha hb hab hba
  exact List.inj_on_of_nodup_map hdistinct (hfound.mem_iff.mp ha) hb (Nat.le_antisymm hab hba)

/-- Blocks that are nested or apart have all their tokens for themselves. All comparisons in the two
conditions are strict, so no index can be in two blocks as an end. -/
theorem nodup_indices {spans : List BlockSpan}
    (hbounds : ∀ s ∈ spans, s.openIndex < s.closeIndex)
    (hnested : spans.Pairwise fun a b => a.Apart b ∨ a.Encloses b ∨ b.Encloses a) :
    (spans.flatMap fun s => [s.openIndex, s.closeIndex]).Nodup := by
  rw [List.nodup_flatMap]
  constructor
  · -- the two indices of one pair
    intro s hs
    have hlt := hbounds s hs
    simp only [List.nodup_cons, List.mem_singleton, List.not_mem_nil, not_false_iff,
      List.nodup_nil, and_true]
    omega
  · -- the indices of two pairs, which are apart or one inside the other
    refine hnested.imp_of_mem ?_
    intro a b ha hb hab n hna hnb
    have hltA := hbounds a ha
    have hltB := hbounds b hb
    simp only [List.mem_cons, List.not_mem_nil, or_false] at hna hnb
    unfold BlockSpan.Apart BlockSpan.Encloses at hab
    omega

/-- The blocks among tokens are in order and nested. -/
theorem blockSpans_wellNested (tokens : List Token) (rules : List BlockRule) :
    WellNested rules (tokens.map (·.value)) (blockSpans tokens rules) := by
  unfold blockSpans
  generalize tokens.map (·.value) = values
  have hclosed : Closes rules values 0 [] (closedBlocks rules [] 0 values) :=
    closes_closedBlocks List.drop_zero .empty
  have hperm := blockSpansOf_perm rules values
  have hbounds : ∀ s ∈ blockSpansOf rules values,
      s.openIndex < s.closeIndex ∧ s.closeIndex < values.length :=
    fun s hs => (hclosed.bounds s (hperm.mem_iff.mp hs)).2
  have hnested : (blockSpansOf rules values).Pairwise fun a b =>
      a.Apart b ∨ a.Encloses b ∨ b.Encloses a := by
    -- which of the two comes first does not matter
    refine (hperm.pairwise_iff ?_).mpr hclosed.nested
    rintro a b (hab | hab | hab)
    · exact .inl hab.symm
    · exact .inr (.inr hab)
    · exact .inr (.inl hab)
  exact {
    bounds := hbounds
    opening := fun s hs => hclosed.opening s (hperm.mem_iff.mp hs)
    closing := fun s hs => hclosed.closing s (hperm.mem_iff.mp hs)
    distinct := nodup_indices (fun s hs => (hbounds s hs).1) hnested
    nested := hnested
    increasing := by
      -- sorted, and no two start at the same token
      have hdistinct := (hperm.map (·.openIndex)).nodup_iff.mpr hclosed.nodup_openIndex
      exact ((pairwise_blockSpansOf rules values).and (List.pairwise_map.mp hdistinct)).imp
        fun h => Nat.lt_of_le_of_ne h.1 h.2
    depth := by
      intro s hs
      rw [hperm.countP_eq]
      exact hclosed.depth s (hperm.mem_iff.mp hs) }

end Polyglot
