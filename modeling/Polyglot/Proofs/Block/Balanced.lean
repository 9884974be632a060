import Mathlib.Data.List.Pairwise
import Polyglot.Proofs.Block.Nesting

/-!
# `Polyglot.Proofs.Block.Balanced`: balanced texts are paired as they are derived

A word of texts is balanced if it is derived from nothing, from a text that is no delimiter in
front of a balanced word, or from a balanced word between the two texts of a rule and another
one after it. `Balanced` is the type of these derivations, so each has its own pairs
(`Balanced.spans`).

`blockSpans_balanced`: where no two delimiters are the same text, the blocks among tokens with
such a word are the pairs of the derivation and nothing else. Rules may still share a name, and
blocks of the same name may be open further out; the block that a closing text ends is
nevertheless the one on top of the stack, since a balanced word leaves the stack as it was
(`closedBlocks_word`).
-/

set_option autoImplicit false

namespace Polyglot

/-- The texts that open or close blocks. -/
def delimiters (rules : List BlockRule) : List String :=
  rules.flatMap fun rule => [rule.opening, rule.closing]

/-- The derivations of balanced words. -/
inductive Balanced (rules : List BlockRule) : Type where
  /-- The empty word. -/
  | empty
  /-- A text that is no delimiter, and a balanced word. -/
  | text (value : String) (hvalue : value ∉ delimiters rules) (rest : Balanced rules)
  /-- The opening text of a rule, a balanced word, the closing text, and a balanced word. -/
  | block (rule : BlockRule) (hrule : rule ∈ rules) (inner rest : Balanced rules)

namespace Balanced

variable {rules : List BlockRule}

/-- The word that is derived. -/
def word : Balanced rules → List String
  | .empty => []
  | .text value _ rest => value :: rest.word
  | .block rule _ inner rest => rule.opening :: (inner.word ++ rule.closing :: rest.word)

/-- The pairs of a derivation whose word starts at an index and inside `depth` other pairs, in
the order of their opening texts. -/
def spans (depth index : Nat) : Balanced rules → List BlockSpan
  | .empty => []
  | .text _ _ rest => rest.spans depth (index + 1)
  | .block rule _ inner rest =>
    let close := index + 1 + inner.word.length
    ⟨rule.name, index, close, depth⟩ ::
      (inner.spans (depth + 1) (index + 1) ++ rest.spans depth (close + 1))

/-! ### Pairs -/

/-- Pairs that start no earlier than a pair do not lie around it. With this, all that comes later in
a derivation can be left out when the depth of a pair is counted. -/
theorem countP_encloses_of_openIndex_le {s : BlockSpan} {others : List BlockSpan}
    (h : ∀ t ∈ others, s.openIndex ≤ t.openIndex) : others.countP (·.Encloses s) = 0 := by
  refine List.countP_eq_zero.mpr fun t ht henc => ?_
  exact Nat.not_lt.mpr (h t ht) (of_decide_eq_true henc).1

/-- Pairs that end no later than a pair do not lie around it. -/
theorem countP_encloses_of_closeIndex_le {s : BlockSpan} {others : List BlockSpan}
    (h : ∀ t ∈ others, t.closeIndex ≤ s.closeIndex) : others.countP (·.Encloses s) = 0 := by
  refine List.countP_eq_zero.mpr fun t ht henc => ?_
  exact Nat.not_lt.mpr (h t ht) (of_decide_eq_true henc).2

/-- The pairs of a derivation lie inside its word. The induction is on the derivation, for any index
at which its word may start. -/
theorem spans_bounds (d : Balanced rules) (depth index : Nat) :
    ∀ s ∈ d.spans depth index,
      index ≤ s.openIndex ∧ s.openIndex < s.closeIndex ∧ s.closeIndex < index + d.word.length := by
  induction d generalizing depth index with
  | empty => exact fun _ h => nomatch h
  | text value _ rest ih =>
    intro s hs
    have hrest := ih depth (index + 1) s hs
    rw [word, List.length_cons]
    omega
  | block rule _ inner rest ihInner ihRest =>
    rw [word, List.length_cons, List.length_append, List.length_cons]
    intro s hs
    rcases List.mem_cons.mp hs with rfl | hs
    · dsimp only
      omega
    · rcases List.mem_append.mp hs with hs | hs
      · have hinner := ihInner (depth + 1) (index + 1) s hs
        omega
      · have hrest := ihRest depth _ s hs
        omega

/-- The pairs of a derivation come in the order of their opening texts. A pair is listed in front of
those inside it, and these in front of what follows. -/
theorem pairwise_spans (d : Balanced rules) (depth index : Nat) :
    (d.spans depth index).Pairwise fun a b => a.openIndex < b.openIndex := by
  induction d generalizing depth index with
  | empty => exact .nil
  | text value _ rest ih => exact ih depth (index + 1)
  | block rule _ inner rest ihInner ihRest =>
    refine List.pairwise_cons.mpr ⟨?_, List.pairwise_append.mpr ⟨ihInner _ _, ihRest _ _, ?_⟩⟩
    · intro s hs
      rcases List.mem_append.mp hs with hs | hs
      · exact (inner.spans_bounds _ _ s hs).1
      · have hrest := (rest.spans_bounds _ _ s hs).1
        dsimp only
        omega
    · -- the inner word ends before the closing text, and the rest starts behind it
      intro a ha b hb
      have hinner := inner.spans_bounds _ _ a ha
      have hrest := rest.spans_bounds _ _ b hb
      omega

/-- The depth of a pair is the number of pairs around it, inside the word and outside. The induction
is on the derivation. A pair is one more around all that is inside of it, and around nothing that
follows. -/
theorem depth_spans (d : Balanced rules) (depth index : Nat) :
    ∀ s ∈ d.spans depth index,
      s.depth = depth + (d.spans depth index).countP (·.Encloses s) := by
  induction d generalizing depth index with
  | empty => exact fun _ h => nomatch h
  | text value _ rest ih => exact ih depth (index + 1)
  | block rule hrule inner rest ihInner ihRest =>
    have hinner := inner.spans_bounds (depth + 1) (index + 1)
    have hrest := rest.spans_bounds depth (index + 1 + inner.word.length + 1)
    intro s hs
    rcases List.mem_cons.mp hs with rfl | hs
    · -- the pair itself starts first, so none lies around it
      rw [countP_encloses_of_openIndex_le fun t ht => (spans_bounds _ depth index t ht).1]
      rfl
    rw [spans, List.countP_cons, List.countP_append]
    rcases List.mem_append.mp hs with hs | hs
    · -- the pair lies around all of the inner word
      have hbounds := hinner s hs
      have hhead : BlockSpan.Encloses
          ⟨rule.name, index, index + 1 + inner.word.length, depth⟩ s :=
        ⟨hbounds.1, hbounds.2.2⟩
      have hzeroRest := countP_encloses_of_openIndex_le
        fun t ht => Nat.le_trans (by omega : s.openIndex ≤ _) (hrest t ht).1
      rw [if_pos (decide_eq_true hhead), ihInner _ _ s hs, hzeroRest]
      omega
    · -- neither the pair nor what is inside it reaches so far
      have hbounds := hrest s hs
      have hhead : ¬ BlockSpan.Encloses
          ⟨rule.name, index, index + 1 + inner.word.length, depth⟩ s := by
        intro henc
        have hbefore : s.closeIndex < index + 1 + inner.word.length := henc.2
        omega
      have hzeroInner := countP_encloses_of_closeIndex_le
        fun t ht => Nat.le_trans (Nat.le_of_lt (hinner t ht).2.2) (by omega : _ ≤ s.closeIndex)
      rw [if_neg (by simpa using hhead), ihRest _ _ s hs, hzeroInner]
      omega

end Balanced

/-! ### Steps on delimiters -/

section Delimiters

variable {rules : List BlockRule}

/-- A text is a delimiter of one rule only. All delimiters are different from each other, across
rules and within one. -/
theorem eq_of_mem_delimiters (hdistinct : (delimiters rules).Nodup) {r r' : BlockRule}
    (hr : r ∈ rules) (hr' : r' ∈ rules) {value : String}
    (h : value ∈ [r.opening, r.closing]) (h' : value ∈ [r'.opening, r'.closing]) : r = r' := by
  by_contra hne
  have hsymm : Std.Symm (Function.onFun List.Disjoint fun rule : BlockRule =>
      [rule.opening, rule.closing]) := ⟨fun _ _ => List.disjoint_symm⟩
  exact (List.nodup_flatMap.mp hdistinct).2.forall hr hr' hne h h'

/-- The two texts of a rule are different. -/
theorem opening_ne_closing (hdistinct : (delimiters rules).Nodup) {r : BlockRule}
    (hr : r ∈ rules) : r.opening ≠ r.closing := by
  have hnodup := (List.nodup_flatMap.mp hdistinct).1 r hr
  simpa using hnodup

/-- An element that alone passes a test is the one that is found. The rules are searched in their
order, which does not matter then. -/
theorem find?_eq_some_of_unique {α : Type} {l : List α} {p : α → Bool} {x : α} (hx : x ∈ l)
    (hpx : p x = true) (hunique : ∀ y ∈ l, p y = true → y = x) : l.find? p = some x := by
  cases h : l.find? p with
  | none => exact absurd hpx (List.find?_eq_none.mp h x hx)
  | some y => rw [hunique y (List.mem_of_find?_eq_some h) (List.find?_some h)]

/-- A text that is no delimiter does nothing. It neither opens nor closes, by any rule. -/
theorem blockStep_of_not_delimiter {value : String} (hvalue : value ∉ delimiters rules)
    (stack : List OpenBlock) (index : Nat) :
    blockStep rules stack index value = (stack, none) := by
  have hnot : ∀ rule ∈ rules, rule.opening ≠ value ∧ rule.closing ≠ value := by
    intro rule hrule
    constructor <;> rintro rfl <;> exact hvalue (List.mem_flatMap.mpr ⟨rule, hrule, by simp⟩)
  rcases blockStep_cases rules stack index value with
    h | ⟨rule, hrule, heq, -⟩ | ⟨rule, hrule, heq, -⟩
  · exact h
  · exact absurd heq (hnot rule hrule).1
  · exact absurd heq (hnot rule hrule).2

/-- The opening text of a rule opens its block. It is tried as a closing text first, but it is none
of any rule. -/
theorem blockStep_opening (hdistinct : (delimiters rules).Nodup) {rule : BlockRule}
    (hrule : rule ∈ rules) (stack : List OpenBlock) (index : Nat) :
    blockStep rules stack index rule.opening =
      (⟨rule.name, index, stack.length⟩ :: stack, none) := by
  have hclosing : closingRule? rules stack rule.opening = none := by
    -- closing texts are tried first, and no delimiter is both
    refine List.find?_eq_none.mpr fun r hr h => ?_
    have heq : r.closing = rule.opening := beq_iff_eq.mp (Bool.and_eq_true_iff.mp h).1
    obtain rfl := eq_of_mem_delimiters hdistinct hr hrule
      (heq ▸ List.mem_cons_of_mem _ List.mem_cons_self) List.mem_cons_self
    exact opening_ne_closing hdistinct hr heq.symm
  have hopening : rules.find? (·.opening == rule.opening) = some rule := by
    -- no other rule has this opening text, so the order of the rules does not matter
    refine find?_eq_some_of_unique hrule (beq_self_eq_true _) fun r hr h => ?_
    exact eq_of_mem_delimiters hdistinct hr hrule
      (beq_iff_eq.mp h ▸ List.mem_cons_self) List.mem_cons_self
  unfold blockStep
  rw [hclosing]
  dsimp only
  rw [hopening]

/-- The closing text of a rule closes a block of its name that is on top. Nothing above it is
dropped, as it is the nearest one. -/
theorem blockStep_closing (hdistinct : (delimiters rules).Nodup) {rule : BlockRule}
    (hrule : rule ∈ rules) {block : OpenBlock} (hname : block.name = rule.name)
    (stack : List OpenBlock) (index : Nat) :
    blockStep rules (block :: stack) index rule.closing =
      (stack, some ⟨rule.name, block.openIndex, index, block.depth⟩) := by
  have hclosing : closingRule? rules (block :: stack) rule.closing = some rule := by
    refine find?_eq_some_of_unique hrule (by simp [hname]) fun r hr h => ?_
    have heq : r.closing = rule.closing := beq_iff_eq.mp (Bool.and_eq_true_iff.mp h).1
    exact eq_of_mem_delimiters hdistinct hr hrule
      (heq ▸ List.mem_cons_of_mem _ List.mem_cons_self)
      (List.mem_cons_of_mem _ List.mem_cons_self)
  unfold blockStep
  rw [hclosing]
  dsimp only
  rw [closeNearest?, if_pos hname]

end Delimiters

/-! ### Runs -/

/-- A balanced word closes its pairs and leaves the stack as it was. The induction is on the
derivation, for any stack underneath and any text behind the word. What is inside of a pair gives
the stack back with the block of the pair on top, and so the closing text finds it. -/
theorem closedBlocks_word {rules : List BlockRule} (hdistinct : (delimiters rules).Nodup)
    (d : Balanced rules) (stack : List OpenBlock) (index : Nat) (tail : List String) :
    ∃ closed, closed.Perm (d.spans stack.length index) ∧
      closedBlocks rules stack index (d.word ++ tail) =
        closed ++ closedBlocks rules stack (index + d.word.length) tail := by
  induction d generalizing stack index tail with
  | empty => exact ⟨[], .nil, rfl⟩
  | text value hvalue rest ih =>
    obtain ⟨closed, hperm, hrun⟩ := ih stack (index + 1) tail
    refine ⟨closed, hperm, ?_⟩
    rw [Balanced.word, List.cons_append, closedBlocks, blockStep_of_not_delimiter hvalue,
      List.length_cons, Nat.add_comm rest.word.length, ← Nat.add_assoc]
    exact hrun
  | block rule hrule inner rest ihInner ihRest =>
    -- the inner word is read with the block on top, which its closing text then ends
    obtain ⟨closedInner, hpermInner, hrunInner⟩ :=
      ihInner (⟨rule.name, index, stack.length⟩ :: stack) (index + 1)
        (rule.closing :: (rest.word ++ tail))
    obtain ⟨closedRest, hpermRest, hrunRest⟩ :=
      ihRest stack (index + 1 + inner.word.length + 1) tail
    refine ⟨closedInner ++ ⟨rule.name, index, index + 1 + inner.word.length, stack.length⟩ ::
      closedRest, ?_, ?_⟩
    · exact List.perm_middle.trans ((hpermInner.append hpermRest).cons _)
    · have hlength : index + (Balanced.block rule hrule inner rest).word.length =
          index + 1 + inner.word.length + 1 + rest.word.length := by
        rw [Balanced.word, List.length_cons, List.length_append, List.length_cons]
        omega
      rw [hlength, Balanced.word, List.cons_append, List.append_assoc, List.cons_append,
        closedBlocks, blockStep_opening hdistinct hrule]
      dsimp only
      rw [Option.toList_none, List.nil_append, hrunInner, closedBlocks,
        blockStep_closing hdistinct hrule rfl]
      dsimp only
      rw [Option.toList_some, hrunRest, List.singleton_append, List.append_assoc,
        List.cons_append]

/-- The blocks among tokens with a balanced word are the pairs of its derivation, in the order
of their opening tokens. The depth of each is the number of pairs that lie around it. -/
theorem blockSpans_balanced {rules : List BlockRule} (hdistinct : (delimiters rules).Nodup)
    (d : Balanced rules) {tokens : List Token} (hword : tokens.map (·.value) = d.word) :
    blockSpans tokens rules = d.spans 0 0 ∧
      (∀ s ∈ d.spans 0 0, s.depth = (d.spans 0 0).countP (·.Encloses s)) ∧
      (d.spans 0 0).Pairwise fun a b => a.openIndex < b.openIndex := by
  refine ⟨?_, ?_, d.pairwise_spans 0 0⟩
  · obtain ⟨closed, hperm, hrun⟩ := closedBlocks_word hdistinct d [] 0 []
    rw [List.append_nil, closedBlocks, List.append_nil] at hrun
    unfold blockSpans
    rw [hword]
    exact blockSpansOf_eq_of_perm (hrun ▸ hperm) (d.pairwise_spans 0 0)
  · intro s hs
    rw [d.depth_spans 0 0 s hs, Nat.zero_add]

/-- Two rules with the same name, and a word with nested and adjacent pairs. -/
theorem blockSpans_balanced_nested :
    ∃ (rules : List BlockRule) (d : Balanced rules) (tokens : List Token),
      rules = [⟨"group", "\x7b", "\x7d"⟩, ⟨"group", "(", ")"⟩] ∧
      d.word = ["\x7b", "(", "x", ")", "\x7d", "(", ")"] ∧
      (delimiters rules).Nodup ∧ tokens.map (·.value) = d.word ∧
      blockSpans tokens rules =
        [⟨"group", 0, 4, 0⟩, ⟨"group", 1, 3, 1⟩, ⟨"group", 5, 6, 0⟩] := by
  let d : Balanced [⟨"group", "\x7b", "\x7d"⟩, ⟨"group", "(", ")"⟩] :=
    .block ⟨"group", "\x7b", "\x7d"⟩ (by decide)
      (.block ⟨"group", "(", ")"⟩ (by decide) (.text "x" (by decide) .empty) .empty)
      (.block ⟨"group", "(", ")"⟩ (by decide) .empty .empty)
  exact ⟨_, d, d.word.map fun value => ⟨"punctuation", value, .punctuation, {}⟩, rfl, rfl,
    by decide, rfl, (blockSpans_balanced (by decide) d rfl).1⟩

end Polyglot
