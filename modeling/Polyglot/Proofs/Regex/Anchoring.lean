import Polyglot.Proofs.Regex.Closing
import Polyglot.Proofs.Regex.Matching

/-!
# `Polyglot.Proofs.Regex.Anchoring`: a pattern between `^(?:` and `)`

What becomes of a pattern when it is put between `^(?:` and `)` as text, given that the result is an
expression. Some parenthesis closes the group that was opened, and by `Stage.run_leads` the text in
front of it is a pattern in its own right.

* If it is the parenthesis behind the pattern, the pattern is an expression by itself, and the
  group only puts the assertion of the start in front (`parse?_anchored`, `matches_anchored`).
* If it is a parenthesis of the pattern, the pattern closes the group (`ClosesGroup`). By itself it
  is no expression then: nothing is open where it has that parenthesis (`parse?_of_closesGroup`).

The nesting of expressions is limited, so in both cases it has to be known that a part is not deeper
than the whole (`Stage.within_of_run`).
-/

set_option autoImplicit false

namespace Polyglot.Regex

/-! ### Depth -/

/-- A running maximum is within a bound just if its start and all values are. The depth of a row of
parts is computed in this way, and the lemmas on depths below speak of one part at a time. -/
theorem foldl_max_le_iff {α : Type} (f : α → Nat) (l : List α) (start bound : Nat) :
    l.foldl (fun d x => max d (f x)) start ≤ bound ↔ start ≤ bound ∧ ∀ x ∈ l, f x ≤ bound := by
  induction l generalizing start with
  | nil => simp
  | cons x l ih => rw [List.foldl_cons, ih, Nat.max_le, List.forall_mem_cons, and_assoc]

/-- What has several parts is a level deeper than all of them. A row of items and a row of branches
are measured alike, so the two lemmas below are cases of this one. The bound is left open, which
gives both directions of a comparison at once. -/
theorem level_le_iff {α : Type} (f : α → Nat) (l : List α) {bound : Nat} :
    (if l.reverse.length ≥ 2 then l.reverse.foldl (fun d x => max d (f x)) 0 + 1
      else l.reverse.foldl (fun d x => max d (f x)) 0) ≤ bound ↔
      ∀ x ∈ l, f x + (if 2 ≤ l.length then 1 else 0) ≤ bound := by
  rw [List.length_reverse]
  split
  case isTrue hlength =>
    obtain ⟨x, hx⟩ := List.exists_mem_of_length_pos (Nat.lt_of_lt_of_le Nat.zero_lt_two hlength)
    constructor
    · intro h y hy
      have hle := ((foldl_max_le_iff f l.reverse 0 (bound - 1)).mp (by omega)).2 y
        (List.mem_reverse.mpr hy)
      omega
    · intro h
      have hpos := h x hx
      have hle : l.reverse.foldl (fun d x => max d (f x)) 0 ≤ bound - 1 := by
        refine (foldl_max_le_iff f l.reverse 0 _).mpr ⟨Nat.zero_le _, fun y hy => ?_⟩
        have := h y (List.mem_reverse.mp hy)
        omega
      omega
  case isFalse hlength => simp only [foldl_max_le_iff, Nat.zero_le, true_and, List.mem_reverse,
      Nat.add_zero]

/-- The depth of a branch. It is that of its deepest item, and one more if there are several items.
-/
theorem Branches.branch_le_iff (b : Branches) {bound : Nat} :
    b.branch.2 ≤ bound ↔
      ∀ item ∈ b.items, item.depth + (if 2 ≤ b.items.length then 1 else 0) ≤ bound :=
  level_le_iff Item.depth b.items

/-- The depth of a group. Its branches count as items do in a branch, the last one, which is still
open, included. -/
theorem Branches.close_le_iff (b : Branches) {bound : Nat} :
    b.close.2 ≤ bound ↔ ∀ branch ∈ b.branch :: b.done,
      branch.2 + (if 2 ≤ (b.branch :: b.done).length then 1 else 0) ≤ bound :=
  level_le_iff Prod.snd (b.branch :: b.done)

/-- A group gets deeper with its last branch. The branches in front of it are the same and there are
as many, so only that branch counts. -/
theorem Branches.close_mono {b b' : Branches} (hdone : b.done = b'.done)
    (hbranch : b.branch.2 ≤ b'.branch.2) : b.close.2 ≤ b'.close.2 := by
  have h := b'.close_le_iff.mp (Nat.le_refl _)
  rw [List.forall_mem_cons] at h
  refine b.close_le_iff.mpr (List.forall_mem_cons.mpr ⟨?_, ?_⟩)
  · have := h.1
    rw [List.length_cons] at this ⊢
    rw [hdone]
    omega
  · intro branch hmem
    have := h.2 branch (hdone ▸ hmem)
    rw [List.length_cons] at this ⊢
    rw [hdone]
    exact this

/-- The last branch of a group is not deeper than the group. With other branches in front of it the
group is even a level deeper. -/
theorem Branches.branch_le_close (b : Branches) : b.branch.2 ≤ b.close.2 := by
  have h := b.close_le_iff.mp (Nat.le_refl _) b.branch List.mem_cons_self
  omega

/-- A part is not deeper than the group. So a group that was closed on the way is not deeper than
the one that it became a part of. -/
theorem Branches.depth_le_close (b : Branches) (item : Item) :
    item.depth ≤ (b.push item).close.2 := by
  have h := (b.push item).branch_le_iff.mp (Nat.le_refl _) item List.mem_cons_self
  have := (b.push item).branch_le_close
  omega

/-- A group gets no less deep with another part. The bound for the items stays or gets tighter by
the level that a second item adds. -/
theorem Branches.close_le_push (b : Branches) (item : Item) :
    b.close.2 ≤ (b.push item).close.2 := by
  refine close_mono rfl (b.branch_le_iff.mpr fun item' hmem => ?_)
  have h := (b.push item).branch_le_iff.mp (Nat.le_refl _) item' (List.mem_cons_of_mem _ hmem)
  have hlength : (b.push item).items.length = b.items.length + 1 := rfl
  rw [hlength] at h
  split at h <;> split <;> omega

/-- A group gets no less deep with another branch. The branch that was open is done now and still
counts, and an empty one is added. -/
theorem Branches.close_le_branched (b : Branches) :
    b.close.2 ≤ (Branches.close { done := b.branch :: b.done }).2 := by
  refine b.close_le_iff.mpr fun branch hmem => ?_
  have h := (Branches.close_le_iff { done := b.branch :: b.done }).mp (Nat.le_refl _) branch
    (List.mem_cons_of_mem _ hmem)
  simp only [List.length_cons] at h ⊢
  split at h <;> split <;> omega

/-- A branch gets no less deep when its last part does. The number of parts stays, so the level
stays. -/
theorem Branches.branch_le_of_depth_le {item item' : Item} (h : item.depth ≤ item'.depth)
    (items : List Item) (done : List (Regex × Nat)) :
    (Branches.branch ⟨item :: items, done⟩).2 ≤ (Branches.branch ⟨item' :: items, done⟩).2 := by
  have hle := (Branches.branch_le_iff ⟨item' :: items, done⟩).mp (Nat.le_refl _)
  rw [List.forall_mem_cons] at hle
  refine (Branches.branch_le_iff _).mpr (List.forall_mem_cons.mpr ⟨?_, hle.2⟩)
  have := hle.1
  simp only [List.length_cons] at this ⊢
  omega

/-- A group gets no less deep when a part is repeated. A repetition wraps the last part, which adds
a level to it. -/
theorem Branches.close_le_repeatLast {b b' : Branches} {flags : Flags} {r : Repetition}
    (h : b.repeatLast? flags r = some b') : b.close.2 ≤ b'.close.2 := by
  obtain ⟨items, done⟩ := b
  unfold repeatLast? at h
  split at h
  case h_2 => exact nomatch h
  case h_1 body depth items hitems =>
    obtain rfl := hitems
    obtain rfl := Option.some.inj h
    have hdepth : ∀ body', (Item.expr body depth).depth ≤ (Item.expr body' (depth + 1)).depth :=
      fun _ => Nat.le_succ depth
    exact close_mono rfl (branch_le_of_depth_le (hdepth _) items done)

namespace Stage

/-- No group that is open at a stage is deeper than a bound. -/
def Within (p : Stage) (bound : Nat) : Prop :=
  p.branches.close.2 ≤ bound ∧ ∀ w ∈ p.waiting, w.branches.close.2 ≤ bound

/-- What is not too deep behind a step was not too deep in front of it. The depth of the open groups
only grows on the way, so a bound for the end is one for all stages. There is a case for each kind
of step. -/
theorem Within.of_step {p q : Stage} {c : Char} {rest rest' : List Char} {bound : Nat}
    (hstep : p.step? c rest = some (q, rest')) (h : q.Within bound) : p.Within bound := by
  obtain ⟨hq, hwaiting⟩ := h
  by_cases hopen : c = '('
  · subst hopen
    simp only [step?, if_true] at hstep
    obtain ⟨⟨opened, _⟩, -, hstep⟩ := Option.bind_eq_some_iff.mp hstep
    obtain ⟨q', hq', hstep⟩ := Option.map_eq_some_iff.mp hstep
    obtain ⟨rfl, rfl⟩ := Prod.mk.inj hstep
    cases opened with
    | directive inner =>
      obtain rfl := Option.some.inj hq'
      exact ⟨Nat.le_trans (p.branches.close_le_push .directive) hq, hwaiting⟩
    | group inner captured =>
      -- the group that was being read is the first one that waits
      obtain rfl := Option.some.inj hq'
      exact List.forall_mem_cons.mp hwaiting
    | named name =>
      rw [opened?] at hq'
      split at hq'
      · cases hq'
      · obtain rfl := Option.some.inj hq'
        exact List.forall_mem_cons.mp hwaiting
  by_cases hclose : c = ')'
  · subst hclose
    rw [step?, if_neg hopen, if_pos rfl] at hstep
    split at hstep
    case h_1 => cases hstep
    case h_2 outer waiting hp =>
      obtain ⟨rfl, rfl⟩ := Prod.mk.inj (Option.some.inj hstep)
      -- the group that was being read is a part of the one around it
      have hinner := Nat.le_trans (outer.branches.depth_le_close _) hq
      have houter := Nat.le_trans (outer.branches.close_le_push _) hq
      refine ⟨Nat.le_trans (Nat.le_succ _) hinner, ?_⟩
      rw [hp]
      exact List.forall_mem_cons.mpr ⟨houter, hwaiting⟩
  by_cases hbranch : c = '|'
  · subst hbranch
    obtain ⟨rfl, rfl⟩ := Prod.mk.inj (Option.some.inj hstep)
    exact ⟨Nat.le_trans p.branches.close_le_branched hq, hwaiting⟩
  by_cases hrepeats : repeats c
  · simp only [step?_repetition hrepeats] at hstep
    obtain ⟨⟨r, _⟩, -, hstep⟩ := Option.bind_eq_some_iff.mp hstep
    obtain ⟨q', hq', hstep⟩ := Option.map_eq_some_iff.mp hstep
    obtain ⟨rfl, rfl⟩ := Prod.mk.inj hstep
    obtain ⟨b, hb, rfl⟩ := Option.map_eq_some_iff.mp hq'
    exact ⟨Nat.le_trans (Branches.close_le_repeatLast hb) hq, hwaiting⟩
  · simp only [step?_item hopen hclose hbranch hrepeats] at hstep
    obtain ⟨⟨item, _⟩, -, hstep⟩ := Option.map_eq_some_iff.mp hstep
    obtain ⟨rfl, rfl⟩ := Prod.mk.inj hstep
    exact ⟨Nat.le_trans (p.branches.close_le_push item) hq, hwaiting⟩

/-- All that is read on the way is within the depth of the whole. The limit on nesting is checked at
the end only, for the whole pattern, and this carries it back to the pattern inside the anchored
group. -/
theorem within_of_run {p : Stage} {fuel : Nat} {text : List Char} {answer : Regex × Nat}
    (h : p.run fuel text = some answer) : p.Within answer.2 := by
  induction fuel generalizing p text with
  | zero => exact nomatch h
  | succ fuel ih =>
    cases hskip : p.flags.skip text with
    | nil =>
      rw [run_of_skip_nil hskip] at h
      split at h
      case isTrue hwaiting =>
        obtain rfl := Option.some.inj h
        rw [List.isEmpty_iff] at hwaiting
        -- at the end the whole is the group itself
        exact ⟨Nat.le_refl _, by simp [hwaiting]⟩
      case isFalse => exact nomatch h
    | cons c rest =>
      rw [run_of_skip_cons hskip] at h
      obtain ⟨q, hstep, h⟩ := Option.bind_eq_some_iff.mp h
      exact (ih h).of_step hstep

end Stage

/-! ### Expressions in a row -/

/-- A row matches what its first expression matches, and then what the others match. A row of one is
that expression and not a sequence with an empty one, which is why this needs a proof. -/
theorem matches_row_cons {r : Regex} {rest : List Regex} {p q : Place} :
    (row (r :: rest)).Matches p q ↔ ∃ m, r.Matches p m ∧ (row rest).Matches m q := by
  cases rest with
  | nil =>
    simp only [row, Matches]
    constructor
    · exact fun h => ⟨q, h, rfl⟩
    · rintro ⟨m, h, rfl⟩
      exact h
  | cons r' rest => rfl

/-- Two rows in one match what the first matches, and then what the second matches. A sequence of
sequences is flattened when it is built, so rows are put together whole. -/
theorem matches_row_append {front rest : List Regex} {p q : Place} :
    (row (front ++ rest)).Matches p q ↔ ∃ m, (row front).Matches p m ∧ (row rest).Matches m q := by
  induction front generalizing p with
  | nil =>
    simp only [row, Matches, List.nil_append]
    constructor
    · exact fun h => ⟨p, rfl, h⟩
    · rintro ⟨m, rfl, h⟩
      exact h
  | cons r front ih =>
    rw [List.cons_append, matches_row_cons]
    simp only [ih, matches_row_cons]
    constructor
    · rintro ⟨m, hr, m', hfront, hrest⟩
      exact ⟨m', ⟨m, hr, hfront⟩, hrest⟩
    · rintro ⟨m', ⟨m, hr, hfront⟩, hrest⟩
      exact ⟨m, hr, m', hfront, hrest⟩

/-- The parts of an expression in a row match what the expression matches. Flattening a sequence
does not change its meaning. -/
theorem matches_row_parts (r : Regex) {p q : Place} :
    (row r.parts).Matches p q ↔ r.Matches p q := by
  induction r generalizing p q with
  | seq a b iha ihb =>
    rw [parts, matches_row_append]
    simp only [iha, ihb]
    rfl
  | empty | set | assert | alt | group | rep => rfl

/-- The assertion of the start is in front of all parts of an expression. It stands outside the
group, so it is in front of a choice as a whole and not of its first branch. -/
theorem seqAll_anchored (r : Regex) :
    seqAll [.assert .textStart, r] = row (.assert .textStart :: r.parts) := by
  simp [seqAll, parts]

/-- Behind the assertion of the start, an expression is matched at the start only. The assertion
holds where no character is in front and takes none itself. -/
theorem matches_anchored {r : Regex} {p q : Place} :
    (seqAll [.assert .textStart, r]).Matches p q ↔ p.before = none ∧ r.Matches p q := by
  rw [seqAll_anchored, matches_row_cons]
  simp only [matches_row_parts, Matches, Assertion.holds, Option.isNone_iff_eq_none]
  constructor
  · rintro ⟨m, ⟨hbefore, rfl⟩, h⟩
    exact ⟨hbefore, h⟩
  · rintro ⟨hbefore, h⟩
    exact ⟨p, ⟨hbefore, rfl⟩, h⟩

/-- A single branch is left as it is. A branch that is a choice itself is excluded, since its
alternatives would be taken apart to share their common start. -/
theorem altAll_singleton {r : Regex} (h : ∀ a b, r ≠ .alt a b) : altAll [r] = r := by
  have halternatives : r.alternatives = [r] := by
    cases r with
    | alt a b => exact (h a b rfl).elim
    | _ => rfl
  have hplain : altPlain [r] = r := by
    simp [altPlain, halternatives]
  unfold altAll
  rw [hplain]
  split
  · exact (h _ _ rfl).elim
  · rfl

/-! ### The anchored group -/

/-- A pattern between `^(?:` and `)`. -/
def anchored (pattern : List Char) : List Char := "^(?:".toList ++ pattern ++ [')']

/-- A pattern closes the group that it is put in: a beginning of it, in front of a parenthesis,
already completes that group. -/
def ClosesGroup (pattern : List Char) : Prop :=
  ∃ inside rest, pattern = inside ++ ')' :: rest ∧ (parse? (anchored inside)).isSome

/-- What waits for the anchored group to end. -/
def anchor : Waiting := ⟨{ items := [.expr (.assert .textStart) 0] }, {}, false⟩

/-- What stands in front of the pattern is read in two steps. One pushes the assertion and the other
one opens the group. Behind them the parser stands as at the start of a pattern, but for the one
group that waits. -/
theorem run_anchored (fuel : Nat) (text : List Char) :
    ({} : Stage).run (fuel + 2) ("^(?:".toList ++ text) =
      (({} : Stage).inside [anchor]).run fuel text := by
  have hassert : ({} : Stage).step? '^' ('(' :: '?' :: ':' :: text) =
      some ({ branches := anchor.branches }, '(' :: '?' :: ':' :: text) := rfl
  have hopen : ({ branches := anchor.branches } : Stage).step? '(' ('?' :: ':' :: text) =
      some (({} : Stage).inside [anchor], text) := rfl
  rw [show "^(?:".toList ++ text = '^' :: '(' :: '?' :: ':' :: text from rfl,
    Stage.run_of_skip_cons (c := '^') rfl, hassert, Option.bind_some,
    Stage.run_of_skip_cons (c := '(') rfl, hopen, Option.bind_some]

/-- What an expression in the anchored group becomes. It is two levels deeper than by itself: one
for the group and one for the sequence with the assertion. -/
theorem close_anchor (r : Regex) (depth : Nat) :
    (anchor.branches.push (.expr r (depth + 1))).close =
      (seqAll [.assert .textStart, r], depth + 2) := by
  -- a branch that is a choice itself would be taken apart
  have hrow : ∀ a b, seqAll [.assert .textStart, r] ≠ .alt a b := by
    intro a b h
    rw [seqAll_anchored] at h
    cases hr : r.parts with
    | nil =>
      rw [hr] at h
      exact nomatch h
    | cons r' rest =>
      rw [hr] at h
      exact nomatch h
  have hclose : (anchor.branches.push (.expr r (depth + 1))).close =
      (altAll [seqAll [.assert .textStart, r]], max 0 (max (max 0 0) (depth + 1) + 1)) := rfl
  rw [hclose, altAll_singleton hrow]
  simp

/-- A pattern is an expression if the parser gets to its end and the expression is not nested too
deeply. The fuel is one more than the characters, as each step takes one at least. -/
theorem parse?_eq_some_iff {text : List Char} {r : Regex} :
    parse? text = some r ↔
      ∃ depth, ({} : Stage).run (text.length + 1) text = some (r, depth) ∧ depth ≤ maxNesting := by
  unfold parse?
  constructor
  · intro h
    obtain ⟨⟨r', depth⟩, hrun, h⟩ := Option.bind_eq_some_iff.mp h
    obtain ⟨_, hguard, h⟩ := Option.bind_eq_some_iff.mp h
    obtain rfl := Option.some.inj h
    exact ⟨depth, hrun, by simpa [guard] using hguard⟩
  · rintro ⟨depth, hrun, hdepth⟩
    refine Option.bind_eq_some_iff.mpr ⟨(r, depth), hrun, ?_⟩
    simp [guard, hdepth]

namespace Stage

variable {e : Stage} {v s : List Char}

/-- At the end of the anchored group the pattern is complete. No group is open then and no text is
left, so the branches are closed. -/
theorem run_closedInto_anchor (fuel : Nat) :
    (e.closedInto anchor []).run (fuel + 1) [] =
      some (seqAll [.assert .textStart, e.branches.close.1], e.branches.close.2 + 2) := by
  rw [run_of_skip_nil rfl, ← close_anchor]
  rfl

/-- Where no group is open, a pattern may end. What leads to the stage `e` with a parenthesis behind
it leads there at the end of the text as well. -/
theorem Leads.run_end (h : Leads {} e v s) {fuel : Nat} (hfuel : v.length < fuel) :
    ({} : Stage).run fuel v = some e.branches.close := by
  have hrun := h.run_eq [] 0 fuel [] (some e.branches.close) .nil (fun n t ht => ?_) hfuel
  · simpa [inside] using hrun
  · rw [Nat.add_zero, run_of_skip_nil (p := e.inside []) ht]
    simp [h.closed]

/-- Where no group is open, there is nothing to close. So a pattern with a parenthesis too many is
refused, whatever follows. -/
theorem Leads.run_closing (h : Leads {} e v s) {fuel : Nat} (hfuel : v.length < fuel)
    (rest : List Char) : ({} : Stage).run fuel (v ++ ')' :: rest) = none := by
  have hrun := h.run_eq [] 0 fuel (')' :: rest) none (.closing rest) (fun n t ht => ?_) hfuel
  · simpa [inside] using hrun
  · rw [Nat.add_zero, run_of_skip_cons (p := e.inside []) ht]
    simp [step?, h.closed]

/-- Where only the anchored group is open, a parenthesis completes it. The same text `v` is read
with the group around it as without. This and the two lemmas before it are the three ends that are
compared. -/
theorem Leads.run_anchored (h : Leads {} e v s) :
    ({} : Stage).run ((anchored v).length + 1) (anchored v) =
      some (seqAll [.assert .textStart, e.branches.close.1], e.branches.close.2 + 2) := by
  have hrun := h.run_eq [anchor] 1 (v.length + 3) [')']
    (some (seqAll [.assert .textStart, e.branches.close.1], e.branches.close.2 + 2)) (.closing [])
    (fun n t ht => ?_) (by omega)
  · rw [anchored, List.append_assoc, ← hrun, ← Regex.run_anchored]
    simp
  · rw [run_of_skip_cons (p := e.inside [anchor]) ht]
    simp only [step?, inside_waiting, h.closed]
    exact run_closedInto_anchor n

end Stage

/-- Where the anchored group of a complete pattern ends. There is a parenthesis that closes it,
since it is open behind `^(?:`. This may be the last character, or it may be one of the pattern. -/
theorem leads_of_parse?_anchored {inside : List Char} {r : Regex}
    (h : parse? (anchored inside) = some r) :
    ∃ e v s n depth, inside ++ [')'] = v ++ ')' :: s ∧ Stage.Leads {} e v s ∧
      (e.closedInto anchor []).run n s = some (r, depth) ∧ depth ≤ maxNesting := by
  obtain ⟨depth, hrun, hdepth⟩ := parse?_eq_some_iff.mp h
  rw [anchored, List.append_assoc] at hrun
  have hfuel : ("^(?:".toList ++ (inside ++ [')'])).length + 1 = inside.length + 4 + 2 := by
    simp
  rw [hfuel, run_anchored] at hrun
  obtain ⟨e, v, s, n, htext, hleads, hrest⟩ := Stage.run_leads hrun
  exact ⟨e, v, s, n, depth, htext, hleads, hrest, hdepth⟩

/-- If a pattern in an anchored group is complete, either a beginning of it completes the group or
it is complete on its own and the group adds nothing but the assertion. In the second case the
parenthesis that closes the group is the last one, and the pattern is what led there. -/
theorem parse?_anchored {pattern : List Char} {r : Regex}
    (h : parse? (anchored pattern) = some r) (hcloses : ¬ ClosesGroup pattern) :
    ∃ r', parse? pattern = some r' ∧ r = seqAll [.assert .textStart, r'] := by
  obtain ⟨e, v, s, n, depth, htext, hleads, hrest, hdepth⟩ := leads_of_parse?_anchored h
  -- the inside of the group is less deep than the whole, so it is not too deep by itself
  have hinner : e.branches.close.2 + 2 ≤ depth := by
    have hwithin := (Stage.within_of_run hrest).1
    rw [show (e.closedInto anchor []).branches =
      anchor.branches.push (.expr e.branches.close.1 (e.branches.close.2 + 1)) from rfl,
      close_anchor] at hwithin
    exact hwithin
  obtain rfl | ⟨s, c, rfl⟩ := List.eq_nil_or_concat s
  · -- the group is closed by the parenthesis behind the pattern
    obtain rfl := List.append_cancel_right htext
    have hend : ({} : Stage).run (pattern.length + 1) pattern =
      some (e.branches.close.1, e.branches.close.2) := hleads.run_end (Nat.lt_succ_self _)
    have hinner' : e.branches.close.2 ≤ depth := Nat.le_trans (Nat.le_add_right _ 2) hinner
    refine ⟨_, parse?_eq_some_iff.mpr ⟨_, hend, Nat.le_trans hinner' hdepth⟩, ?_⟩
    cases n with
    | zero => exact nomatch hrest
    | succ n =>
      rw [Stage.run_closedInto_anchor] at hrest
      exact (Prod.mk.inj (Option.some.inj hrest)).1.symm
  · -- the group is closed by a parenthesis of the pattern
    rw [List.concat_eq_append, ← List.cons_append, ← List.append_assoc] at htext
    obtain ⟨hpattern, -⟩ := List.append_inj' htext rfl
    have hanchored := parse?_eq_some_iff.mpr
      ⟨_, hleads.run_anchored, Nat.le_trans hinner hdepth⟩
    exact (hcloses ⟨v, s, hpattern, Option.isSome_of_eq_some hanchored⟩).elim

/-- A pattern that closes the group it is put in has a parenthesis too many. Without the group
around, no group is open where that parenthesis is read. -/
theorem parse?_of_closesGroup {pattern : List Char} (h : ClosesGroup pattern) :
    parse? pattern = none := by
  obtain ⟨inside, rest, rfl, hcomplete⟩ := h
  obtain ⟨r, hr⟩ := Option.isSome_iff_exists.mp hcomplete
  obtain ⟨e, v, s, -, -, htext, hleads, -, -⟩ := leads_of_parse?_anchored hr
  -- the parenthesis that closes the anchored group is one of the pattern, also if it is the last
  have hpattern : inside ++ ')' :: rest = v ++ ')' :: (s ++ rest) := by
    rw [← List.cons_append, ← List.append_assoc, ← htext, List.append_assoc]
    rfl
  cases hparse : parse? (inside ++ ')' :: rest) with
  | none => rfl
  | some r' =>
    obtain ⟨depth, hrun, -⟩ := parse?_eq_some_iff.mp hparse
    have hfuel : v.length < (v ++ ')' :: (s ++ rest)).length + 1 := by
      rw [List.length_append, List.length_cons]
      omega
    rw [hpattern, hleads.run_closing hfuel] at hrun
    exact nomatch hrun

end Polyglot.Regex
