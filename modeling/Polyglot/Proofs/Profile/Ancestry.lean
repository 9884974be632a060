import Mathlib.Data.Finset.Card
import Polyglot.Profile.Inherit

/-!
# `Polyglot.Proofs.Profile.Ancestry`: the walk along the parents of a profile

Resolution walks from a profile to its parent, to the parent of that, and so on. `ancestor?`
says where the parents lead, and `Passes` where the walk goes on: at each of them it stops if
there is no parent, if the parent is not found, or if its name is one of the names on the way.
`resolveAlong_names` says what resolution answers in each of these cases.

The name of a parent is compared in the spelling in which it is given, and is found perhaps in
another one. So the parents may go round and round while the walk never stops. The bound on the
steps of resolution then gives the answer, and `resolve_eq_endless_iff` says that it does so in
no other case. What carries this is that there are only so many profiles: the parents soon come
back to where they have been (`exists_repeat`), and then one more round meets all names that
there will ever be on the way (`Passes.shift`).

The profiles are those of objects of any kind (`Family`), so that it can be said that a walk
comes to the same object twice, and not only to an equal one.
-/

set_option autoImplicit false

namespace Polyglot

/-- Objects that have profiles and are looked up by name. -/
structure Family (α : Type) where
  /-- The profile of an object. -/
  profile : α → Profile
  /-- The object that is found under a name. -/
  find? : String → Option α

namespace Family

variable {α : Type} (F : Family α)

/-- The profile that is found under a name. -/
def lookup (name : String) : Option Profile := (F.find? name).map F.profile

/-- The object that an object extends. -/
def parent? (a : α) : Option α := (F.profile a).parent.bind F.find?

/-- Where a number of steps to the parent lead. -/
def ancestor? (start : α) : Nat → Option α
  | 0 => some start
  | n + 1 => (ancestor? start n).bind F.parent?

/-- The names that are met in fewer than `n` steps. -/
def names (start : α) (n : Nat) : List String :=
  (List.range n).filterMap fun i => (F.ancestor? start i).map fun a => (F.profile a).name

/-- The walk goes on after `n` steps: the parent is found, and its name in the spelling in which
it is given is none of those on the way. -/
def Passes (start : α) (n : Nat) : Prop :=
  ∃ a name b, F.ancestor? start n = some a ∧ (F.profile a).parent = some name ∧
    name ∉ F.names start (n + 1) ∧ F.find? name = some b

/-- The walk takes `n` steps. -/
def Reaches (start : α) (n : Nat) : Prop := ∀ i < n, F.Passes start i

/-- Whatever is looked for, one of at most `count` objects is found. -/
def FindsAmong (count : Nat) : Prop :=
  ∃ known : List α, known.length ≤ count ∧ ∀ name a, F.find? name = some a → a ∈ known

variable {F} {start : α}

/-! ### Ancestors -/

/-- A name is met in fewer than `n` steps just if an ancestor that near has it. The start counts as
the ancestor without a step. -/
theorem mem_names_iff {n : Nat} {name : String} :
    name ∈ F.names start n ↔
      ∃ i a, i < n ∧ F.ancestor? start i = some a ∧ (F.profile a).name = name := by
  simp only [names, List.mem_filterMap, List.mem_range, Option.map_eq_some_iff]
  constructor
  · rintro ⟨i, hi, a, ha, hname⟩
    exact ⟨i, a, hi, ha, hname⟩
  · rintro ⟨i, a, hi, ha, hname⟩
    exact ⟨i, hi, a, ha, hname⟩

/-- The names that are met, after one more step. It is put behind the others, which is the order in
which a cycle is told in its error. -/
theorem names_succ {n : Nat} {a : α} (h : F.ancestor? start n = some a) :
    F.names start (n + 1) = F.names start n ++ [(F.profile a).name] := by
  rw [names, names, List.range_succ, List.filterMap_append, List.filterMap_cons_some,
    List.filterMap_nil]
  rw [h]
  rfl

/-- The first name that is met is that of the object itself. A cycle is reported for this name,
wherever on the way it was found. -/
theorem headD_names (n : Nat) (other : String) :
    (F.names start (n + 1)).headD other = (F.profile start).name := by
  rw [names, List.range_succ_eq_map, List.filterMap_cons]
  rfl

/-- One more step leads to what is found under the name of the parent. The walk asks for the profile
of the parent, and this says which object it has then come to. -/
theorem ancestor?_succ {n : Nat} {a : α} {name : String} (ha : F.ancestor? start n = some a)
    (hparent : (F.profile a).parent = some name) :
    F.ancestor? start (n + 1) = F.find? name := by
  rw [ancestor?, ha, Option.bind_some, parent?, hparent, Option.bind_some]

/-- Where the walk goes on there is a parent. -/
theorem Passes.exists_succ {n : Nat} (h : F.Passes start n) :
    ∃ b, F.ancestor? start (n + 1) = some b := by
  obtain ⟨a, name, b, ha, hparent, -, hfind⟩ := h
  exact ⟨b, (ancestor?_succ ha hparent).trans hfind⟩

/-- Where the walk comes to there is an ancestor. `Reaches` speaks of the steps only; the object at
the end is the parent that the last step has found. -/
theorem Reaches.exists_ancestor {n : Nat} (h : F.Reaches start n) :
    ∃ a, F.ancestor? start n = some a := by
  cases n with
  | zero => exact ⟨start, rfl⟩
  | succ n => exact (h n (Nat.lt_succ_self n)).exists_succ

/-- The walk takes one more step where it goes on. With `Passes` at the last place, this extends
what is known of all places before. -/
theorem Reaches.succ {n : Nat} (h : F.Reaches start n) (hn : F.Passes start n) :
    F.Reaches start (n + 1) := by
  intro i hi
  rcases Nat.lt_succ_iff_lt_or_eq.mp hi with hi | rfl
  · exact h i hi
  · exact hn

/-- A walk that takes only so many steps stops somewhere. At that place it was still going on, and
the reason why it stops there is the answer of the resolution. -/
theorem exists_stop {count : Nat} (h : ∀ n, F.Reaches start n → n ≤ count) :
    ∃ n, F.Reaches start n ∧ ¬ F.Passes start n := by
  by_contra hnone
  push Not at hnone
  have hreach : ∀ n, F.Reaches start n := by
    intro n
    induction n with
    | zero => exact fun _ hi => nomatch hi
    | succ n ih => exact ih.succ (hnone n ih)
  exact absurd (h (count + 1) (hreach _)) (Nat.not_succ_le_self count)

/-- From the same ancestor on, the parents lead to the same. A step to the parent depends on nothing
but the object. -/
theorem ancestor?_add_eq {i j : Nat} (h : F.ancestor? start i = F.ancestor? start j) (k : Nat) :
    F.ancestor? start (i + k) = F.ancestor? start (j + k) := by
  induction k with
  | zero => exact h
  | succ k ih =>
    show (F.ancestor? start (i + k)).bind F.parent? = (F.ancestor? start (j + k)).bind F.parent?
    rw [ih]

/-- Among so many objects, so many steps to the parent come to one of them twice. This counts the
objects and not their names: different spellings may lead to one object. -/
theorem exists_repeat {count : Nat} (hcount : F.FindsAmong count)
    (h : ∀ n ≤ count + 1, ∃ a, F.ancestor? start n = some a) :
    ∃ i j, i < j ∧ j ≤ count + 1 ∧ F.ancestor? start i = F.ancestor? start j := by
  classical
  obtain ⟨known, hlength, hknown⟩ := hcount
  -- the object at the start need not be one that can be found, so the steps count from its parent
  have hmaps : ∀ n ∈ Finset.range (count + 1),
      F.ancestor? start (n + 1) ∈ (known.map some).toFinset := by
    intro n hn
    obtain ⟨b, hb⟩ := h (n + 1) (Nat.succ_le_succ (Nat.lt_succ_iff.mp (Finset.mem_range.mp hn)))
    obtain ⟨a, -, hparent⟩ := Option.bind_eq_some_iff.mp hb
    obtain ⟨name, -, hfind⟩ := Option.bind_eq_some_iff.mp hparent
    rw [hb, List.mem_toFinset]
    exact List.mem_map_of_mem (hknown name b hfind)
  have hcard : (known.map some).toFinset.card < (Finset.range (count + 1)).card := by
    have hle := List.toFinset_card_le (known.map some)
    rw [List.length_map] at hle
    rw [Finset.card_range]
    omega
  obtain ⟨i, hi, j, hj, hne, heq⟩ := Finset.exists_ne_map_eq_of_card_lt_of_maps_to hcard hmaps
  rw [Finset.mem_range] at hi hj
  rcases Nat.lt_or_gt_of_ne hne with hlt | hlt
  · exact ⟨i + 1, j + 1, Nat.succ_lt_succ hlt, by omega, heq⟩
  · exact ⟨j + 1, i + 1, Nat.succ_lt_succ hlt, by omega, heq.symm⟩

/-- Where the parents have come back to where they were, the walk goes on as it did one round
before: there are no new names on the way. It makes the same step, and the names that it may not
meet are the same, since all of them were met in the first round. -/
theorem Passes.shift {i j n : Nat} (hlt : i < j)
    (hsame : F.ancestor? start i = F.ancestor? start j) (hn : j ≤ n) (h : F.Passes start n) :
    F.Passes start (n + (j - i)) := by
  have hround : ∀ m, i ≤ m → F.ancestor? start (m + (j - i)) = F.ancestor? start m := by
    intro m hm
    obtain ⟨k, rfl⟩ := Nat.exists_eq_add_of_le hm
    rw [ancestor?_add_eq hsame k]
    congr 1
    omega
  obtain ⟨a, name, b, ha, hparent, hnew, hfind⟩ := h
  refine ⟨a, name, b, (hround n (by omega)).trans ha, hparent, fun hmem => hnew ?_, hfind⟩
  obtain ⟨m, c, hm, hc, hname⟩ := mem_names_iff.mp hmem
  rw [mem_names_iff]
  by_cases hnear : m ≤ n
  · exact ⟨m, c, Nat.lt_succ_of_le hnear, hc, hname⟩
  · -- a name of the last round is one of the round before
    refine ⟨m - (j - i), c, by omega, ?_, hname⟩
    rw [← hround (m - (j - i)) (by omega), Nat.sub_add_cancel (by omega)]
    exact hc

/-- A walk that takes two rounds never stops. In the second round it has met all names that it ever
meets. If it passes every place of that round, it passes those of the next one for the same reason
(`Passes.shift`). -/
theorem passes_of_reaches {count : Nat} (hcount : F.FindsAmong count)
    (h : F.Reaches start (2 * count + 2)) (n : Nat) : F.Passes start n := by
  obtain ⟨i, j, hlt, hj, hsame⟩ := exists_repeat hcount fun n hn =>
    Reaches.exists_ancestor fun m hm => h m (by omega)
  -- far enough from the start the walk is where it was one round before
  induction n using Nat.strong_induction_on with
  | _ n ih =>
    by_cases hn : n < 2 * count + 2
    · exact h n hn
    · have hbefore := (ih (n - (j - i)) (by omega)).shift hlt hsame (by omega)
      rwa [Nat.sub_add_cancel (by omega)] at hbefore

/-! ### Resolution -/

section

variable {n : Nat} {a b : α} {name : String}

/-- Resolution after `n` steps, in terms of the names that were met. The program carries the list of
these names along. Here the list is `names`, and the four outcomes of one step can be read off. -/
theorem resolveAlong_names (ha : F.ancestor? start n = some a) (steps : Nat) :
    Profile.resolveAlong F.lookup steps (F.names start n) (F.profile a) =
      match (F.profile a).parent with
      | none => .ok (F.profile a)
      | some name =>
        if name ∈ F.names start (n + 1) then
          .error (.config (F.profile start).name (.extendsCycle (F.names start (n + 1)) name))
        else
          match F.find? name with
          | none => .error (.config (F.profile a).name (.unknownParent name))
          | some b =>
            match steps with
            | 0 => .error (.config (F.profile start).name .endlessChain)
            | steps + 1 =>
              (Profile.resolveAlong F.lookup steps (F.names start (n + 1)) (F.profile b)).map
                (F.profile a).overlay := by
  rw [Profile.resolveAlong]
  cases (F.profile a).parent with
  | none => rfl
  | some name =>
    simp only [← names_succ ha, headD_names, List.contains_iff_mem, lookup]
    split
    · rfl
    · cases F.find? name with
      | none => rfl
      | some b => cases steps <;> rfl

/-- A parent whose name is on the way, in the spelling in which it is given, is a cycle. This is
found before the parent is looked up, so it comes before the error for a parent that is not there.
-/
theorem resolveAlong_of_mem (ha : F.ancestor? start n = some a)
    (hparent : (F.profile a).parent = some name) (hseen : name ∈ F.names start (n + 1))
    (steps : Nat) :
    Profile.resolveAlong F.lookup steps (F.names start n) (F.profile a) =
      .error (.config (F.profile start).name (.extendsCycle (F.names start (n + 1)) name)) := by
  rw [resolveAlong_names ha, hparent]
  exact if_pos hseen

/-- Where the walk goes on and no steps are left, the bound on them is the answer. Where it stops
the bound is never asked for. -/
theorem Passes.resolveAlong_zero (h : F.Passes start n) (ha : F.ancestor? start n = some a) :
    Profile.resolveAlong F.lookup 0 (F.names start n) (F.profile a) =
      .error (.config (F.profile start).name .endlessChain) := by
  obtain ⟨a', name, b, ha', hparent, hnew, hfind⟩ := h
  cases ha'.symm.trans ha
  rw [resolveAlong_names ha, hparent]
  simp only [if_neg hnew, hfind]

/-- Where the walk goes on, the answer is that at the parent, under the profile. An error at the
parent is therefore the answer for all objects on the way to it. -/
theorem Passes.resolveAlong_succ (h : F.Passes start n) (ha : F.ancestor? start n = some a)
    (hb : F.ancestor? start (n + 1) = some b) (steps : Nat) :
    Profile.resolveAlong F.lookup (steps + 1) (F.names start n) (F.profile a) =
      (Profile.resolveAlong F.lookup steps (F.names start (n + 1)) (F.profile b)).map
        (F.profile a).overlay := by
  obtain ⟨a', name, b', ha', hparent, hnew, hfind⟩ := h
  cases ha'.symm.trans ha
  have hb' : b' = b := by
    rw [ancestor?_succ ha hparent, hfind] at hb
    exact Option.some.inj hb
  rw [resolveAlong_names ha, hparent]
  simp only [if_neg hnew, hfind, hb']

/-- Where the walk stops, it makes no difference how many steps are left. So the bound has no
influence on a walk that stops within it. -/
theorem resolveAlong_of_not_passes (ha : F.ancestor? start n = some a)
    (hstop : ¬ F.Passes start n) (steps steps' : Nat) :
    Profile.resolveAlong F.lookup steps (F.names start n) (F.profile a) =
      Profile.resolveAlong F.lookup steps' (F.names start n) (F.profile a) := by
  rw [resolveAlong_names ha steps, resolveAlong_names ha steps']
  cases hparent : (F.profile a).parent with
  | none => rfl
  | some name =>
    by_cases hseen : name ∈ F.names start (n + 1)
    · simp only [if_pos hseen]
    · cases hfind : F.find? name with
      | none => simp only [if_neg hseen, hfind]
      | some b => exact absurd ⟨a, name, b, ha, hparent, hseen, hfind⟩ hstop

/-- Where the walk stops, the bound on the steps is not the answer. It stops at a root, at a parent
that is not found or at a cycle, and each of these has another answer. -/
theorem passes_of_resolveAlong_eq_endless {steps : Nat} {language : String}
    (ha : F.ancestor? start n = some a)
    (h : Profile.resolveAlong F.lookup steps (F.names start n) (F.profile a) =
      .error (.config language .endlessChain)) : F.Passes start n := by
  rw [resolveAlong_names ha] at h
  cases hparent : (F.profile a).parent with
  | none =>
    rw [hparent] at h
    cases h
  | some name =>
    rw [hparent] at h
    by_cases hseen : name ∈ F.names start (n + 1)
    · simp only [if_pos hseen] at h
      cases h
    · cases hfind : F.find? name with
      | none =>
        simp only [if_neg hseen, hfind] at h
        cases h
      -- a parent that is found and new: the only case without an answer of its own
      | some b => exact ⟨a, name, b, ha, hparent, hseen, hfind⟩

end

/-- The answer is the one at a place to which the walk comes, under the profiles on the way. What
they do to a profile does not depend on the steps that are left, so one function serves for all
bounds. -/
theorem Reaches.exists_under {n : Nat} {a : α} (hreach : F.Reaches start n)
    (ha : F.ancestor? start n = some a) : ∃ under : Profile → Profile, ∀ steps,
      Profile.resolveAlong F.lookup (n + steps) [] (F.profile start) =
        (Profile.resolveAlong F.lookup steps (F.names start n) (F.profile a)).map under := by
  induction n generalizing a with
  | zero =>
    cases ha
    refine ⟨id, fun steps => ?_⟩
    rw [Nat.zero_add, Except.map_id]
    rfl
  | succ n ih =>
    have hbefore : F.Reaches start n := fun i hi => hreach i (Nat.lt_succ_of_lt hi)
    obtain ⟨c, hc⟩ := hbefore.exists_ancestor
    obtain ⟨under, hunder⟩ := ih hbefore hc
    -- the profile that is one step further is merged first
    refine ⟨under ∘ (F.profile c).overlay, fun steps => ?_⟩
    rw [Nat.add_right_comm, Nat.add_assoc, hunder,
      (hreach n (Nat.lt_succ_self n)).resolveAlong_succ hc ha]
    cases Profile.resolveAlong F.lookup steps (F.names start (n + 1)) (F.profile a) with
    | error e => rfl
    | ok p => rfl

/-- An error at a place to which the walk comes is the answer. The profiles on the way change a
profile that comes back, but they leave an error as it is. -/
theorem Reaches.resolveAlong_eq_error {n steps : Nat} {a : α} {e : Error}
    (hreach : F.Reaches start n) (ha : F.ancestor? start n = some a)
    (h : Profile.resolveAlong F.lookup steps (F.names start n) (F.profile a) = .error e) :
    Profile.resolveAlong F.lookup (n + steps) [] (F.profile start) = .error e := by
  obtain ⟨under, hunder⟩ := hreach.exists_under ha
  rw [hunder, h]
  rfl

/-- Where the bound on the steps is the answer, the walk takes all of them. The induction is on the
steps that are left, from any place to which the walk has come. -/
theorem reaches_of_resolveAlong_eq_endless {n steps : Nat} {a : α} {language : String}
    (hreach : F.Reaches start n) (ha : F.ancestor? start n = some a)
    (h : Profile.resolveAlong F.lookup steps (F.names start n) (F.profile a) =
      .error (.config language .endlessChain)) : F.Reaches start (n + steps) := by
  induction steps generalizing n a with
  | zero => exact hreach
  | succ steps ih =>
    have hpasses := passes_of_resolveAlong_eq_endless ha h
    obtain ⟨b, hb⟩ := hpasses.exists_succ
    rw [hpasses.resolveAlong_succ ha hb] at h
    rw [← Nat.add_assoc, Nat.add_right_comm]
    refine ih (hreach.succ hpasses) hb ?_
    cases hrest : Profile.resolveAlong F.lookup steps (F.names start (n + 1)) (F.profile b) with
    | error e =>
      rw [hrest] at h
      exact h
    | ok p =>
      rw [hrest] at h
      cases h

/-- A parent whose name is on the way is answered with the names that lead to it. The bound on the
steps is large enough for two rounds, and the cycle is found within it. -/
theorem resolve_eq_cycle {count n : Nat} {a : α} {name : String} (hn : n ≤ 2 * count + 2)
    (hreach : F.Reaches start n) (ha : F.ancestor? start n = some a)
    (hparent : (F.profile a).parent = some name) (hseen : name ∈ F.names start (n + 1)) :
    (F.profile start).resolve F.lookup count =
      .error (.config (F.profile start).name (.extendsCycle (F.names start (n + 1)) name)) := by
  unfold Profile.resolve
  rw [← Nat.add_sub_cancel' hn]
  exact hreach.resolveAlong_eq_error ha (resolveAlong_of_mem ha hparent hseen _)

/-- The bound on the steps is the answer just where the walk never stops. If the bound is the
answer, the walk has taken two rounds, and then it takes all (`passes_of_reaches`). Without a bound
it would not come to an end there. -/
theorem resolve_eq_endless_iff {count : Nat} (hcount : F.FindsAmong count) :
    (F.profile start).resolve F.lookup count =
        .error (.config (F.profile start).name .endlessChain) ↔
      ∀ n, F.Passes start n := by
  unfold Profile.resolve
  constructor
  · intro h
    refine passes_of_reaches hcount ?_
    have hreach := reaches_of_resolveAlong_eq_endless (n := 0) (fun _ hi => nomatch hi) rfl h
    rwa [Nat.zero_add] at hreach
  · intro h
    have hreach : F.Reaches start (2 * count + 2) := fun i _ => h i
    obtain ⟨a, ha⟩ := hreach.exists_ancestor
    exact hreach.resolveAlong_eq_error ha ((h _).resolveAlong_zero ha)

end Family

end Polyglot
