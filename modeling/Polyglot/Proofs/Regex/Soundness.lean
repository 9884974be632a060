import Polyglot.Matcher.Basic
import Polyglot.Proofs.Regex.Matching

/-!
# `Polyglot.Proofs.Regex.Soundness`: what a search finds is a match

`search?_matches`: where a search for an expression ends, a match of the expression ends, and it
starts at that place of the text or in front of it.

The threads of a search do not remember where they started, and need not: each of them *continues*
some start (`Continues`), in the sense that whatever it accepts from now on would have been
accepted from there. This is kept by every instruction, so by a closure over the instructions that
read nothing (`close_forall`), by an arrival (`arrive_sound`) and by a run (`run_sound`). That
threads are dropped when a preferred one accepts makes no difference to it.
-/

set_option autoImplicit false

namespace Polyglot.Regex

/-- The start of a text. -/
def Place.start (text : List Char) : Place := ⟨none, text⟩

/-- The place behind a number of characters. -/
def Place.skip (p : Place) (n : Nat) : Place := ⟨Matcher.lastOf p.before p.rest n, p.rest.drop n⟩

/-- The place behind one more character. The search counts characters, and matching speaks of what
is left of the text. -/
theorem Place.skip_succ {text : List Char} {n : Nat} {c : Char} {rest : List Char}
    (h : text.drop n = c :: rest) : (Place.start text).skip (n + 1) = ⟨some c, rest⟩ := by
  have hget : text[n]? = some c := by
    rw [← Nat.add_zero n, ← List.getElem?_drop, h]
    rfl
  have hdrop : text.drop (n + 1) = rest := by
    rw [← List.drop_drop, h]
    rfl
  rw [skip, start]
  simp only [Matcher.lastOf, hget, hdrop]
  rfl

variable {program : Program} {text : List Char}

/-- A thread at an instruction, `position` characters after the start of the text, accepts only
what is accepted from the entry of the program at some place up to there. -/
def Continues (program : Program) (text : List Char) (position i : Nat) : Prop :=
  ∃ s, s ≤ position ∧ ∀ n q, Accepts program.code n i ((Place.start text).skip position) q →
    ∃ m, Accepts program.code m program.entry ((Place.start text).skip s) q

/-- The program accepts from the entry at some place in front of the end of a match. -/
def FoundAt (program : Program) (text : List Char) (stop : Nat) : Prop :=
  ∃ s m, s ≤ stop ∧
    Accepts program.code m program.entry ((Place.start text).skip s) ((Place.start text).skip stop)

/-- A thread at the entry of the program continues the place where it is. The search starts such a
thread wherever a match may begin. -/
theorem continues_entry (position : Nat) : Continues program text position program.entry :=
  ⟨position, Nat.le_refl position, fun n _ h => ⟨n, h⟩⟩

/-- A thread that accepts has found the end of a match. Nothing is left to be accepted from there,
so the start that it continues has its end here. -/
theorem Continues.found {position i : Nat} (h : Continues program text position i)
    (hcode : program.code[i]? = some .accept) : FoundAt program text position := by
  obtain ⟨s, hs, hcontinues⟩ := h
  obtain ⟨m, hm⟩ := hcontinues 0 _ (.accept hcode)
  exact ⟨s, m, hs, hm⟩

/-- A thread that reads a character continues the same place. What it accepts from behind the
character, a thread in front of the character accepts by reading it. -/
theorem Continues.read {position i next : Nat} {c : Char} {rest : List Char} {s : CharSet}
    (h : Continues program text position i) (htext : text.drop position = c :: rest)
    (hcode : program.code[i]? = some (.read s next)) (hc : s.contains c = true) :
    Continues program text (position + 1) next := by
  obtain ⟨s, hs, hcontinues⟩ := h
  refine ⟨s, Nat.le_succ_of_le hs, fun n q haccepts => ?_⟩
  rw [Place.skip_succ htext] at haccepts
  refine hcontinues (n + 1) q ?_
  have hplace : (Place.start text).skip position =
      ⟨Matcher.lastOf none text position, c :: rest⟩ := by
    rw [← htext]
    rfl
  rw [hplace]
  exact .read hcode hc haccepts

/-! ### Arrivals -/

/-- A property of threads that every instruction keeps that reads nothing is kept by following these
instructions. The work list, the mask of what was seen and the fuel matter for the end of the search
and not for this. -/
theorem close_forall {code : Array Instr} {before after : Option Char} {keeps : Nat → Prop}
    (hsplit : ∀ i a b, code[i]? = some (.split a b) → keeps i → keeps a ∧ keeps b)
    (htest : ∀ i a next, code[i]? = some (.test a next) → a.holds before after = true →
      keeps i → keeps next)
    {fuel : Nat} {work : List Nat} {seen : Nat} {found : List Nat}
    (hwork : ∀ i ∈ work, keeps i) (hfound : ∀ i ∈ found, keeps i) :
    ∀ i ∈ close code before after fuel work seen found, keeps i := by
  -- the invariant is about the threads to come and those that have been found
  fun_induction close code before after fuel work seen found with
  | case1 => exact hfound
  | case2 => exact hfound
  | case3 fuel place work seen found _ ih => exact ih (List.forall_mem_cons.mp hwork).2 hfound
  | case4 fuel place work _ found _ _ a b hcode ih =>
    obtain ⟨hplace, hrest⟩ := List.forall_mem_cons.mp hwork
    obtain ⟨ha, hb⟩ := hsplit place a b hcode hplace
    refine ih ?_ hfound
    simp only [List.forall_mem_cons]
    exact ⟨ha, hb, hrest⟩
  | case5 fuel place work _ found _ _ a next hcode hholds ih =>
    obtain ⟨hplace, hrest⟩ := List.forall_mem_cons.mp hwork
    have hnext := htest place a next hcode hholds hplace
    exact ih (List.forall_mem_cons.mpr ⟨hnext, hrest⟩) hfound
  | case6 fuel place work _ found _ _ a next _ _ ih =>
    exact ih (List.forall_mem_cons.mp hwork).2 hfound
  | case7 fuel place work _ found _ _ s next _ ih =>
    obtain ⟨hplace, hrest⟩ := List.forall_mem_cons.mp hwork
    exact ih hrest (List.forall_mem_cons.mpr ⟨hplace, hfound⟩)
  | case8 fuel place work _ found _ _ _ ih =>
    obtain ⟨hplace, hrest⟩ := List.forall_mem_cons.mp hwork
    exact ih hrest (List.forall_mem_cons.mpr ⟨hplace, hfound⟩)
  | case9 fuel place work _ found _ _ _ ih => exact ih (List.forall_mem_cons.mp hwork).2 hfound

/-- Threads that are reached without reading continue the same places. A choice and an assertion
only add a step to what is accepted. -/
theorem continues_close {position fuel : Nat} {work : List Nat}
    (hwork : ∀ i ∈ work, Continues program text position i) :
    ∀ i ∈ close program.code (Matcher.lastOf none text position) (text.drop position).head? fuel
      work 0 [], Continues program text position i := by
  refine close_forall ?_ ?_ hwork fun _ h => nomatch h
  · rintro i a b hcode ⟨s, hs, hcontinues⟩
    exact ⟨⟨s, hs, fun n q hq => hcontinues (n + 1) q (.first hcode hq)⟩,
      ⟨s, hs, fun n q hq => hcontinues (n + 1) q (.second hcode hq)⟩⟩
  · rintro i a next hcode hholds ⟨s, hs, hcontinues⟩
    exact ⟨s, hs, fun n q hq => hcontinues (n + 1) q (.test hcode hholds hq)⟩

/-- The threads that are kept were there, and so was one that accepts, if there is one. Threads
behind one that accepts are less preferred and dropped, and dropping threads never makes the search
unsound. -/
theorem untilAccept_cases (code : Array Instr) (places : List Nat) :
    (∀ i ∈ (untilAccept code places).1, i ∈ places) ∧
      ((untilAccept code places).2 = true → ∃ i ∈ places, code[i]? = some .accept) := by
  induction places with
  | nil => exact ⟨fun _ h => (nomatch h), fun h => (nomatch h)⟩
  | cons place rest ih =>
    rw [untilAccept]
    split
    · rename_i hcode
      exact ⟨fun _ h => (nomatch h), fun _ => ⟨place, List.mem_cons_self, hcode⟩⟩
    · refine ⟨fun i hi => ?_, fun haccepted => ?_⟩
      · rcases List.mem_cons.mp hi with rfl | hi
        · exact List.mem_cons_self
        · exact List.mem_cons_of_mem _ (ih.1 i hi)
      · obtain ⟨i, hi, hcode⟩ := ih.2 haccepted
        exact ⟨i, List.mem_cons_of_mem _ hi, hcode⟩

/-- Where threads arrive that continue some start, the threads that go on do as well, and the end
that is reported has been found. The reported end is the last one so far, or this position. -/
theorem arrive_sound {pending : List Nat} {position : Nat} {best : Option Nat}
    (hpending : ∀ i ∈ pending, Continues program text position i)
    (hbest : ∀ n, best = some n → FoundAt program text n) :
    let arrived := arrive program (Matcher.lastOf none text position) (text.drop position).head?
      pending position best
    (∀ i ∈ arrived.1, Continues program text position i) ∧
      ∀ n, arrived.2 = some n → FoundAt program text n := by
  unfold arrive
  dsimp only
  generalize hstarts : (if best.isNone && (position == 0 || !program.anchored) then
    [program.entry] else []) = starts
  have hwork : ∀ i ∈ pending ++ starts, Continues program text position i := by
    -- a new thread continues the place where it starts
    intro i hi
    rcases List.mem_append.mp hi with hi | hi
    · exact hpending i hi
    · obtain rfl : i = program.entry := by
        subst hstarts
        split at hi
        · exact List.mem_singleton.mp hi
        · cases hi
      exact continues_entry position
  have hreached := @continues_close program text position
    (2 * program.code.size + (pending ++ starts).length + 1) _ hwork
  generalize close program.code _ _ _ _ 0 [] = reached at hreached
  obtain ⟨hkept, haccepts⟩ := untilAccept_cases program.code reached.reverse
  generalize untilAccept program.code reached.reverse = outcome at hkept haccepts
  obtain ⟨threads, accepted⟩ := outcome
  refine ⟨fun i hi => hreached i (List.mem_reverse.mp (hkept i hi)), fun n hn => ?_⟩
  cases accepted with
  | true =>
    obtain rfl := Option.some.inj hn
    obtain ⟨i, hi, hcode⟩ := haccepts rfl
    exact (hreached i (List.mem_reverse.mp hi)).found hcode
  | false => exact hbest n hn

/-! ### Runs -/

/-- A thread that goes on with a character has read it. No other instruction has a place to go on
with a character. -/
theorem continues_next {position : Nat} {c : Char} {rest : List Char} {threads : List Nat}
    (htext : text.drop position = c :: rest)
    (hthreads : ∀ i ∈ threads, Continues program text position i) :
    ∀ i ∈ threads.filterMap (fun place => program.code[place]?.bind (·.next? c)),
      Continues program text (position + 1) i := by
  intro i hi
  obtain ⟨place, hplace, hnext⟩ := List.mem_filterMap.mp hi
  obtain ⟨instr, hcode, hinstr⟩ := Option.bind_eq_some_iff.mp hnext
  -- only a reading instruction goes on with a character
  cases instr with
  | read s next =>
    rw [Instr.next?] at hinstr
    split at hinstr
    · rename_i hc
      obtain rfl := Option.some.inj hinstr
      exact (hthreads place hplace).read htext hcode hc
    · cases hinstr
  | accept => cases hinstr
  | test a next => cases hinstr
  | split a b => cases hinstr

/-- A run with threads that continue some start reports an end that was found. The induction is on
the text that is left, with what the threads continue and what has been found as the invariant. -/
theorem run_sound {rest : List Char} {position : Nat} {pending : List Nat} {best : Option Nat}
    (htext : text.drop position = rest)
    (hpending : ∀ i ∈ pending, Continues program text position i)
    (hbest : ∀ n, best = some n → FoundAt program text n) {n : Nat}
    (h : run program (Matcher.lastOf none text position) pending position best rest = some n) :
    FoundAt program text n := by
  induction rest generalizing position pending best with
  | nil =>
    have harrived := arrive_sound hpending hbest
    rw [htext] at harrived
    rw [run] at h
    exact harrived.2 n h
  | cons c rest ih =>
    have harrived := arrive_sound hpending hbest
    rw [htext] at harrived
    rw [run] at h
    dsimp only [List.head?_cons] at harrived h
    generalize arrive program _ (some c) pending position best = arrived at harrived h
    obtain ⟨threads, best'⟩ := arrived
    obtain ⟨hthreads, hbest'⟩ := harrived
    dsimp only at hthreads hbest' h
    split at h
    · exact hbest' n h
    · -- the character that is read is the one in front of the next position
      have hlast : some c = Matcher.lastOf none text (position + 1) := by
        have hplace := Place.skip_succ htext
        exact (congrArg Place.before hplace).symm
      rw [hlast] at h
      refine ih ?_ ?_ hbest' h
      · rw [← List.drop_drop, htext]
        rfl
      · exact continues_next htext hthreads

/-- Where a search ends, a match of the expression ends. It starts at some place in front of it, not
always at the start of the text. That the end is the preferred one is not needed here. -/
theorem search?_matches {r : Regex} {text : List Char} {n : Nat}
    (h : r.program.search? text = some n) :
    ∃ s, s ≤ n ∧ r.Matches ((Place.start text).skip s) ((Place.start text).skip n) := by
  obtain ⟨s, m, hs, haccepts⟩ := @run_sound r.program text text 0 [] none rfl
    (fun _ h => nomatch h) (fun _ h => nomatch h) n h
  exact ⟨s, hs, matches_of_accepts haccepts⟩

end Polyglot.Regex
