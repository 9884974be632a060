import Polyglot.Regex.Program

/-!
# `Polyglot.Proofs.Regex.Matching`: what an expression matches, and what its program accepts

`Regex.Matches` says which stretches of a text an expression matches. It goes by the expression
alone and says nothing of preference.

A program is run from a place in its code and a place in the text. `Accepts` says that some thread
which starts there comes to an accepting instruction, and where in the text. The main theorem,
`matches_of_accepts`, is that a program accepts only what its expression matches.

`Regex.emit` is handed the place where the code goes on, so what can be said of its code is this:
whatever is accepted from its first instruction is a match of the expression, and then whatever is
accepted from that place (`Emits`). The number of steps is part of the statement because of loops:
going round once more takes a step, so the run that is left is shorter. `final` is the code in
which everything ends up; an emission is only known to be a part of it (`Holds`), since a loop
overwrites the instruction that it has reserved.
-/

set_option autoImplicit false

namespace Polyglot

namespace Regex

/-! ### Matches -/

/-- A place in a text. -/
structure Place where
  /-- The character in front, if there is one. -/
  before : Option Char
  /-- The text from there on. -/
  rest : List Char

/-- A number of matches, one after the other. -/
inductive Times (once : Place → Place → Prop) : Nat → Place → Place → Prop where
  /-- No match. -/
  | zero (p : Place) : Times once 0 p p
  /-- One match and then others. -/
  | succ {n : Nat} {p m q : Place} (h : once p m) (hmore : Times once n m q) :
    Times once (n + 1) p q

end Regex

/-- An expression matches the text between two places. Where the greatest count of a repetition is
below the least one, it is the least one that counts. -/
def Regex.Matches : Regex → Regex.Place → Regex.Place → Prop
  | .empty, p, q => p = q
  | .set s, p, q =>
    ∃ c rest, p.rest = c :: rest ∧ s.contains c = true ∧ q = ⟨some c, rest⟩
  | .assert a, p, q => a.holds p.before p.rest.head? = true ∧ p = q
  | .seq a b, p, q => ∃ m, Matches a p m ∧ Matches b m q
  | .alt a b, p, q => Matches a p q ∨ Matches b p q
  | .group a, p, q => Matches a p q
  | .rep a least most _, p, q =>
    ∃ n, least ≤ n ∧ (∀ m, most = some m → n ≤ max least m) ∧ Regex.Times (Matches a) n p q

namespace Regex

/-- Matches in a row, and then others. Copies of code and a loop behind them each give a number of
matches, and the two numbers are added. -/
theorem Times.append {once : Place → Place → Prop} {a b : Nat} {p m q : Place}
    (h : Times once a p m) (h' : Times once b m q) : Times once (a + b) p q := by
  induction h with
  | zero _ =>
    rw [Nat.zero_add]
    exact h'
  | succ hfirst _ ih =>
    rw [Nat.succ_add]
    exact .succ hfirst (ih h')

/-- One match in a row. A loop and an option are entered by one match of their body. -/
theorem Times.one {once : Place → Place → Prop} {p q : Place} (h : once p q) :
    Times once 1 p q := .succ h (.zero q)

/-! ### Runs -/

/-- A thread that starts at an instruction and a place accepts at another place, after a number of
steps. -/
inductive Accepts (code : Array Instr) : Nat → Nat → Place → Place → Prop where
  /-- It accepts. -/
  | accept {i : Nat} {p : Place} (h : code[i]? = some .accept) : Accepts code 0 i p p
  /-- It reads a character. -/
  | read {n i next : Nat} {s : CharSet} {before : Option Char} {c : Char} {rest : List Char}
    {q : Place} (h : code[i]? = some (.read s next)) (hc : s.contains c = true)
    (hmore : Accepts code n next ⟨some c, rest⟩ q) : Accepts code (n + 1) i ⟨before, c :: rest⟩ q
  /-- It passes an assertion. -/
  | test {n i next : Nat} {a : Assertion} {p q : Place} (h : code[i]? = some (.test a next))
    (ha : a.holds p.before p.rest.head? = true) (hmore : Accepts code n next p q) :
    Accepts code (n + 1) i p q
  /-- It takes the first way. -/
  | first {n i first second : Nat} {p q : Place} (h : code[i]? = some (.split first second))
    (hmore : Accepts code n first p q) : Accepts code (n + 1) i p q
  /-- It takes the second way. -/
  | second {n i first second : Nat} {p q : Place} (h : code[i]? = some (.split first second))
    (hmore : Accepts code n second p q) : Accepts code (n + 1) i p q

section Cases

variable {code : Array Instr} {n i next : Nat} {p q : Place}

/-- From a reading instruction, a thread reads. The number of steps gets smaller, which the
induction on a loop needs. -/
theorem Accepts.cases_read {s : CharSet} (h : Accepts code n i p q)
    (hcode : code[i]? = some (.read s next)) :
    ∃ k m, k < n ∧ (Regex.set s).Matches p m ∧ Accepts code k next m q := by
  cases h with
  | accept h => simp [hcode] at h
  | @read n _ next' s' before c rest _ h hc hmore =>
    obtain ⟨rfl, rfl⟩ : s = s' ∧ next = next' := by simpa [hcode] using h
    exact ⟨n, _, Nat.lt_succ_self n, ⟨c, rest, rfl, hc, rfl⟩, hmore⟩
  | test h => simp [hcode] at h
  | first h => simp [hcode] at h
  | second h => simp [hcode] at h

/-- From a testing instruction, a thread passes the assertion. It stays where it is in the text, so
only the number of steps shows that it went on. -/
theorem Accepts.cases_test {a : Assertion} (h : Accepts code n i p q)
    (hcode : code[i]? = some (.test a next)) :
    ∃ k m, k < n ∧ (Regex.assert a).Matches p m ∧ Accepts code k next m q := by
  cases h with
  | accept h => simp [hcode] at h
  | read h => simp [hcode] at h
  | @test n _ next' a' _ _ h ha hmore =>
    obtain ⟨rfl, rfl⟩ : a = a' ∧ next = next' := by simpa [hcode] using h
    exact ⟨n, _, Nat.lt_succ_self n, ⟨ha, rfl⟩, hmore⟩
  | first h => simp [hcode] at h
  | second h => simp [hcode] at h

/-- From a choice, a thread takes one of the ways. Which one is preferred matters for the order of
the search and not for what is accepted. -/
theorem Accepts.cases_split {first second : Nat} (h : Accepts code n i p q)
    (hcode : code[i]? = some (.split first second)) :
    ∃ k, k < n ∧ (Accepts code k first p q ∨ Accepts code k second p q) := by
  cases h with
  | accept h => simp [hcode] at h
  | read h => simp [hcode] at h
  | test h => simp [hcode] at h
  | @first n _ first' second' _ _ h hmore =>
    obtain ⟨rfl, rfl⟩ : first = first' ∧ second = second' := by simpa [hcode] using h
    exact ⟨n, Nat.lt_succ_self n, .inl hmore⟩
  | @second n _ first' second' _ _ h hmore =>
    obtain ⟨rfl, rfl⟩ : first = first' ∧ second = second' := by simpa [hcode] using h
    exact ⟨n, Nat.lt_succ_self n, .inr hmore⟩

/-- From a choice for a loop or an option, a thread goes into it or past it, whichever way is
preferred. A greedy repetition and a lazy one have the two ways in opposite order, and accept the
same. -/
theorem Accepts.cases_choice {greedy : Bool} {into past : Nat} (h : Accepts code n i p q)
    (hcode : code[i]? = some (.choice greedy into past)) :
    ∃ k, k < n ∧ (Accepts code k into p q ∨ Accepts code k past p q) := by
  cases greedy with
  | true => exact h.cases_split hcode
  | false =>
    obtain ⟨k, hk, hor⟩ := h.cases_split hcode
    exact ⟨k, hk, hor.symm⟩

end Cases

/-! ### Emission -/

/-- The code that was added to `code` is part of the final code. -/
def Holds (final code added : Array Instr) : Prop :=
  ∀ i, code.size ≤ i → i < added.size → final[i]? = added[i]?

/-- A way to emit code for the stretches of text in a relation. -/
structure Emits (body : Nat → Array Instr → Array Instr × Nat) (once : Place → Place → Prop) :
    Prop where
  /-- Code is only added. -/
  grows : ∀ next code, code.size ≤ (body next code).1.size
  /-- What was there stays. -/
  keeps : ∀ next code i, i < code.size → (body next code).1[i]? = code[i]?
  /-- What is accepted from the start of the code is a stretch of text in the relation, and then
  what is accepted from where the code goes on. -/
  leads : ∀ next code final, Holds final code (body next code).1 → ∀ n p q,
    Accepts final n (body next code).2 p q → ∃ k m, k ≤ n ∧ once p m ∧ Accepts final k next m q

namespace Emits

variable {body other : Nat → Array Instr → Array Instr × Nat} {once once' : Place → Place → Prop}

/-- Code that is held is held without its end. A later emission keeps what an earlier one has
written, so the final code has the instructions of both. -/
theorem holds_start (hbody : Emits body once) {next : Nat} {final code added : Array Instr}
    (h : Holds final code (body next added).1) : Holds final code added := by
  intro i hlow hhigh
  rw [h i hlow (Nat.lt_of_lt_of_le hhigh (hbody.grows next added))]
  exact hbody.keeps next added i hhigh

/-- Code that is held is held without its start. To hold code is a statement about a stretch of
places, and a shorter stretch asks for less. -/
theorem holds_stop {final code added more : Array Instr} (hsize : code.size ≤ added.size)
    (h : Holds final code more) : Holds final added more :=
  fun i hlow hhigh => h i (Nat.le_trans hsize hlow) hhigh

/-- Code that is held together with an instruction behind it. The instruction is at the place that
`write` reports. -/
theorem holds_write {instr : Instr} {final code added : Array Instr}
    (hgrows : code.size ≤ added.size) (h : Holds final code (write instr added).1) :
    Holds final code added ∧ final[added.size]? = some instr := by
  constructor
  · intro i hlow hhigh
    rw [h i hlow (by simp [write]; omega)]
    simp [write, Array.getElem?_push, Nat.ne_of_lt hhigh]
  · rw [h added.size hgrows (by simp [write])]
    simp [write]

/-- An instruction leaves what was there. It is put behind all others. -/
theorem write_keeps (instr : Instr) {code : Array Instr} {i : Nat} (hi : i < code.size) :
    (write instr code).1[i]? = code[i]? := by
  simp [write, Array.getElem?_push, Nat.ne_of_lt hi]

/-- One instruction, which leads to where the code goes on. This is the base case of the emission:
what a thread does at the instruction is given by one of the case lemmas above. -/
theorem write_instr {instr : Nat → Instr}
    (h : ∀ {final : Array Instr} {i next n : Nat} {p q : Place}, final[i]? = some (instr next) →
      Accepts final n i p q → ∃ k m, k < n ∧ once p m ∧ Accepts final k next m q) :
    Emits (fun next => write (instr next)) once where
  grows := by
    intro next code
    simp [write]
  keeps := fun next _ _ hi => write_keeps (instr next) hi
  leads := by
    intro next code final hholds n p q haccepts
    have hinstr := (holds_write (Nat.le_refl code.size) hholds).2
    obtain ⟨k, m, hk, hrest⟩ := h hinstr haccepts
    exact ⟨k, m, Nat.le_of_lt hk, hrest⟩

/-- No code at all. The empty expression goes on where it starts. -/
theorem nothing : Emits (fun next code => (code, next)) Eq where
  grows := fun _ code => Nat.le_refl code.size
  keeps := fun _ _ _ _ => rfl
  leads := fun _ _ _ _ n p _ haccepts => ⟨n, p, Nat.le_refl n, rfl, haccepts⟩

/-- Code in front of other code. The emission works from the end of the expression to its start, so
the second part is written first and its entry is where the first part goes on. -/
theorem comp (hbody : Emits body once) (hother : Emits other once') :
    Emits (fun next code => let (code, entry) := other next code; body entry code)
      (fun p q => ∃ m, once p m ∧ once' m q) where
  grows := fun next code =>
    Nat.le_trans (hother.grows next code) (hbody.grows _ _)
  keeps := by
    intro next code i hi
    have hgrows := hother.grows next code
    exact (hbody.keeps _ _ i (Nat.lt_of_lt_of_le hi hgrows)).trans (hother.keeps next code i hi)
  leads := by
    -- what is matched first is emitted last, so a run starts in the code of the body
    intro next code final hholds n p q haccepts
    have hgrows := hother.grows next code
    obtain ⟨k, m, hk, honce, hmore⟩ := hbody.leads _ _ final (holds_stop hgrows hholds) n p q
      haccepts
    obtain ⟨k', m', hk', honce', hrest⟩ := hother.leads next code final
      (hbody.holds_start hholds) k m q hmore
    exact ⟨k', m', Nat.le_trans hk' hk, ⟨m, honce, honce'⟩, hrest⟩

/-- Two ways of code behind a choice. Both go on at the same place, and each holds its own stretch
of the final code. -/
theorem split (hbody : Emits body once) (hother : Emits other once') :
    Emits (fun next code =>
        let (code, first) := body next code
        let (code, second) := other next code
        write (.split first second) code)
      (fun p q => once p q ∨ once' p q) where
  grows := by
    intro next code
    have hfirst := hbody.grows next code
    have hsecond := hother.grows next (body next code).1
    simp [write]
    omega
  keeps := by
    intro next code i hi
    have hfirst := hbody.grows next code
    have hsecond := hother.grows next (body next code).1
    have hi' : i < (body next code).1.size := Nat.lt_of_lt_of_le hi hfirst
    refine (write_keeps _ (Nat.lt_of_lt_of_le hi' hsecond)).trans ?_
    rw [hother.keeps _ _ i hi', hbody.keeps next code i hi]
  leads := by
    intro next code final hholds n p q haccepts
    have hfirst := hbody.grows next code
    have hsecond := hother.grows next (body next code).1
    -- first the body, then the other code, and the choice behind both
    obtain ⟨hheld, hinstr⟩ := holds_write (Nat.le_trans hfirst hsecond) hholds
    obtain ⟨k, hk, hway | hway⟩ := Accepts.cases_split haccepts hinstr
    · obtain ⟨k', m, hk', honce, hmore⟩ :=
        hbody.leads next code final (hother.holds_start hheld) k p q hway
      exact ⟨k', m, by omega, .inl honce, hmore⟩
    · obtain ⟨k', m, hk', honce, hmore⟩ :=
        hother.leads next _ final (holds_stop hfirst hheld) k p q hway
      exact ⟨k', m, by omega, .inr honce, hmore⟩

/-- Code for a relation is code for every wider one. The emission is only asked to accept nothing
that the relation excludes, which is the direction that the search needs. -/
theorem imp (hbody : Emits body once) (h : ∀ p q, once p q → once' p q) : Emits body once' where
  grows := hbody.grows
  keeps := hbody.keeps
  leads := by
    intro next code final hholds n p q haccepts
    obtain ⟨k, m, hk, honce, hmore⟩ := hbody.leads next code final hholds n p q haccepts
    exact ⟨k, m, hk, h p m honce, hmore⟩

/-- Copies of code, one in front of the other. The induction is on the number of copies, and each
one is put in front of those that are there. -/
theorem times (hbody : Emits body once) (count : Nat) :
    Emits (emitTimes body count) (Times once count) := by
  induction count with
  | zero =>
    refine nothing.imp fun p q heq => ?_
    rw [heq]
    exact .zero q
  | succ count ih =>
    refine (ih.comp hbody).imp fun p q h => ?_
    obtain ⟨m, hmany, hlast⟩ := h
    exact hmany.append (.one hlast)

/-! ### Options -/

/-- Optional copies only add code. This is the first of three statements about them. They are made
by one recursion whose place to go on past the copies stays the same, so they are not of the form
`Emits` until the end. -/
theorem options_grows (hbody : Emits body once) (greedy : Bool) (past count next : Nat)
    (code : Array Instr) : code.size ≤ (emitOptions body greedy past count next code).1.size := by
  induction count generalizing next code with
  | zero => exact Nat.le_refl code.size
  | succ count ih =>
    have hgrows := hbody.grows next code
    have hmore := ih (write (.choice greedy (body next code).2 past) (body next code).1).2
      (write (.choice greedy (body next code).2 past) (body next code).1).1
    simp only [write, Array.size_push] at hmore
    rw [emitOptions]
    simp only [write]
    omega

/-- Optional copies leave what was there. The copies that are there already, with their choices, are
among it. -/
theorem options_keeps (hbody : Emits body once) (greedy : Bool) (past count next : Nat)
    (code : Array Instr) (i : Nat) (hi : i < code.size) :
    (emitOptions body greedy past count next code).1[i]? = code[i]? := by
  induction count generalizing next code with
  | zero => rfl
  | succ count ih =>
    have hgrows := hbody.grows next code
    rw [emitOptions]
    simp only [write]
    rw [ih _ _ (by rw [Array.size_push]; omega), Array.getElem?_push, if_neg (by omega),
      hbody.keeps next code i hi]

/-- What is accepted from optional copies is some of them, and then what is accepted from where the
code goes on: past the first copy that is left out, or behind the last one. The two ways are kept
apart, since the recursion changes the second one with every copy and leaves the first one alone. -/
theorem options_leads (hbody : Emits body once) (greedy : Bool) {past count next : Nat}
    {code final : Array Instr}
    (hholds : Holds final code (emitOptions body greedy past count next code).1) {n : Nat}
    {p q : Place}
    (haccepts : Accepts final n (emitOptions body greedy past count next code).2 p q) :
    ∃ k m j, k ≤ n ∧ j ≤ count ∧ Times once j p m ∧
      (Accepts final k past m q ∨ j = count ∧ Accepts final k next m q) := by
  induction count generalizing next code with
  | zero => exact ⟨n, p, 0, Nat.le_refl n, Nat.le_refl 0, .zero p, .inr ⟨rfl, haccepts⟩⟩
  | succ count ih =>
    have hgrows := hbody.grows next code
    rw [emitOptions] at hholds haccepts
    simp only [write] at hholds haccepts
    -- the body and its choice stand in front of the other copies, which come first in a run
    generalize hadded : body next code = added at hgrows hholds haccepts
    have hpushed : ∀ i, i < added.1.size + 1 →
        (emitOptions body greedy past count added.1.size
          (added.1.push (.choice greedy added.2 past))).1[i]? =
        (added.1.push (.choice greedy added.2 past))[i]? :=
      fun i hi => hbody.options_keeps greedy past count _ _ i (by rw [Array.size_push]; exact hi)
    have hmoregrows := hbody.options_grows greedy past count added.1.size
      (added.1.push (.choice greedy added.2 past))
    rw [Array.size_push] at hmoregrows
    have hchoice : final[added.1.size]? = some (.choice greedy added.2 past) := by
      rw [hholds added.1.size hgrows (by omega), hpushed _ (by omega), Array.getElem?_push,
        if_pos rfl]
    have hbodyholds : Holds final code added.1 := by
      intro i hlow hhigh
      rw [hholds i hlow (by omega), hpushed i (by omega), Array.getElem?_push,
        if_neg (by omega)]
    have hrest : Holds final (added.1.push (.choice greedy added.2 past))
        (emitOptions body greedy past count added.1.size
          (added.1.push (.choice greedy added.2 past))).1 :=
      holds_stop (by rw [Array.size_push]; omega) hholds
    obtain ⟨k, m, j, hk, hj, htimes, hway | ⟨rfl, hway⟩⟩ := ih hrest haccepts
    · exact ⟨k, m, j, hk, Nat.le_succ_of_le hj, htimes, .inl hway⟩
    · -- behind the copies comes the choice of the last one
      obtain ⟨k', hk', hinto | hpast⟩ := hway.cases_choice hchoice
      · obtain ⟨k'', m', hk'', honce, hmore⟩ := hbody.leads next code final
          (by rw [hadded]; exact hbodyholds) k' m q (by rw [hadded]; exact hinto)
        exact ⟨k'', m', j + 1, by omega, Nat.le_refl _, htimes.append (.one honce),
          .inr ⟨rfl, hmore⟩⟩
      · exact ⟨k', m, j, by omega, Nat.le_succ_of_le hj, htimes, .inl hpast⟩

/-- Optional copies that are left to where the code goes on. Here the two ways of `options_leads`
lead to the same place, and the number of copies is what is left of them. -/
theorem options (hbody : Emits body once) (greedy : Bool) (count : Nat) :
    Emits (fun next => emitOptions body greedy next count next)
      (fun p q => ∃ j, j ≤ count ∧ Times once j p q) where
  grows := fun next => hbody.options_grows greedy next count next
  keeps := fun next => hbody.options_keeps greedy next count next
  leads := by
    intro next code final hholds n p q haccepts
    obtain ⟨k, m, j, hk, hj, htimes, hway⟩ := hbody.options_leads greedy hholds haccepts
    have hmore : Accepts final k next m q := hway.elim id fun h => h.2
    exact ⟨k, m, hk, ⟨j, hj, htimes⟩, hmore⟩

end Emits

/-! ### Loops -/

/-- A loop: the body goes back to a choice in front of it. The result has the start of the body. -/
def emitLoop (body : Nat → Array Instr → Array Instr × Nat) (greedy : Bool) (next : Nat)
    (code : Array Instr) : Array Instr × Nat :=
  let (added, entry) := body code.size (code.push .accept)
  (added.setIfInBounds code.size (.choice greedy entry next), entry)

namespace Emits

variable {body : Nat → Array Instr → Array Instr × Nat} {once : Place → Place → Prop}

/-- A loop only adds code. At least there is the choice in front of its body. -/
theorem loop_grows (hbody : Emits body once) (greedy : Bool) (next : Nat) (code : Array Instr) :
    code.size + 1 ≤ (emitLoop body greedy next code).1.size := by
  have hgrows := hbody.grows code.size (code.push .accept)
  rw [Array.size_push] at hgrows
  simpa [emitLoop] using hgrows

/-- A loop leaves what was there. The place of the choice is reserved before the body is written and
filled in behind it, and it is none of the earlier places. -/
theorem loop_keeps (hbody : Emits body once) (greedy : Bool) (next : Nat) (code : Array Instr)
    (i : Nat) (hi : i < code.size) : (emitLoop body greedy next code).1[i]? = code[i]? := by
  have hkeeps := hbody.keeps code.size (code.push .accept) i (by rw [Array.size_push]; omega)
  rw [Array.getElem?_push, if_neg (by omega)] at hkeeps
  rw [emitLoop]
  simp only [Array.getElem?_setIfInBounds, if_neg (Nat.ne_of_gt hi)]
  exact hkeeps

variable {greedy : Bool} {next : Nat} {code final : Array Instr}

/-- The instruction in front of the body of a loop. What reserved its place is gone in the final
code. -/
theorem loop_choice (hbody : Emits body once)
    (hholds : Holds final code (emitLoop body greedy next code).1) :
    final[code.size]? = some (.choice greedy (emitLoop body greedy next code).2 next) := by
  have hgrows := hbody.loop_grows greedy next code
  rw [hholds code.size (Nat.le_refl _) (by omega)]
  simp only [emitLoop, Array.size_setIfInBounds] at hgrows ⊢
  rw [Array.getElem?_setIfInBounds, if_pos rfl, if_pos (by omega)]

/-- The body of a loop is held where the loop is. It was written with the reserved place in front,
and is not changed when that place is filled in. -/
theorem loop_body (hholds : Holds final code (emitLoop body greedy next code).1) :
    Holds final (code.push .accept) (body code.size (code.push .accept)).1 := by
  intro i hlow hhigh
  rw [Array.size_push] at hlow
  rw [hholds i (by omega) (by simpa [emitLoop] using hhigh)]
  simp [emitLoop, Nat.ne_of_lt hlow]

/-- What is accepted from the choice of a loop is any number of matches of the body, and then what
is accepted from where the code goes on. Each round takes a step. So the induction is on the number
of steps: there need not be any progress in the text, as the body may match nothing. -/
theorem loop_leads (hbody : Emits body once)
    (hholds : Holds final code (emitLoop body greedy next code).1) {n : Nat} {p q : Place}
    (haccepts : Accepts final n code.size p q) :
    ∃ k m j, k ≤ n ∧ Times once j p m ∧ Accepts final k next m q := by
  induction n using Nat.strongRecOn generalizing p with
  | ind n ih =>
  obtain ⟨k, hk, hinto | hpast⟩ := haccepts.cases_choice (hbody.loop_choice hholds)
  · obtain ⟨k', m, hk', honce, hmore⟩ := hbody.leads code.size (code.push .accept) final
      (loop_body hholds) k p q hinto
    obtain ⟨k'', m', j, hk'', htimes, hrest⟩ := ih k' (by omega) hmore
    exact ⟨k'', m', j + 1, by omega, .succ honce htimes, hrest⟩
  · exact ⟨k, p, 0, by omega, .zero p, hpast⟩

/-- A loop that is entered at its body. The body is matched once and then the choice is reached. -/
theorem loop (hbody : Emits body once) (greedy : Bool) :
    Emits (emitLoop body greedy) (fun p q => ∃ j, 1 ≤ j ∧ Times once j p q) where
  grows := fun next code => Nat.le_of_succ_le (hbody.loop_grows greedy next code)
  keeps := fun next code => hbody.loop_keeps greedy next code
  leads := by
    intro next code final hholds n p q haccepts
    obtain ⟨k, m, hk, honce, hmore⟩ := hbody.leads code.size (code.push .accept) final
      (loop_body hholds) n p q haccepts
    obtain ⟨k', m', j, hk', htimes, hrest⟩ := hbody.loop_leads hholds hmore
    exact ⟨k', m', by omega, ⟨j + 1, by omega, .succ honce htimes⟩, hrest⟩

/-- A loop that is entered at its choice. This is the loop without a least number of rounds, if its
body reads something. -/
theorem loop_at_choice (hbody : Emits body once) (greedy : Bool) :
    Emits (fun next code => ((emitLoop body greedy next code).1, code.size))
      (fun p q => ∃ j, Times once j p q) where
  grows := fun next code => Nat.le_of_succ_le (hbody.loop_grows greedy next code)
  keeps := fun next code => hbody.loop_keeps greedy next code
  leads := by
    intro next code final hholds n p q haccepts
    obtain ⟨k, m, j, hk, htimes, hrest⟩ := hbody.loop_leads hholds haccepts
    exact ⟨k, m, hk, ⟨j, htimes⟩, hrest⟩

/-- A loop that is entered at a choice of its own. The loop of a body that may be empty is entered
in this way, so that it is left and not abandoned. What is accepted is the same. -/
theorem loop_behind_choice (hbody : Emits body once) (greedy : Bool) :
    Emits (fun next code =>
        let (code, entry) := emitLoop body greedy next code
        write (.choice greedy entry next) code)
      (fun p q => ∃ j, Times once j p q) where
  grows := by
    intro next code
    have hgrows := hbody.loop_grows greedy next code
    simp only [write, Array.size_push]
    omega
  keeps := by
    intro next code i hi
    have hgrows := hbody.loop_grows greedy next code
    have hi' : i < (emitLoop body greedy next code).1.size := by omega
    exact (write_keeps _ hi').trans (hbody.loop_keeps greedy next code i hi)
  leads := by
    intro next code final hholds n p q haccepts
    have hgrows := hbody.loop_grows greedy next code
    obtain ⟨hloop, hchoice⟩ := holds_write (Nat.le_of_succ_le hgrows) hholds
    obtain ⟨k, hk, hinto | hpast⟩ := haccepts.cases_choice hchoice
    · obtain ⟨k', m, hk', ⟨j, -, htimes⟩, hrest⟩ :=
        (hbody.loop greedy).leads next code final hloop k p q hinto
      exact ⟨k', m, by omega, ⟨j, htimes⟩, hrest⟩
    · exact ⟨k, p, by omega, ⟨0, .zero p⟩, hpast⟩

end Emits

/-! ### The program of an expression -/

/-- The code of an expression is code for what it matches. The recursion is that of `emit`, with a
lemma about `Emits` for each way in which it puts code together. -/
theorem emits_matches : (r : Regex) → Emits (emit r) r.Matches
  | .empty => Emits.nothing
  | .set s => Emits.write_instr fun hinstr haccepts => haccepts.cases_read hinstr
  | .assert a => Emits.write_instr fun hinstr haccepts => haccepts.cases_test hinstr
  | .seq a b => (emits_matches a).comp (emits_matches b)
  | .alt a b => (emits_matches a).split (emits_matches b)
  | .group a => emits_matches a
  | .rep a least (some most) greedy => by
    refine (((emits_matches a).times least).comp
      ((emits_matches a).options greedy (most - least))).imp ?_
    rintro p q ⟨m, hleast, j, hj, hmore⟩
    refine ⟨least + j, Nat.le_add_right least j, fun m' hm' => ?_, hleast.append hmore⟩
    obtain rfl := Option.some.inj hm'
    omega
  | .rep a least none greedy => by
    have hunbounded : ∀ {j : Nat} {p q : Place}, least ≤ j → Times a.Matches j p q →
        (Regex.rep a least none greedy).Matches p q :=
      fun hj htimes => ⟨_, hj, (fun _ hm => nomatch hm), htimes⟩
    have heq : emit (.rep a least none greedy) = fun next code =>
        if least = 0 then
          if a.mayBeEmpty then
            let (code, entry) := emitLoop (emit a) greedy next code
            write (.choice greedy entry next) code
          else ((emitLoop (emit a) greedy next code).1, code.size)
        else
          let (code, entry) := emitLoop (emit a) greedy next code
          emitTimes (emit a) (least - 1) entry code := by
      funext next code
      rw [emit]
      rfl
    rw [heq]
    by_cases hleast : least = 0
    · simp only [if_pos hleast]
      by_cases hempty : a.mayBeEmpty = true
      · simp only [if_pos hempty]
        refine ((emits_matches a).loop_behind_choice greedy).imp ?_
        rintro p q ⟨j, htimes⟩
        exact hunbounded (by omega) htimes
      · simp only [if_neg hempty]
        refine ((emits_matches a).loop_at_choice greedy).imp ?_
        rintro p q ⟨j, htimes⟩
        exact hunbounded (by omega) htimes
    · simp only [if_neg hleast]
      refine (((emits_matches a).times (least - 1)).comp ((emits_matches a).loop greedy)).imp ?_
      rintro p q ⟨m, hfirst, j, hj, hmore⟩
      exact hunbounded (by omega) (hfirst.append hmore)

/-- A program accepts only what its expression matches. The program is code in front of the one
instruction that accepts, and what is accepted from there is the place itself. -/
theorem matches_of_accepts {r : Regex} {n : Nat} {p q : Place}
    (h : Accepts r.program.code n r.program.entry p q) : r.Matches p q := by
  have hholds : Holds r.program.code #[.accept] r.program.code := fun _ _ _ => rfl
  obtain ⟨k, m, -, hmatches, haccepts⟩ :=
    (emits_matches r).leads 0 #[.accept] r.program.code hholds n p q h
  -- the instruction at place 0 accepts at once
  have hcode : r.program.code[0]? = some .accept :=
    (emits_matches r).keeps 0 #[.accept] 0 Nat.zero_lt_one
  cases haccepts with
  | accept _ => exact hmatches
  | read h => simp [hcode] at h
  | test h => simp [hcode] at h
  | first h => simp [hcode] at h
  | second h => simp [hcode] at h

end Regex

end Polyglot
