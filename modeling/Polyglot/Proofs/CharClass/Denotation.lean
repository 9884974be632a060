import Mathlib.Data.Char
import Mathlib.Data.Set.Lattice
import Mathlib.Order.Interval.Set.Basic
import Polyglot.Proofs.CharClass.References
import Polyglot.Proofs.Support.Bisection

/-!
# `Polyglot.Proofs.CharClass.Denotation`: what a declared class means

A declared class denotes a set of characters (`Denotes`): the characters of a string, an
interval, a union, a complement, or what the class under a name denotes. The main theorem,
`compiled_denotes`, says that a class that can be compiled denotes exactly one set, and that the
compiled class holds just the characters of that set. The end of a text is in no class, not even
in a complement.

Two things carry this. Inlining keeps the meaning of a declaration if the class that is put in
the place of a name has the meaning of that name (`denotes_of_inline`), and so following names
keeps it, one name at a time (`denotes_of_follow`). And listed characters are looked up by
bisection, which finds them because they are sorted first (`pairwise_sortChars`).

A denotation is a finite derivation, so a class that refers to itself denotes nothing. This is
why a complement can be a rule of `Denotes` like any other: `Denotes.unique` needs no order in
which names are given a meaning.
-/

set_option autoImplicit false

namespace Polyglot.CharClass

/-! ### Listed characters -/

/-- An insertion adds one character. -/
theorem mem_insertChar {c d : Char} {chars : List Char} :
    d ∈ insertChar c chars ↔ d = c ∨ d ∈ chars := by
  induction chars with
  | nil => simp [insertChar]
  | cons e rest ih =>
    rw [insertChar]
    split
    · simp
    · split
      · rename_i heq
        simp [heq]
      · simp [ih]
        tauto

/-- An insertion keeps the characters increasing. -/
theorem pairwise_insertChar {c : Char} {chars : List Char} (h : chars.Pairwise (· < ·)) :
    (insertChar c chars).Pairwise (· < ·) := by
  induction chars with
  | nil => simp [insertChar]
  | cons d rest ih =>
    obtain ⟨hd, hrest⟩ := List.pairwise_cons.mp h
    rw [insertChar]
    split
    · rename_i hlt
      refine List.pairwise_cons.mpr ⟨?_, h⟩
      intro e he
      rcases List.mem_cons.mp he with rfl | he
      · exact hlt
      · exact lt_trans hlt (hd e he)
    · split
      · exact h
      · rename_i hnot hne
        -- neither smaller nor equal, so the new character comes after the head
        have hlt : d < c := lt_of_le_of_ne (not_lt.mp hnot) (Ne.symm hne)
        refine List.pairwise_cons.mpr ⟨?_, ih hrest⟩
        intro e he
        rcases mem_insertChar.mp he with rfl | he
        · exact hlt
        · exact hd e he

/-- Sorting keeps the characters. One that is listed twice is there once afterwards, which makes no
difference to what is in the class. -/
theorem mem_sortChars {c : Char} {chars : List Char} : c ∈ sortChars chars ↔ c ∈ chars := by
  induction chars with
  | nil => rfl
  | cons d rest ih =>
    show c ∈ insertChar d (sortChars rest) ↔ _
    rw [mem_insertChar, ih, List.mem_cons]

/-- Sorted characters increase, so each of them is there once. The bisection needs the increase, and
would not need that there are no repetitions. -/
theorem pairwise_sortChars (chars : List Char) : (sortChars chars).Pairwise (· < ·) := by
  induction chars with
  | nil => exact List.Pairwise.nil
  | cons d rest ih => exact pairwise_insertChar ih

/-! ### Denotations -/

/-- The characters of a predefined class. -/
def Predefined.members : Predefined → Set Char
  | .letter => {c | Unicode.isAlphabetic c = true}
  | .upper => {c | Unicode.isUppercase c = true}
  | .lower => {c | Unicode.isLowercase c = true}
  | .digit => Set.Icc '0' '9'
  | .hexDigit => Set.Icc '0' '9' ∪ Set.Icc 'a' 'f' ∪ Set.Icc 'A' 'F'
  | .alphanumeric => {c | Unicode.isAlphabetic c = true} ∪ Set.Icc '0' '9'
  | .whitespace => {' ', '\t'}
  | .newline => {'\n', '\r'}
  | .any => Set.univ

/-- A declared class denotes a set of characters, where a name stands for the class that the table
has under it. -/
inductive Denotes (table : Table Spec) : Spec → Set Char → Prop where
  /-- A predefined class. -/
  | predefined (p : Predefined) : Denotes table (.predefined p) p.members
  /-- The characters of a string. -/
  | chars (members : String) : Denotes table (.chars members) {c | c ∈ members.toList}
  /-- The characters between two; there are none if the first is greater than the last. -/
  | range (first last : Char) : Denotes table (.range first last) (Set.Icc first last)
  /-- What any of the classes denotes. -/
  | union {classes : List Spec} {sets : Spec → Set Char}
      (h : ∀ spec ∈ classes, Denotes table spec (sets spec)) :
      Denotes table (.union classes) (⋃ spec ∈ classes, sets spec)
  /-- All characters that the class does not denote. -/
  | negate {inner : Spec} {s : Set Char} (h : Denotes table inner s) :
      Denotes table (.negate inner) sᶜ
  /-- What the class under the name denotes. -/
  | ref {name : String} {spec : Spec} {s : Set Char} (hspec : table.find? name = some spec)
      (h : Denotes table spec s) : Denotes table (.ref name) s

/-- A declared class denotes at most one set. The induction is on one of the two derivations. The
other one has the same last step, as that is given by the class. -/
theorem Denotes.unique {table : Table Spec} {spec : Spec} {s t : Set Char}
    (hs : Denotes table spec s) (ht : Denotes table spec t) : s = t := by
  induction hs generalizing t with
  | predefined p =>
    cases ht
    rfl
  | chars members =>
    cases ht
    rfl
  | range first last =>
    cases ht
    rfl
  | union h ih =>
    cases ht with
    | union h' => exact Set.iUnion₂_congr fun spec hspec => ih spec hspec (h' spec hspec)
  | negate h ih =>
    cases ht with
    | negate h' => rw [ih h']
  | ref hspec h ih =>
    cases ht with
    | ref hspec' h' =>
      -- a name has one class in the table
      cases hspec.symm.trans hspec'
      exact ih h'

/-! ### The characters of a compiled class -/

/-- The characters that a class holds. -/
def members (k : CharClass) : Set Char := {c | k.contains c = true}

/-- The ASCII digits are an interval. -/
theorem isDigit_iff {c : Char} : c.isDigit = true ↔ c ∈ Set.Icc '0' '9' := by
  simp [Char.isDigit, Char.le_def]

/-- A predefined class holds its characters. -/
theorem members_predefined (p : Predefined) : (CharClass.predefined p).members = p.members := by
  ext c
  show (CharClass.predefined p).contains c = true ↔ c ∈ p.members
  rw [contains]
  cases p <;> simp [Predefined.contains, Predefined.members, isDigit_iff]

/-- A class of sorted characters holds these. The test bisects the array, which is right because the
characters increase. -/
theorem members_chars (chars : List Char) :
    (CharClass.chars (sortChars chars).toArray).members = {c | c ∈ chars} := by
  have hincreasing : StrictMono fun i : Fin (sortChars chars).toArray.size =>
      (sortChars chars).toArray[i] := by
    intro i j hlt
    exact List.pairwise_iff_getElem.mp (pairwise_sortChars chars) i j i.2 j.2 hlt
  ext c
  show contains (.chars _) c = true ↔ c ∈ chars
  rw [contains, binSearchContains_iff hincreasing, List.mem_toArray, mem_sortChars]

/-- An interval holds the characters between its ends. -/
theorem members_range (first last : Char) :
    (CharClass.range first last).members = Set.Icc first last := by
  ext c
  simp [members, contains]

/-- A complement holds what the class does not. -/
theorem members_negate (k : CharClass) : (CharClass.negate k).members = k.membersᶜ := by
  ext c
  simp [members, contains]

/-! ### Inlining keeps the meaning -/

section Inline

variable {table : Table Spec} {f : String → Except Fault CharClass}

/-- Several declarations are inlined one after the other. All of them have to succeed for the list
to do so. -/
theorem inlineAll_cons_eq_ok {spec : Spec} {rest : List Spec} {classes : List CharClass}
    (h : inlineAll f (spec :: rest) = .ok classes) :
    ∃ k others, spec.inline f = .ok k ∧ inlineAll f rest = .ok others ∧ classes = k :: others := by
  rw [inlineAll] at h
  obtain ⟨k, hk, h⟩ := bind_eq_ok_iff.mp h
  obtain ⟨others, hothers, h⟩ := bind_eq_ok_iff.mp h
  exact ⟨k, others, hk, hothers, (Except.ok.inj h).symm⟩

/-- The characters of a declaration in which `f` gives the classes of names; none if it fails. -/
def inlined (f : String → Except Fault CharClass) (spec : Spec) : Set Char :=
  {c | ∃ k, spec.inline f = .ok k ∧ c ∈ k.members}

/-- The characters of a declaration are those of its class. -/
theorem inlined_eq {spec : Spec} {k : CharClass} (h : spec.inline f = .ok k) :
    inlined f spec = k.members := by
  ext c
  simp [inlined, h]

/-- The classes of several declarations hold the characters of any of these. The induction is on the
declarations, with the classes that they were inlined to beside them. -/
theorem anyContains_iff {specs : List Spec} {classes : List CharClass}
    (h : inlineAll f specs = .ok classes) {c : Char} :
    anyContains classes c = true ↔ ∃ spec ∈ specs, c ∈ inlined f spec := by
  induction specs generalizing classes with
  | nil =>
    rw [inlineAll] at h
    obtain rfl := Except.ok.inj h
    simp [anyContains]
  | cons spec rest ih =>
    obtain ⟨k, others, hk, hothers, rfl⟩ := inlineAll_cons_eq_ok h
    rw [anyContains, Bool.or_eq_true, ih hothers, List.exists_mem_cons_iff, inlined_eq hk]
    rfl

/-- The union of the classes of several declarations holds the union of their characters. -/
theorem members_union {specs : List Spec} {classes : List CharClass}
    (h : inlineAll f specs = .ok classes) :
    (CharClass.union classes).members = ⋃ spec ∈ specs, inlined f spec := by
  ext c
  rw [Set.mem_iUnion₂]
  show contains (.union classes) c = true ↔ _
  rw [contains, anyContains_iff h]
  simp only [exists_prop]

mutual

/-- A declaration denotes the characters of its class, if each name denotes those of the class that
is put in its place. The recursion goes over declarations and lists of them together. -/
theorem denotes_of_inline
    (hnames : ∀ name k, f name = .ok k → Denotes table (.ref name) k.members) :
    (spec : Spec) → (k : CharClass) → spec.inline f = .ok k → Denotes table spec k.members
  | .predefined p, k, h => by
    rw [Spec.inline] at h
    obtain rfl := Except.ok.inj h
    rw [members_predefined]
    exact .predefined p
  | .chars listed, k, h => by
    rw [Spec.inline] at h
    obtain rfl := Except.ok.inj h
    rw [members_chars]
    exact .chars listed
  | .range first last, k, h => by
    rw [Spec.inline] at h
    obtain rfl := Except.ok.inj h
    rw [members_range]
    exact .range first last
  | .union specs, k, h => by
    rw [Spec.inline] at h
    cases hall : inlineAll f specs with
    | error fault =>
      rw [hall] at h
      cases h
    | ok classes =>
      rw [hall] at h
      obtain rfl := Except.ok.inj h
      rw [members_union hall]
      exact .union (denotes_of_inlineAll hnames specs classes hall)
  | .negate inner, k, h => by
    rw [Spec.inline] at h
    cases hinner : inner.inline f with
    | error fault =>
      rw [hinner] at h
      cases h
    | ok k =>
      rw [hinner] at h
      obtain rfl := Except.ok.inj h
      rw [members_negate]
      exact .negate (denotes_of_inline hnames inner k hinner)
  | .ref name, k, h => by
    rw [Spec.inline] at h
    exact hnames name k h

/-- Each of several declarations denotes its characters, if the names do. -/
theorem denotes_of_inlineAll
    (hnames : ∀ name k, f name = .ok k → Denotes table (.ref name) k.members) :
    (specs : List Spec) → (classes : List CharClass) → inlineAll f specs = .ok classes →
    ∀ spec ∈ specs, Denotes table spec (inlined f spec)
  | [], _, _ => fun _ hmem => nomatch hmem
  | spec :: rest, classes, h => by
    obtain ⟨k, others, hk, hothers, rfl⟩ := inlineAll_cons_eq_ok h
    intro other hmem
    rcases List.mem_cons.mp hmem with heq | hmem
    · rw [heq, inlined_eq hk]
      exact denotes_of_inline hnames spec k hk
    · exact denotes_of_inlineAll hnames rest others hothers other hmem

end

end Inline

/-- A name denotes the characters of the class that following it comes to. The induction is on the
bound of the recursion, and inside of each step the declaration is taken apart by
`denotes_of_inline`. -/
theorem denotes_of_follow {table : Table Spec} {fuel : Nat} {path : List String} {name : String}
    {k : CharClass} (h : follow table fuel path name = .ok k) :
    Denotes table (.ref name) k.members := by
  induction fuel generalizing path name k with
  | zero => cases h
  | succ fuel ih =>
    obtain ⟨_, spec, hfuel, -, hspec, hinline⟩ := follow_eq_ok h
    cases hfuel
    -- the names in the declaration are followed with less fuel and a longer path
    exact .ref hspec (denotes_of_inline (fun _ _ hother => ih hother) spec k hinline)

/-! ### The main theorem -/

/-- A declared class that can be compiled denotes one set of characters, and the compiled class
holds just these. The end of a text is in no class. -/
theorem compiled_denotes {table : Table Spec} {spec : Spec} {k : CharClass}
    (h : compile table spec = .ok k) :
    ∃ s, Denotes table spec s ∧ (∀ t, Denotes table spec t → t = s) ∧
      (∀ c, k.contains c = true ↔ c ∈ s) ∧
      (∀ c, k.test (some c) = k.contains c) ∧ k.test none = false := by
  have hdenotes : Denotes table spec k.members :=
    denotes_of_inline (fun _ _ hname => denotes_of_follow hname) spec k h
  refine ⟨k.members, hdenotes, ?_, ?_, ?_, ?_⟩
  · intro t ht
    exact ht.unique hdenotes
  · intro c
    rfl
  · intro c
    rfl
  · rfl

/-- Digits, and words of digits and some listed characters. -/
def wordClasses : Table Spec :=
  .ofList [("digit", .range '0' '9'), ("word", .union [.ref "digit", .chars "_b$a_"])]

/-- What is not in a word, where an interval that is the wrong way round adds nothing. -/
theorem compiled_denotes_words :
    ∃ k, compile wordClasses (.negate (.union [.ref "word", .range 'z' 'c'])) = .ok k ∧
      k.contains 'b' = false ∧ k.contains '7' = false ∧ k.contains 'd' = true ∧
      ∃ s, Denotes wordClasses (.negate (.union [.ref "word", .range 'z' 'c'])) s ∧
        ∀ c, k.contains c = true ↔ c ∈ s := by
  have h : compile wordClasses (.negate (.union [.ref "word", .range 'z' 'c'])) =
      .ok (.negate (.union [.union [.range '0' '9', .chars #['$', '_', 'a', 'b']],
        .range 'z' 'c'])) := rfl
  obtain ⟨s, hs, -, hcontains, -⟩ := compiled_denotes h
  exact ⟨_, h, by cbv, by cbv, by cbv, s, hs, hcontains⟩

end Polyglot.CharClass
