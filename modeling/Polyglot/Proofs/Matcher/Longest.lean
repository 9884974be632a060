import Mathlib.Computability.Language
import Polyglot.Matcher.Literal
import Polyglot.Proofs.Text.Shift

/-!
# `Polyglot.Proofs.Matcher.Longest`: the longest beginning of a text in a language

`Longest` says which beginning of a text a matcher ought to take: the longest one that is in a
language, or nothing if no beginning is. There is only one (`Longest.unique`), so the relation
says as much as a function would, and says it without a way to compute it.

`longest_found` is about words that are tried one after the other, longest first. The first one
that fits is the longest of those that fit, whatever order they were declared in. Words are put
in order by their bytes, but are compared by their characters here; for beginnings of one text
this is the same (`length_le_of_byteSize_le`).
-/

set_option autoImplicit false

namespace Polyglot.Matcher

/-- The longest beginning of a text that is in a language, or nothing if there is none. -/
structure Longest (language : Language Char) (text body : List Char) : Prop where
  /-- It is a beginning of the text. -/
  starts : body <+: text
  /-- It is in the language, unless it is nothing. -/
  mem : body ≠ [] → body ∈ language
  /-- No other beginning in the language is longer. -/
  longest : ∀ word ∈ language, word <+: text → word.length ≤ body.length

namespace Longest

variable {language : Language Char} {text body other : List Char}

/-- Beginnings in the language begin what is taken. They are beginnings of the same text, and no
longer. -/
theorem isBeginning (h : Longest language text body) {word : List Char} (hword : word ∈ language)
    (hstarts : word <+: text) : word <+: body :=
  List.prefix_of_prefix_length_le hstarts h.starts (h.longest word hword hstarts)

/-- Nothing that is taken is longer than what is taken. -/
theorem length_le (h : Longest language text body) (h' : Longest language text other) :
    body.length ≤ other.length := by
  by_cases hbody : body = []
  · rw [hbody]
    exact Nat.zero_le _
  · exact h'.longest body (h.mem hbody) h.starts

/-- There is only one longest beginning. Beginnings of one text with the same length are the same.
-/
theorem unique (h : Longest language text body) (h' : Longest language text other) :
    body = other := by
  have hlength : body.length = other.length := Nat.le_antisymm (h.length_le h') (h'.length_le h)
  exact (List.prefix_of_prefix_length_le h.starts h'.starts hlength.le).eq_of_length hlength

end Longest

/-- Of two beginnings of a text, the one with no more bytes has no more characters. Words are sorted
by their bytes, and the matcher counts characters. For beginnings of one text both orders agree, but
not for words in general. -/
theorem length_le_of_byteSize_le {text a b : List Char} (ha : a <+: text) (hb : b <+: text)
    (h : byteSize a ≤ byteSize b) : a.length ≤ b.length := by
  by_contra hlonger
  have hstarts : b <+: a := List.prefix_of_prefix_length_le hb ha (by omega)
  obtain ⟨more, rfl⟩ := hstarts
  have hmore : byteSize more = 0 := by
    rw [byteSize_append] at h
    omega
  rw [eq_nil_of_byteSize_eq_zero hmore] at hlonger
  simp at hlonger

/-- The words in order are those that are not empty. An empty word would be found at every place and
match nothing. -/
theorem mem_longestFirst_iff {words : List String} {word : List Char} :
    word ∈ longestFirst words ↔ (∃ s ∈ words, s.toList = word) ∧ word ≠ [] := by
  simp [longestFirst]

/-- No word has fewer bytes than one behind it. Words with as many bytes may stand in any order: at
most one of them starts a given text. -/
theorem pairwise_longestFirst (words : List String) :
    (longestFirst words).Pairwise fun a b => byteSize b ≤ byteSize a := by
  refine (List.pairwise_mergeSort ?_ ?_ _).imp of_decide_eq_true
  · intro a b c hab hbc
    simp only [decide_eq_true_eq] at hab hbc ⊢
    omega
  · intro a b
    simp only [Bool.or_eq_true, decide_eq_true_eq]
    omega

/-- The first word that is accepted is the longest of all that are, if only beginnings of the text
are accepted. Later words have no more bytes, and so no more characters. -/
theorem longest_found {words : List String} {text : List Char} {accepts : List Char → Bool}
    (haccepts : ∀ word, accepts word = true → word <+: text) :
    Longest {word | (∃ s ∈ words, s.toList = word) ∧ accepts word = true} text
      (((longestFirst words).find? accepts).getD []) := by
  cases hfind : (longestFirst words).find? accepts with
  | none =>
    refine ⟨List.nil_prefix, fun h => absurd rfl h, ?_⟩
    rintro word ⟨hdeclared, haccepted⟩ -
    -- only the empty word is not tried
    by_cases hword : word = []
    · rw [hword]
      exact Nat.le_refl _
    · exact absurd haccepted
        (List.find?_eq_none.mp hfind word (mem_longestFirst_iff.mpr ⟨hdeclared, hword⟩))
  | some found =>
    have hfound := List.find?_some hfind
    have hmem := mem_longestFirst_iff.mp (List.mem_of_find?_eq_some hfind)
    refine ⟨haccepts found hfound, fun _ => ⟨hmem.1, hfound⟩, ?_⟩
    rintro word ⟨hdeclared, haccepted⟩ hstarts
    by_cases hword : word = []
    · rw [hword]
      exact Nat.zero_le _
    · refine length_le_of_byteSize_le hstarts (haccepts found hfound) ?_
      obtain ⟨-, before, after, hwords, hbefore⟩ := List.find?_eq_some_iff_append.mp hfind
      have hsorted := pairwise_longestFirst words
      rw [hwords] at hsorted
      have htried : word ∈ before ++ found :: after := by
        rw [← hwords]
        exact mem_longestFirst_iff.mpr ⟨hdeclared, hword⟩
      rcases List.mem_append.mp htried with hmem | hmem
      · -- what was tried earlier was not accepted
        have hrejected := hbefore word hmem
        rw [haccepted] at hrejected
        cases hrejected
      · rcases List.mem_cons.mp hmem with rfl | hmem
        · exact Nat.le_refl _
        · exact List.rel_of_pairwise_cons (List.pairwise_append.mp hsorted).2.1 hmem

/-- The literal that is taken is the longest one that the text starts with. If there is none,
nothing is taken. -/
theorem longest_literal (words : List String) (text : List Char) :
    Longest {word | ∃ s ∈ words, s.toList = word} text
      (text.take (literalLength (longestFirst words) text)) := by
  have h := @longest_found words text (fun word => word.isPrefixOf text)
    fun word => List.isPrefixOf_iff_prefix.mp
  have htaken : text.take (literalLength (longestFirst words) text) =
      ((longestFirst words).find? fun w => w.isPrefixOf text).getD [] := by
    unfold literalLength
    cases hfind : (longestFirst words).find? fun w => w.isPrefixOf text with
    | none => simp
    | some found =>
      have hfound := List.find?_some hfind
      exact (List.prefix_iff_eq_take.mp (List.isPrefixOf_iff_prefix.mp hfound)).symm
  rw [htaken]
  refine ⟨h.starts, fun hne => (h.mem hne).1, fun word hword hstarts => ?_⟩
  exact h.longest word ⟨hword, List.isPrefixOf_iff_prefix.mpr hstarts⟩ hstarts

end Polyglot.Matcher
