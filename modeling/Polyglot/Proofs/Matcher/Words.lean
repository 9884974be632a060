import Mathlib.Order.Bounds.Basic
import Polyglot.Matcher.Basic
import Polyglot.Proofs.Matcher.Longest

/-!
# `Polyglot.Proofs.Matcher.Words`: literals and keywords take the longest word that fits

A literal fits a text that starts with it (`LiteralFits`); a keyword fits if no word character
touches it on either side as well (`KeywordFits`). `words_take_longest` says that both kinds of
matchers take the longest declared word that fits, in bytes, and nothing if no word fits. A
longer word that does not fit is no obstacle to a shorter one that does.

The scan stops at the first word that fits in the order of `longestFirst`. That this is the
longest one is `longest_found`, whatever it is that words are accepted for; here it is turned
into a statement about sizes, in which the order of the declared words does not occur. So the
order makes no difference, and neither does a word that is declared twice or is empty.
-/

set_option autoImplicit false

namespace Polyglot.Matcher

/-- A literal may be taken at the start of a text. -/
structure LiteralFits (text : List Char) (word : String) : Prop where
  /-- It has characters. -/
  nonempty : word ≠ ""
  /-- The text starts with it. -/
  starts : word.toList <+: text

/-- A keyword may be taken at the start of a text, `behind` being the character in front. -/
structure KeywordFits (behind : Option Char) (text : List Char) (word : String) : Prop
    extends LiteralFits text word where
  /-- No word character stands in front of it. -/
  free_before : ∀ c, behind = some c → isWordChar c = false
  /-- No word character follows it. -/
  free_after : ∀ c rest, text = word.toList ++ c :: rest → isWordChar c = false

/-- The bytes of the longest of some words that fit, or zero if none of them fits. -/
def LongestSize (words : List String) (fits : String → Prop) (size : Nat) : Prop :=
  IsGreatest (insert 0 {n | ∃ word ∈ words, fits word ∧ word.utf8ByteSize = n}) size

/-- The longest size depends on the words and not on their order. There is one greatest element of a
set only, and the set is made from membership in the list. So the order of a declaration cannot show
in a length. -/
theorem LongestSize.eq_of_mem_iff {words words' : List String} {fits : String → Prop}
    {size size' : Nat} (h : LongestSize words fits size) (h' : LongestSize words' fits size')
    (hsame : ∀ word, word ∈ words ↔ word ∈ words') : size = size' := by
  unfold LongestSize at h h'
  simp only [hsame] at h
  exact h.unique h'

/-- The first word that is accepted has the longest size of those that fit, if words with characters
fit just when they are accepted, and only beginnings of the text are. The words are ordered by their
bytes, and empty ones are left out of the order. Two beginnings of one text are comparable, so the
code points that are taken and the bytes that are compared go together. -/
theorem longestSize_found {words : List String} {text : List Char} {accepts : List Char → Bool}
    {fits : String → Prop} (haccepts : ∀ word, accepts word = true → word <+: text)
    (hfits : ∀ word, fits word ↔ word ≠ "" ∧ accepts word.toList = true) :
    LongestSize words fits
      (byteSize (text.take (((longestFirst words).find? accepts).map List.length |>.getD 0))) := by
  have hlongest := @longest_found words text accepts haccepts
  have htaken : text.take (((longestFirst words).find? accepts).map List.length |>.getD 0) =
      ((longestFirst words).find? accepts).getD [] := by
    cases hfind : (longestFirst words).find? accepts with
    | none => simp
    | some found =>
      have hfound := haccepts found (List.find?_some hfind)
      exact (List.prefix_iff_eq_take.mp hfound).symm
  rw [htaken]
  generalize ((longestFirst words).find? accepts).getD [] = body at hlongest
  constructor
  · by_cases hbody : body = []
    · rw [hbody]
      exact Set.mem_insert 0 _
    · obtain ⟨⟨word, hword, rfl⟩, haccepted⟩ := hlongest.mem hbody
      have hne : word ≠ "" := by
        intro hempty
        exact hbody (by rw [hempty]; rfl)
      refine Set.mem_insert_of_mem _ ⟨word, hword, (hfits word).mpr ⟨hne, haccepted⟩, ?_⟩
      exact utf8ByteSize_eq_byteSize word
  · rintro n (rfl | ⟨word, hword, hfit, rfl⟩)
    · exact Nat.zero_le _
    · obtain ⟨-, haccepted⟩ := (hfits word).mp hfit
      -- a word that fits begins what is taken
      obtain ⟨more, hmore⟩ := hlongest.isBeginning ⟨⟨word, hword, rfl⟩, haccepted⟩
        (haccepts _ haccepted)
      rw [utf8ByteSize_eq_byteSize, ← hmore, byteSize_append]
      omega

/-- A literal matcher takes the longest literal that fits. The words are tried with the longest
first, so the one that is found first is the answer. -/
theorem longestSize_literal (words : List String) (behind : Option Char) (text : List Char) :
    LongestSize words (LiteralFits text)
      ((literal (longestFirst words)).byteLength behind text) := by
  unfold byteLength
  rw [length, literalLength]
  refine longestSize_found (fun word => List.isPrefixOf_iff_prefix.mp) fun word => ?_
  rw [List.isPrefixOf_iff_prefix]
  exact ⟨fun h => ⟨h.nonempty, h.starts⟩, fun h => ⟨h.1, h.2⟩⟩

/-- The character behind a beginning of a text, if there is one. The matcher looks it up by a
position, and `KeywordFits` speaks of the text as an append; this leads from one to the other. -/
theorem head?_drop_eq_some_iff {word text : List Char} (hstarts : word <+: text) {c : Char} :
    (text.drop word.length).head? = some c ↔ ∃ rest, text = word ++ c :: rest := by
  obtain ⟨more, rfl⟩ := hstarts
  rw [List.drop_left, List.head?_eq_some_iff]
  simp

/-- A keyword matcher takes the longest keyword that fits. A longer word that runs into a word
character is passed over and a shorter one may still be taken, as each word is asked on its own. The
character in front is the same for all of them. -/
theorem longestSize_keyword (words : List String) (behind : Option Char) (text : List Char) :
    LongestSize words (KeywordFits behind text)
      ((keywords (longestFirst words)).byteLength behind text) := by
  unfold byteLength
  rw [length, keywordLength]
  split
  · rename_i htouched
    obtain ⟨c, hbehind, hc⟩ := (Option.any_eq_true _ _).mp htouched
    constructor
    · exact Set.mem_insert 0 _
    · -- no word fits behind a word character
      rintro n (rfl | ⟨word, -, hfit, -⟩)
      · exact Nat.le_refl _
      · have hfree := hfit.free_before c hbehind
        rw [hc] at hfree
        cases hfree
  · rename_i hfree
    refine longestSize_found (fun word h => ?_) fun word => ?_
    · rw [Bool.and_eq_true, List.isPrefixOf_iff_prefix] at h
      exact h.1
    · rw [Bool.and_eq_true, List.isPrefixOf_iff_prefix, Bool.not_eq_true', Option.any_eq_false]
      constructor
      · intro hfit
        refine ⟨hfit.nonempty, hfit.starts, fun c hc => ?_⟩
        obtain ⟨rest, hrest⟩ := (head?_drop_eq_some_iff hfit.starts).mp hc
        exact hfit.free_after c rest hrest
      · rintro ⟨hne, hstarts, hafter⟩
        refine ⟨⟨hne, hstarts⟩, fun c hc => ?_, fun c rest hrest => ?_⟩
        · rw [hc] at hfree
          exact Bool.eq_false_iff.mpr hfree
        · have hhead := (head?_drop_eq_some_iff hstarts).mpr ⟨rest, hrest⟩
          exact hafter c hhead

/-- Declared literals and keywords are matchers that take the longest declared word that fits, and
nothing if no word fits. To put the words into another order makes no difference. -/
theorem words_take_longest (classes : Table CharClass.Spec) :
    (∀ value : Literals,
      compile classes (.literal value) = .ok (literal (longestFirst value.toList)) ∧
      ∀ behind text, LongestSize value.toList (LiteralFits text)
        ((literal (longestFirst value.toList)).byteLength behind text)) ∧
    (∀ words : List String,
      compile classes (.keywords words) = .ok (keywords (longestFirst words)) ∧
      ∀ behind text, LongestSize words (KeywordFits behind text)
        ((keywords (longestFirst words)).byteLength behind text)) ∧
    ∀ words words' : List String, words.Perm words' → ∀ behind text,
      (literal (longestFirst words)).byteLength behind text =
          (literal (longestFirst words')).byteLength behind text ∧
        (keywords (longestFirst words)).byteLength behind text =
          (keywords (longestFirst words')).byteLength behind text := by
  refine ⟨fun value => ⟨by rw [compile], longestSize_literal value.toList⟩,
    fun words => ⟨by rw [compile], longestSize_keyword words⟩, ?_⟩
  intro words words' hperm behind text
  have hsame : ∀ word, word ∈ words ↔ word ∈ words' := fun word => hperm.mem_iff
  constructor
  · exact (longestSize_literal words behind text).eq_of_mem_iff
      (longestSize_literal words' behind text) hsame
  · exact (longestSize_keyword words behind text).eq_of_mem_iff
      (longestSize_keyword words' behind text) hsame

/-- In `not int`, `not in` runs into a word character; the shorter word is taken. -/
example : keywordLength (longestFirst ["not", "not in"]) none
    ['n', 'o', 't', ' ', 'i', 'n', 't'] = 3 := by cbv

end Polyglot.Matcher
