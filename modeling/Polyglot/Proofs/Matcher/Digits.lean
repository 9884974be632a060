import Polyglot.Proofs.Matcher.Length
import Polyglot.Proofs.Matcher.Longest

/-!
# `Polyglot.Proofs.Matcher.Digits`: digits and exponents are taken as far as they go

Digits may have a separator between them, which is any character. As a language they are a digit
and then more digits, each with the separator in front of it or without (`digits`). A run of digits
is the longest beginning of a text in this language (`longest_digitRun`), also if the separator is
a digit itself; and the exponent of a number is the longest beginning that is one
(`longest_exponent`).

`Longest.separator_of_lt` says how digits can go on over a character that is none: it is the
separator, and a digit follows it.
-/

set_option autoImplicit false

namespace Polyglot.Matcher

open Computability

/-! ### The grammar of digits and exponents -/

/-- The characters with a property, as words. -/
def oneOf (p : Char → Bool) : Language Char := {word | ∃ c, p c = true ∧ word = [c]}

/-- What may follow a digit: digits, each with the separator in front of it or without. -/
def moreDigits (separator : Option Char) (digit : Char → Bool) : Language Char :=
  ((1 + oneOf fun c => separator = some c) * oneOf digit)∗

/-- A digit, and more digits. -/
def digits (separator : Option Char) (digit : Char → Bool) : Language Char :=
  oneOf digit * moreDigits separator digit

/-- Whether a character is the letter of an exponent. -/
def isExponentLetter (c : Char) : Bool := c == 'e' || c == 'E'

/-- Whether a character is a sign. -/
def isSign (c : Char) : Bool := c == '+' || c == '-'

/-- A letter, a sign or none, and digits. -/
def exponent (separator : Option Char) : Language Char :=
  oneOf isExponentLetter * ((1 + oneOf isSign) * digits separator Char.isDigit)

variable {separator : Option Char} {digit : Char → Bool} {text word : List Char}

/-! ### Words of digits -/

/-- A word that starts with one of some characters. The grammar is written with products of
languages, and this takes the first factor off a word. -/
theorem mem_oneOf_mul_iff {p : Char → Bool} {language : Language Char} :
    word ∈ oneOf p * language ↔ ∃ c rest, p c = true ∧ rest ∈ language ∧ word = c :: rest := by
  constructor
  · rintro ⟨_, ⟨c, hc, rfl⟩, rest, hrest, rfl⟩
    exact ⟨c, rest, hc, hrest, rfl⟩
  · rintro ⟨c, rest, hc, hrest, rfl⟩
    have h : [c] ++ rest ∈ oneOf p * language := Language.append_mem_mul ⟨c, hc, rfl⟩ hrest
    exact h

/-- There is at least one digit. -/
theorem nil_notMem_digits : [] ∉ digits separator digit := by
  intro h
  obtain ⟨c, rest, -, -, h⟩ := mem_oneOf_mul_iff.mp h
  cases h

/-- The first of some digits is a digit. -/
theorem cons_mem_digits_iff {c : Char} {rest : List Char} :
    c :: rest ∈ digits separator digit ↔
      digit c = true ∧ rest ∈ moreDigits separator digit := by
  rw [digits, mem_oneOf_mul_iff]
  constructor
  · rintro ⟨c', rest', hc, hrest, h⟩
    obtain ⟨rfl, rfl⟩ := List.cons.inj h
    exact ⟨hc, hrest⟩
  · rintro ⟨hc, hrest⟩
    exact ⟨c, rest, hc, hrest, rfl⟩

/-- More digits are none, or digits, or the separator and digits. The star is unfolded once, and its
first round is made with the separator or without it. -/
theorem mem_moreDigits_iff :
    word ∈ moreDigits separator digit ↔ word = [] ∨ word ∈ digits separator digit ∨
      ∃ s rest, separator = some s ∧ rest ∈ digits separator digit ∧ word = s :: rest := by
  have hunfold : moreDigits separator digit = 1 +
      (digits separator digit + (oneOf fun c => separator = some c) * digits separator digit) := by
    conv_lhs => rw [moreDigits, ← Language.one_add_self_mul_kstar_eq_kstar]
    rw [mul_assoc, add_mul, one_mul]
    rfl
  rw [hunfold, Language.mem_add, Language.mem_one, Language.mem_add, mem_oneOf_mul_iff]
  simp only [decide_eq_true_eq]

/-- There may be no more digits. -/
theorem nil_mem_moreDigits : [] ∈ moreDigits separator digit :=
  mem_moreDigits_iff.mpr (.inl rfl)

/-- Digits may follow a digit. -/
theorem moreDigits_of_digits (h : word ∈ digits separator digit) :
    word ∈ moreDigits separator digit :=
  mem_moreDigits_iff.mpr (.inr (.inl h))

/-- The first character of more digits is a digit, or the separator in front of one. -/
theorem cons_mem_moreDigits_iff {c : Char} {rest : List Char} :
    c :: rest ∈ moreDigits separator digit ↔
      (digit c = true ∧ rest ∈ moreDigits separator digit) ∨
      (separator = some c ∧ rest ∈ digits separator digit) := by
  rw [mem_moreDigits_iff, cons_mem_digits_iff]
  constructor
  · rintro (h | h | ⟨s, rest', hs, hrest, h⟩)
    · cases h
    · exact .inl h
    · obtain ⟨rfl, rfl⟩ := List.cons.inj h
      exact .inr ⟨hs, hrest⟩
  · rintro (h | ⟨hs, hrest⟩)
    · exact .inr (.inl h)
    · exact .inr (.inr ⟨c, rest, hs, hrest, rfl⟩)

/-- More digits may follow more digits. They are a star, and two rounds of a star are one. -/
theorem append_mem_moreDigits {more : List Char} (h : word ∈ moreDigits separator digit)
    (hmore : more ∈ moreDigits separator digit) : word ++ more ∈ moreDigits separator digit := by
  have happend := Language.append_mem_mul h hmore
  unfold moreDigits at happend ⊢
  rwa [kstar_mul_kstar] at happend

/-- Digits on both sides of the separator are digits. The separator has to have a digit on either
side of it, so none stands at the end and none stands next to another one. -/
theorem append_cons_mem_digits {s : Char} {more : List Char} (h : word ∈ digits separator digit)
    (hs : separator = some s) (hmore : more ∈ digits separator digit) :
    word ++ s :: more ∈ digits separator digit := by
  cases word with
  | nil => exact absurd h nil_notMem_digits
  | cons c rest =>
    obtain ⟨hc, hrest⟩ := cons_mem_digits_iff.mp h
    have hbehind : s :: more ∈ moreDigits separator digit :=
      cons_mem_moreDigits_iff.mpr (.inr ⟨hs, hmore⟩)
    exact cons_mem_digits_iff.mpr ⟨hc, append_mem_moreDigits hrest hbehind⟩

/-- What is no digit among digits is the separator, and digits follow it. The induction is on the
digits in front. This is how an exponent that starts inside of digits is recognised. -/
theorem separator_of_mem_moreDigits {front rest : List Char} {c : Char}
    (h : front ++ c :: rest ∈ moreDigits separator digit) (hc : digit c = false) :
    separator = some c ∧ rest ∈ digits separator digit := by
  induction front with
  | nil =>
    rcases cons_mem_moreDigits_iff.mp h with ⟨hdigit, -⟩ | h
    · rw [hc] at hdigit
      cases hdigit
    · exact h
  | cons d front ih =>
    rcases cons_mem_moreDigits_iff.mp h with ⟨-, h⟩ | ⟨-, h⟩
    · exact ih h
    · exact ih (moreDigits_of_digits h)

/-! ### Runs of digits -/

/-- A run is more digits if it starts behind a digit, and digits if it starts with one. The scanner
carries along whether a digit stands in front, as a separator is only taken behind one. The
induction follows the scanner for both cases. -/
theorem take_digitRun_mem (afterDigit : Bool) (text : List Char) :
    (afterDigit = true →
      text.take (Number.digitRun separator digit afterDigit text) ∈ moreDigits separator digit) ∧
    (text.head?.any digit = true →
      text.take (Number.digitRun separator digit afterDigit text) ∈ digits separator digit) := by
  fun_induction Number.digitRun separator digit afterDigit text with
  | case1 => exact ⟨fun _ => nil_mem_moreDigits, fun h => absurd h Bool.false_ne_true⟩
  | case2 afterDigit c rest hc ih =>
    -- a digit
    have h : c :: rest.take (Number.digitRun separator digit true rest) ∈
        digits separator digit := cons_mem_digits_iff.mpr ⟨hc, ih.1 rfl⟩
    exact ⟨fun _ => moreDigits_of_digits h, fun _ => h⟩
  | case3 afterDigit c rest hc hsep ih =>
    -- a separator between two digits
    simp only [Bool.and_eq_true, decide_eq_true_eq] at hsep
    refine ⟨fun _ => ?_, fun h => absurd h hc⟩
    exact cons_mem_moreDigits_iff.mpr (.inr ⟨hsep.1.1, ih.2 hsep.2⟩)
  | case4 afterDigit c rest hc hsep =>
    -- the end of the run
    exact ⟨fun _ => nil_mem_moreDigits, fun h => absurd h hc⟩

/-- No beginning of the text that is more digits, or digits, is longer than the run. A separator
that is also a digit is counted as a digit, and what follows it is more digits all the same. -/
theorem length_le_digitRun (afterDigit : Bool) (text word : List Char) (hstarts : word <+: text) :
    (afterDigit = true → word ∈ moreDigits separator digit →
      word.length ≤ Number.digitRun separator digit afterDigit text) ∧
    (word ∈ digits separator digit →
      word.length ≤ Number.digitRun separator digit afterDigit text) := by
  induction text generalizing afterDigit word with
  | nil =>
    rw [List.prefix_nil.mp hstarts]
    exact ⟨fun _ _ => Nat.zero_le _, fun _ => Nat.zero_le _⟩
  | cons c rest ih =>
    cases word with
    | nil => exact ⟨fun _ _ => Nat.zero_le _, fun _ => Nat.zero_le _⟩
    | cons c' word =>
      obtain ⟨rfl, hrest⟩ := List.cons_prefix_cons.mp hstarts
      rw [cons_mem_moreDigits_iff, cons_mem_digits_iff, List.length_cons, Number.digitRun]
      by_cases hc : digit c' = true
      · rw [if_pos hc]
        have hmore := (ih true word hrest).1 rfl
        refine ⟨?_, fun h => Nat.succ_le_succ (hmore h.2)⟩
        rintro - (⟨-, h⟩ | ⟨-, h⟩)
        · exact Nat.succ_le_succ (hmore h)
        · exact Nat.succ_le_succ (hmore (moreDigits_of_digits h))
      · rw [if_neg hc]
        refine ⟨?_, fun h => absurd h.1 hc⟩
        rintro hafter (⟨h, -⟩ | ⟨hsep, h⟩)
        · exact absurd h hc
        · -- a digit follows the separator, so the run goes over it
          have hdigit : rest.head?.any digit = true := by
            cases word with
            | nil => exact absurd h nil_notMem_digits
            | cons d word =>
              obtain ⟨more, rfl⟩ := hrest
              exact (cons_mem_digits_iff.mp h).1
          rw [if_pos (by simp [hsep, hafter, hdigit])]
          exact Nat.succ_le_succ ((ih false word hrest).2 h)

/-- A run of digits is the longest beginning of the text that is digits. So the scanner may decide
at each character, without looking further ahead than one. -/
theorem longest_digitRun (separator : Option Char) (digit : Char → Bool) (text : List Char) :
    Longest (digits separator digit) text
      (text.take (Number.digitRun separator digit false text)) where
  starts := List.take_prefix _ _
  mem := by
    intro hne
    refine (take_digitRun_mem false text).2 ?_
    cases text with
    | nil => simp at hne
    | cons c rest =>
      by_contra hc
      have hstop : ¬ digit c = true := hc
      simp [Number.digitRun, hstop] at hne
  longest := by
    intro word hword hstarts
    have h := (length_le_digitRun false text word hstarts).2 hword
    have hle := Number.digitRun_le separator digit false text
    rw [List.length_take]
    omega

/-- A text that starts with digits starts with a digit. -/
theorem Longest.head_digit {run rest : List Char} {c : Char}
    (h : Longest (digits separator digit) (c :: rest) run) (hne : run ≠ []) :
    digit c = true := by
  cases run with
  | nil => exact absurd rfl hne
  | cons d run =>
    obtain ⟨rfl, -⟩ := List.cons_prefix_cons.mp h.starts
    exact (cons_mem_digits_iff.mp (h.mem hne)).1

/-- Where the longest digits go on over a character that is no digit, that character is the
separator and no other character than a digit follows it. The part behind that character is digits
too, and digits start with one. -/
theorem Longest.separator_of_lt {run front rest : List Char} {c : Char}
    (h : Longest (digits separator digit) text run) (hlt : front.length < run.length)
    (hstarts : front ++ c :: rest <+: text) (hc : digit c = false) :
    separator = some c ∧ ∀ d ∈ rest.head?, digit d = true := by
  obtain ⟨after, htext⟩ := hstarts
  rw [List.append_assoc] at htext
  -- the digits go on behind `front` with the same text
  have hfront : front <+: run :=
    List.prefix_of_prefix_length_le ⟨_, htext⟩ h.starts (Nat.le_of_lt hlt)
  obtain ⟨more, rfl⟩ := hfront
  obtain ⟨others, hothers⟩ := h.starts
  rw [← htext, List.append_assoc, List.append_cancel_left_eq, List.cons_append] at hothers
  cases more with
  | nil => simp at hlt
  | cons c' more =>
    obtain ⟨rfl, hbehind⟩ := List.cons.inj hothers
    have hmem : front ++ c' :: more ∈ digits separator digit := h.mem (by simp)
    obtain ⟨hsep, hmore⟩ := separator_of_mem_moreDigits (moreDigits_of_digits hmem) hc
    refine ⟨hsep, fun d hd => ?_⟩
    cases more with
    | nil => exact absurd hmore nil_notMem_digits
    | cons d' more =>
      have hhead : (rest ++ after).head? = some d' := by
        rw [← hbehind]
        rfl
      rw [List.head?_append, Option.mem_def.mp hd, Option.some_or] at hhead
      obtain rfl := Option.some.inj hhead
      exact (cons_mem_digits_iff.mp hmore).1

/-! ### Exponents -/

/-- The letter of an exponent is no digit. -/
theorem isDigit_of_isExponentLetter {c : Char} (h : isExponentLetter c = true) :
    c.isDigit = false := by
  simp only [isExponentLetter, Bool.or_eq_true, beq_iff_eq] at h
  rcases h with rfl | rfl
  · rfl
  · rfl

/-- A sign is no digit. -/
theorem isDigit_of_isSign {c : Char} (h : isSign c = true) : c.isDigit = false := by
  simp only [isSign, Bool.or_eq_true, beq_iff_eq] at h
  rcases h with rfl | rfl
  · rfl
  · rfl

/-- The parts of an exponent. -/
theorem mem_exponent_iff : word ∈ exponent separator ↔
    ∃ c sign run, isExponentLetter c = true ∧ (sign = [] ∨ ∃ s, isSign s = true ∧ sign = [s]) ∧
      run ∈ digits separator Char.isDigit ∧ word = c :: (sign ++ run) := by
  unfold exponent
  rw [mem_oneOf_mul_iff]
  constructor
  · rintro ⟨c, rest, hc, hrest, rfl⟩
    obtain ⟨sign, hsign, run, hrun, rfl⟩ := hrest
    exact ⟨c, sign, run, hc, hsign, hrun, rfl⟩
  · rintro ⟨c, sign, run, hc, hsign, hrun, rfl⟩
    exact ⟨c, _, hc, Language.append_mem_mul hsign hrun, rfl⟩

/-- The length of the sign at the start of a text. -/
def signLength (text : List Char) : Nat := if text.head?.any isSign then 1 else 0

/-- A sign that is counted is there. It is there or not, and there is one at most. -/
theorem take_signLength (text : List Char) : text.take (signLength text) = [] ∨
    ∃ s, isSign s = true ∧ text.take (signLength text) = [s] := by
  unfold signLength
  split
  · rename_i h
    cases text with
    | nil => cases h
    | cons s rest => exact .inr ⟨s, h, rfl⟩
  · exact .inl rfl

/-- A sign in front of digits is the one that is counted: where there is none, the digits start
the text, and a digit is no sign. -/
theorem starts_behind_sign {sign run : List Char}
    (hsign : sign = [] ∨ ∃ s, isSign s = true ∧ sign = [s])
    (hrun : run ∈ digits separator Char.isDigit) (hstarts : sign ++ run <+: text) :
    sign.length = signLength text ∧ run <+: text.drop (signLength text) := by
  obtain ⟨more, rfl⟩ := hstarts
  rcases hsign with rfl | ⟨s, hs, rfl⟩
  · cases run with
    | nil => exact absurd hrun nil_notMem_digits
    | cons d run =>
      have hdigit := (cons_mem_digits_iff.mp hrun).1
      have hd : isSign d = false := by
        -- without a sign, what stands first is a digit and no sign
        by_contra hsigned
        rw [isDigit_of_isSign (by simpa using hsigned)] at hdigit
        cases hdigit
      have hlength : signLength ([] ++ d :: run ++ more) = 0 := by simp [signLength, hd]
      rw [hlength]
      exact ⟨rfl, more, rfl⟩
  · have hlength : signLength ([s] ++ run ++ more) = 1 := by simp [signLength, hs]
    rw [hlength]
    exact ⟨rfl, more, rfl⟩

/-- What the scanner takes for an exponent: letter, sign and digits, if there are digits. -/
theorem take_exponentLength (n : Number) (c : Char) (rest : List Char) :
    (c :: rest).take (n.exponentLength (c :: rest)) =
      let sign := rest.take (signLength rest)
      let run := (rest.drop (signLength rest)).take
        (Number.digitRun n.separator Char.isDigit false (rest.drop (signLength rest)))
      if isExponentLetter c = true ∧ run ≠ [] then c :: (sign ++ run) else [] := by
  have hlength : n.exponentLength (c :: rest) = if isExponentLetter c = true then
      (if Number.digitRun n.separator Char.isDigit false (rest.drop (signLength rest)) = 0 then 0
        else 1 + signLength rest +
          Number.digitRun n.separator Char.isDigit false (rest.drop (signLength rest)))
      else 0 := by
    rw [Number.exponentLength]
    split
    · rename_i hc
      have hletter : isExponentLetter c = true := hc
      rw [if_pos hletter]
      dsimp only
      split
      · rename_i hcount
        exact (if_pos hcount).symm
      · rename_i hcount
        exact (if_neg hcount).symm
    · rename_i hc
      exact (if_neg hc).symm
  -- all that matters of the run from here on is that it is within the text
  have hle := Number.digitRun_le n.separator Char.isDigit false (rest.drop (signLength rest))
  dsimp only
  rw [hlength]
  generalize Number.digitRun n.separator Char.isDigit false (rest.drop (signLength rest)) = count
    at hle ⊢
  by_cases hc : isExponentLetter c = true
  · cases count with
    | zero => simp
    | succ count =>
      have hne : (rest.drop (signLength rest)).take (count + 1) ≠ [] := by
        intro h
        rcases List.take_eq_nil_iff.mp h with h | h
        · omega
        · rw [h] at hle
          simp at hle
      rw [if_pos hc, if_neg (Nat.succ_ne_zero count), if_pos ⟨hc, hne⟩]
      rw [show 1 + signLength rest + (count + 1) = signLength rest + (count + 1) + 1 by omega,
        List.take_succ_cons, List.take_add]
  · simp [hc]

/-- What the scanner takes for an exponent is the longest one. A letter and a sign alone are none,
so the scanner takes nothing if no digits follow them. -/
theorem longest_exponent (n : Number) (text : List Char) :
    Longest (exponent n.separator) text (text.take (n.exponentLength text)) := by
  cases text with
  | nil =>
    refine ⟨List.take_prefix _ _, fun h => by simp at h, fun word hword hstarts => ?_⟩
    rw [List.prefix_nil.mp hstarts]
    exact Nat.zero_le _
  | cons c rest =>
    have hrun := longest_digitRun n.separator Char.isDigit (rest.drop (signLength rest))
    have htaken := take_exponentLength n c rest
    dsimp only at htaken
    rw [htaken]
    generalize (rest.drop (signLength rest)).take (Number.digitRun n.separator Char.isDigit false
      (rest.drop (signLength rest))) = run at hrun ⊢
    -- any exponent here has the same letter and sign, and its digits are no longer
    have hword : ∀ word ∈ exponent n.separator, word <+: c :: rest →
        isExponentLetter c = true ∧ run ≠ [] ∧
          word.length ≤ (c :: (rest.take (signLength rest) ++ run)).length := by
      intro word hword hstarts
      obtain ⟨c', sign, found, hc, hsign, hfound, rfl⟩ := mem_exponent_iff.mp hword
      obtain ⟨rfl, hrest⟩ := List.cons_prefix_cons.mp hstarts
      obtain ⟨hlength, hbehind⟩ := starts_behind_sign hsign hfound hrest
      have hle := hrun.longest found hfound hbehind
      have hsize := hrest.length_le
      refine ⟨hc, ?_, ?_⟩
      · rintro rfl
        rw [List.length_eq_zero_iff.mp (Nat.le_zero.mp hle)] at hfound
        exact nil_notMem_digits hfound
      · simp only [List.length_cons, List.length_append, List.length_take] at hsize ⊢
        omega
    by_cases hthere : isExponentLetter c = true ∧ run ≠ []
    · rw [if_pos hthere]
      refine ⟨?_, fun _ => ?_, fun word hmem hstarts => (hword word hmem hstarts).2.2⟩
      · have hstarts : rest.take (signLength rest) ++ run <+:
            rest.take (signLength rest) ++ rest.drop (signLength rest) :=
          (List.prefix_append_right_inj _).mpr hrun.starts
        rw [List.take_append_drop] at hstarts
        exact List.cons_prefix_cons.mpr ⟨rfl, hstarts⟩
      · exact mem_exponent_iff.mpr
          ⟨c, _, run, hthere.1, take_signLength rest, hrun.mem hthere.2, rfl⟩
    · rw [if_neg hthere]
      refine ⟨List.nil_prefix, fun h => absurd rfl h, fun word hmem hstarts => ?_⟩
      obtain ⟨hc, hne, -⟩ := hword word hmem hstarts
      exact absurd ⟨hc, hne⟩ hthere

end Polyglot.Matcher
