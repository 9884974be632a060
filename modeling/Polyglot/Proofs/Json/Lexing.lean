import Mathlib
import Polyglot.Json.Parser
import Polyglot.Json.Printer

/-!
# `Polyglot.Proofs.Json.Lexing`: the words of a written value

A value is written as a text (`Json.chars`), and the text is cut into words again. `Json.lexemes`
are the words that a value should be cut into, and `Json.Writable.lexesBack` says that they are
what comes out, whatever is written after the value.

Not every value survives: a fraction is rounded when it is read. `Json.Writable` are the values of
which the text says all there is: their numbers were written as integers (`Number.whole_iff`), the
names in an object increase, and containers nest no deeper than a given depth. It is an inductive
predicate, so that an induction on it goes into the items of lists and the fields of objects.

Strings are read back character by character (`stringBody_escapeChar`), and the digits of a number
give its value back (`digitsValue_toDigits`). A number goes on for as long as it can, so what
follows it must not look like more of it (`EndsNumber`).
-/

set_option autoImplicit false

namespace Polyglot.Json

/-! ### Values that can be written -/

/-- A number that was written as an integer between `-2 ^ 63` and `2 ^ 64 - 1`, without fraction and
exponent. -/
def Number.Whole (n : Number) : Prop :=
  ∃ (negative : Bool) (ds : List Nat), digitsValue ds < 2 ^ 64 ∧
    (negative = true → digitsValue ds ≤ 2 ^ 63) ∧
    NumberText.value? ⟨negative, ds, [], none⟩ = some n

/-- What such a number is read as: an integer, or `-0`, which is a double to keep its sign. -/
def Number.InRange : Number → Prop
  | .int n => -2 ^ 63 ≤ n ∧ n < 2 ^ 64
  | .float x => x = ⟨true, 0, -1074⟩

/-- A value whose text says all there is, with containers that nest at most `depth` deep. -/
inductive Writable : Nat → Json → Prop where
  /-- The value `null`. -/
  | null {depth : Nat} : Writable depth .null
  /-- A truth value. -/
  | bool {depth : Nat} (b : Bool) : Writable depth (.bool b)
  /-- A number that was written as an integer. -/
  | num {depth : Nat} {n : Number} (h : n.Whole) : Writable depth (.num n)
  /-- A string. -/
  | str {depth : Nat} (s : String) : Writable depth (.str s)
  /-- A list. -/
  | arr {depth : Nat} {items : List Json} (h : ∀ item ∈ items, Writable depth item) :
      Writable (depth + 1) (.arr items)
  /-- An object whose names increase. -/
  | obj {depth : Nat} {fields : List (String × Json)}
      (hsorted : fields.Pairwise (fun a b => a.1 < b.1))
      (h : ∀ field ∈ fields, Writable depth field.2) : Writable (depth + 1) (.obj fields)

/-! ### Strings -/

/-- A hexadecimal digit is read back. There are sixteen of them, and all are tried. -/
theorem hexDigit?_hexChar {n : Nat} (h : n < 16) : hexDigit? (hexChar n) = some n := by
  have hall : ∀ m : Fin 16, hexDigit? (hexChar m) = some m.val := by decide
  exact hall ⟨n, h⟩

/-- The escape of a code point of the basic plane is read back. Only control characters are written
in this way. The condition leaves out surrogates, which would have to come in pairs. -/
theorem stringBody_unitEscape {c : Char} (h : c.toNat < 0xD800) (rest : List Char) :
    stringBody (unitEscape c.toNat ++ rest) =
      (stringBody rest).map fun p => (.char c :: p.1, p.2) := by
  have hdigit : ∀ n : Nat, hexDigit? (hexChar (n % 16)) = some (n % 16) :=
    fun n => hexDigit?_hexChar (Nat.mod_lt _ (by decide))
  have hvalue : (((c.toNat / 4096 % 16) * 16 + c.toNat / 256 % 16) * 16 + c.toNat / 16 % 16) * 16 +
      c.toNat % 16 = c.toNat := by omega
  have hunit : Piece.ofUnit c.toNat = .char c := by
    rw [Piece.ofUnit, if_neg (by omega), if_neg (by omega), Char.ofNat_toNat]
  unfold unitEscape
  rw [List.cons_append, List.cons_append, List.cons_append, List.cons_append, List.cons_append,
    List.cons_append, List.nil_append, stringBody]
  simp only [hdigit, Option.bind_eq_bind, Option.bind_some, hvalue, hunit]
  cases stringBody rest <;> rfl

/-- A one-letter escape is read back. -/
theorem stringBody_simpleEscape {letter c : Char} (hc : simpleEscape? letter = some c)
    (rest : List Char) :
    stringBody ('\\' :: letter :: rest) =
      (stringBody rest).map fun p => (.char c :: p.1, p.2) := by
  have hu : letter ≠ 'u' := by
    rintro rfl
    exact nomatch hc
  rw [stringBody.eq_4 _ _ fun _ _ _ _ _ h _ => hu h, hc]
  cases stringBody rest <;> rfl

/-- A character is written as a one-letter escape, as the number of a code point of the basic plane,
or as itself. It is written as itself only if it is no quote, no backslash and no control character,
which are all that a string may not contain. -/
theorem escapeChar_cases (c : Char) :
    (∃ letter, simpleEscape? letter = some c ∧ escapeChar c = ['\\', letter]) ∨
    (c.toNat < 0xD800 ∧ escapeChar c = unitEscape c.toNat) ∨
    (c ≠ '"' ∧ c ≠ '\\' ∧ ¬ c.toNat < 0x20 ∧ escapeChar c = [c]) := by
  unfold escapeChar
  iterate 7
    split
    · rename_i h
      subst h
      refine .inl ⟨_, ?_, rfl⟩
      rfl
  split
  · exact .inr (.inl ⟨by omega, rfl⟩)
  · rename_i hquote hslash _ _ _ _ _ hplain
    exact .inr (.inr ⟨hquote, hslash, fun h => hplain (.inl h), rfl⟩)

/-- A character is read back from the way in which it is written. The rest of the string follows
behind it, whatever it is. -/
theorem stringBody_escapeChar (c : Char) (rest : List Char) :
    stringBody (escapeChar c ++ rest) =
      (stringBody rest).map fun p => (.char c :: p.1, p.2) := by
  obtain ⟨letter, hletter, heq⟩ | ⟨hunit, heq⟩ | ⟨hquote, hslash, hcontrol, heq⟩ :=
    escapeChar_cases c
  · rw [heq]
    exact stringBody_simpleEscape hletter rest
  · rw [heq]
    exact stringBody_unitEscape hunit rest
  · rw [heq, List.singleton_append, stringBody.eq_5 _ _ hquote
      (fun _ _ _ _ _ h _ => hslash h) (fun _ _ h _ => hslash h),
      if_neg fun h => h.elim hcontrol hslash]
    cases stringBody rest <;> rfl

/-- A string is read back up to its closing quote. A quote inside is escaped, so the first one that
is not ends the string. -/
theorem stringBody_flatMap_escapeChar (s rest : List Char) :
    stringBody (s.flatMap escapeChar ++ '"' :: rest) = some (s.map .char, rest) := by
  induction s with
  | nil => rfl
  | cons c s ih =>
    rw [List.flatMap_cons, List.append_assoc, stringBody_escapeChar, ih]
    rfl

/-- Characters are joined to their string. -/
theorem joinPieces_map_char (s : List Char) : joinPieces (s.map .char) = some s := by
  induction s with
  | nil => rfl
  | cons c s ih =>
    rw [List.map_cons, joinPieces, ih]
    rfl

/-- A string between quotes is one word. -/
theorem lexeme?_quoted (s : String) (rest : List Char) :
    lexeme? (quoted s ++ rest) = some (.str (some s), rest) := by
  unfold quoted
  rw [List.append_assoc, List.cons_append]
  show (stringBody (s.toList.flatMap escapeChar ++ '"' :: rest)).map _ = _
  rw [stringBody_flatMap_escapeChar, Option.map_some]
  dsimp only
  rw [joinPieces_map_char, Option.map_some, String.ofList_toList]

/-! ### Numbers -/

/-- A text that does not continue a number. -/
def EndsNumber (text : List Char) : Prop :=
  ∀ c ∈ text.head?, digit? c = none ∧ c ≠ '.' ∧ c ≠ 'e' ∧ c ≠ 'E'

/-- The value of a decimal digit. -/
theorem digit?_of_isDigit {c : Char} (h : c.isDigit = true) :
    digit? c = some (c.toNat - '0'.toNat) := by
  unfold Char.isDigit at h
  simp only [ge_iff_le, Bool.and_eq_true, decide_eq_true_eq] at h
  exact if_pos h

/-- Digits are read up to where they end. What follows must not be a digit, or it would be read as
one more. -/
theorem digits_append {ds rest : List Char} (hds : ∀ c ∈ ds, c.isDigit = true)
    (hrest : EndsNumber rest) :
    digits (ds ++ rest) = (ds.map fun c => c.toNat - '0'.toNat, rest) := by
  induction ds with
  | nil =>
    cases rest with
    | nil => rfl
    | cons c rest =>
      rw [List.nil_append, digits, (hrest c rfl).1]
      rfl
  | cons d ds ih =>
    rw [List.cons_append, digits, digit?_of_isDigit (hds d List.mem_cons_self),
      ih fun c hc => hds c (List.mem_cons_of_mem _ hc)]
    rfl

/-- A number without fraction has none. This is where the condition on what follows excludes a
point. -/
theorem fractionText?_eq {rest : List Char} (hrest : EndsNumber rest) :
    fractionText? rest = some ([], rest) := by
  cases rest with
  | nil => rfl
  | cons c rest =>
    have hpoint := (hrest c rfl).2.1
    unfold fractionText?
    split
    · rename_i h
      exact absurd (List.cons.inj h).1 hpoint
    · rfl

/-- A number without exponent has none. -/
theorem exponentText?_eq {rest : List Char} (hrest : EndsNumber rest) :
    exponentText? rest = some (none, rest) := by
  cases rest with
  | nil => rfl
  | cons c rest =>
    have hletter : ¬ (c = 'e' ∨ c = 'E') := by
      rintro (h | h)
      · exact (hrest c rfl).2.2.1 h
      · exact (hrest c rfl).2.2.2 h
    rw [exponentText?.eq_def]
    exact if_neg hletter

/-- The first digit of a positive number is not zero. A zero in front would end the number, as other
digits may not follow it. -/
theorem head?_toDigits_ne {n : Nat} (h : 0 < n) : (Nat.toDigits 10 n).head? ≠ some '0' := by
  induction n using Nat.strongRecOn with
  | ind n ih =>
    rw [Nat.toDigits_eq_if (by decide)]
    split
    · rename_i hlt
      have hall : ∀ m : Fin 10, 0 < m.val → [m.val.digitChar].head? ≠ some '0' := by decide
      exact hall ⟨n, hlt⟩ h
    · -- the first digit is that of the number without its last digit
      have hfirst := ih (n / 10) (by omega) (by omega)
      rwa [List.head?_append, Option.or_of_isSome]
      rw [List.isSome_head?]
      exact Nat.toDigits_ne_nil

/-- The digits of a number are read up to where they end. -/
theorem digits_toDigits (n : Nat) {rest : List Char} (hrest : EndsNumber rest) :
    digits (Nat.toDigits 10 n ++ rest) =
      ((Nat.toDigits 10 n).map fun c => c.toNat - '0'.toNat, rest) :=
  digits_append (fun _ hc => Nat.isDigit_of_mem_toDigits (by decide) (by decide) hc) hrest

/-- The digits of a number have its value. This ties the digits that the library writes to those
that are read here. -/
theorem digitsValue_toDigits (n : Nat) :
    digitsValue ((Nat.toDigits 10 n).map fun c => c.toNat - '0'.toNat) = n := by
  have hvalue := Nat.ofDigitChars_toDigits (b := 10) (n := n) (by decide) (by decide)
  unfold Nat.ofDigitChars at hvalue
  unfold digitsValue
  rw [List.foldl_map]
  simpa only [Nat.mul_comm] using hvalue

/-- Digits whose value fits into 64 bits are all taken. The value only grows while they are read, so
no step on the way leaves the range. -/
theorem takeDigits_eq {significand taken : Nat} {ds : List Nat}
    (h : ds.foldl (fun m d => m * 10 + d) significand < 2 ^ 64) :
    takeDigits significand taken ds =
      (ds.foldl (fun m d => m * 10 + d) significand, taken + ds.length) := by
  have hle : ∀ (ds : List Nat) (m : Nat), m ≤ ds.foldl (fun m d => m * 10 + d) m := by
    intro ds
    induction ds with
    | nil => exact fun m => Nat.le_refl m
    | cons d ds ih =>
      intro m
      exact Nat.le_trans (by omega) (ih (m * 10 + d))
  induction ds generalizing significand taken with
  | nil => rfl
  | cons d ds ih =>
    rw [List.foldl_cons] at h ⊢
    have hfits : significand * 10 + d < Nat.pow 2 64 := Nat.lt_of_le_of_lt (hle ds _) h
    rw [takeDigits, if_pos hfits, ih h, List.length_cons, Nat.add_assoc, Nat.add_comm 1]

/-- The text of an integer is that of a number without fraction and exponent. Zero is a case of its
own, because no digit may follow it. -/
theorem numberText?_toDigits (negative : Bool) (n : Nat) {rest : List Char}
    (hrest : EndsNumber rest) :
    numberText? ((if negative then ['-'] else []) ++ (Nat.toDigits 10 n ++ rest)) =
      some (⟨negative, (Nat.toDigits 10 n).map fun c => c.toNat - '0'.toNat, [], none⟩,
        rest) := by
  rcases Nat.eq_zero_or_pos n with rfl | hpos
  · -- a zero ends the digits by itself
    rw [show Nat.toDigits 10 0 = ['0'] from rfl]
    unfold numberText?
    cases negative <;> simp [fractionText?_eq hrest, exponentText?_eq hrest]
  · obtain ⟨d, ds, hds⟩ := List.exists_cons_of_ne_nil (Nat.toDigits_ne_nil (n := n) (b := 10))
    have hzero : d ≠ '0' := by
      have hfirst := head?_toDigits_ne hpos
      rw [hds] at hfirst
      exact fun h => hfirst (congrArg some h)
    have hminus : d ≠ '-' := by
      have hdigit : d.isDigit = true :=
        Nat.isDigit_of_mem_toDigits (by decide) (by decide) (hds ▸ List.mem_cons_self)
      rintro rfl
      exact absurd hdigit (by decide)
    have hdigits := digits_toDigits n hrest
    rw [hds, List.cons_append] at hdigits
    rw [hds]
    unfold numberText?
    cases negative <;>
      simp [hzero, hminus, hdigits, fractionText?_eq hrest, exponentText?_eq hrest]

/-- A number without fraction and exponent is the integer of its digits if that is in range, and
`-0` is a double. An integer has no negative zero, so the sign could not be kept otherwise. -/
theorem NumberText.value?_of_integer (negative : Bool) {ds : List Nat}
    (h : digitsValue ds < 2 ^ 64) (hnegative : negative = true → digitsValue ds ≤ 2 ^ 63) :
    NumberText.value? ⟨negative, ds, [], none⟩ =
      some (if negative = true then
          if digitsValue ds = 0 then .float ⟨true, 0, -1074⟩ else .int (-digitsValue ds)
        else .int (digitsValue ds)) := by
  have htaken : takeDigits 0 0 ds = (digitsValue ds, ds.length) := by
    rw [takeDigits_eq h, Nat.zero_add, digitsValue]
  unfold NumberText.value?
  simp only [htaken, Nat.sub_self]
  cases negative with
  | false => simp
  | true =>
    rcases Nat.eq_zero_or_pos (digitsValue ds) with hzero | hpos
    · rw [hzero]
      rfl
    · have hrange : digitsValue ds ≤ Nat.pow 2 63 := hnegative rfl
      simp [hpos, hrange, Nat.ne_of_gt hpos]

/-- What is written as an integer in range is read as one. -/
theorem NumberText.inRange_of_integer {negative : Bool} {ds : List Nat} {n : Number}
    (h : digitsValue ds < 2 ^ 64) (hnegative : negative = true → digitsValue ds ≤ 2 ^ 63)
    (hvalue : NumberText.value? ⟨negative, ds, [], none⟩ = some n) : n.InRange := by
  rw [value?_of_integer negative h hnegative, Option.some.injEq] at hvalue
  subst hvalue
  cases negative with
  | false => exact ⟨by omega, Int.ofNat_lt.mpr h⟩
  | true =>
    have hrange := hnegative rfl
    rw [if_pos rfl]
    split
    · rfl
    · exact ⟨by omega, by omega⟩

/-- The numbers that were written as integers are the integers in range and `-0`. The one side tells
how a number was written, as a reader of the text would, and the other one what it is read as. -/
theorem Number.whole_iff {n : Number} : n.Whole ↔ n.InRange := by
  constructor
  · rintro ⟨negative, ds, hrange, hnegative, hvalue⟩
    exact NumberText.inRange_of_integer hrange hnegative hvalue
  · intro h
    match n, h with
    | .int (.ofNat m), h =>
      have hrange : m < 2 ^ 64 := Int.ofNat_lt.mp h.2
      have hdigits := digitsValue_toDigits m
      refine ⟨false, (Nat.toDigits 10 m).map fun c => c.toNat - '0'.toNat, by omega, by simp, ?_⟩
      rw [NumberText.value?_of_integer false (by omega) (by simp), hdigits]
      rfl
    | .int (.negSucc m), h =>
      have hrange : m + 1 ≤ 2 ^ 63 := by
        have := h.1
        omega
      have hdigits := digitsValue_toDigits (m + 1)
      refine ⟨true, (Nat.toDigits 10 (m + 1)).map fun c => c.toNat - '0'.toNat, by omega,
        by omega, ?_⟩
      rw [NumberText.value?_of_integer true (by omega) (by omega), hdigits]
      rfl
    | .float x, h =>
      -- the negative zero is the only number in range that is no integer
      obtain rfl : x = ⟨true, 0, -1074⟩ := h
      exact ⟨true, [0], by decide, by decide, rfl⟩

/-- A digit or a minus starts the word of a number. No other word starts with one of them. -/
theorem lexeme?_number {c : Char} (hc : c.isDigit = true ∨ c = '-') (rest : List Char) :
    lexeme? (c :: rest) = (numberText? (c :: rest)).map fun p => (.num p.1.value?, p.2) := by
  have hne : ∀ d : Char, d.isDigit = false → d ≠ '-' → c ≠ d := by
    rintro d hdigit hminus rfl
    rcases hc with h | h
    · exact Bool.false_ne_true (hdigit.symm.trans h)
    · exact hminus h
  unfold lexeme?
  split
  any_goals
    rename_i heq
    exact absurd (List.cons.inj heq).1 (hne _ (by decide) (by decide))
  rfl

/-- The text of an integer is one word. What follows must not continue it; behind a value of a
document that is a comma, a bracket or the end. -/
theorem lexeme?_toDigits (negative : Bool) {n : Nat} (h : n < 2 ^ 64)
    (hnegative : negative = true → n ≤ 2 ^ 63) {rest : List Char} (hrest : EndsNumber rest) :
    lexeme? ((if negative then ['-'] else []) ++ (Nat.toDigits 10 n ++ rest)) =
      some (.num (some (if negative = true then if n = 0 then .float ⟨true, 0, -1074⟩ else .int (-n)
        else .int n)), rest) := by
  obtain ⟨d, ds, hds⟩ := List.exists_cons_of_ne_nil (Nat.toDigits_ne_nil (n := n) (b := 10))
  have hdigit : d.isDigit = true :=
    Nat.isDigit_of_mem_toDigits (by decide) (by decide) (hds ▸ List.mem_cons_self)
  have hstart : ∃ c cs, (if negative then ['-'] else []) ++ (Nat.toDigits 10 n ++ rest) = c :: cs ∧
      (c.isDigit = true ∨ c = '-') := by
    rw [hds]
    cases negative with
    | false => exact ⟨d, ds ++ rest, rfl, .inl hdigit⟩
    | true => exact ⟨'-', d :: ds ++ rest, rfl, .inr rfl⟩
  obtain ⟨c, cs, heq, hc⟩ := hstart
  have hnumber := numberText?_toDigits negative n hrest
  rw [heq] at hnumber ⊢
  rw [lexeme?_number hc, hnumber, Option.map_some]
  have hvalue := @NumberText.value?_of_integer negative
    ((Nat.toDigits 10 n).map fun c => c.toNat - '0'.toNat)
    (by rwa [digitsValue_toDigits]) (by rwa [digitsValue_toDigits])
  rw [digitsValue_toDigits] at hvalue
  dsimp only
  rw [hvalue]

/-- A number that was written as an integer is one word. By `Number.whole_iff` it is an integer in
range or `-0`, and each of the two is written with its digits. -/
theorem lexeme?_number_chars {n : Number} (h : n.Whole) {rest : List Char}
    (hrest : EndsNumber rest) :
    lexeme? (n.chars ++ rest) = some (.num (some n), rest) := by
  match n, Number.whole_iff.mp h with
  | .int (.ofNat m), h =>
    have hrange : m < 2 ^ 64 := Int.ofNat_lt.mp h.2
    exact lexeme?_toDigits false hrange (fun h => nomatch h) hrest
  | .int (.negSucc m), h =>
    have hrange : m + 1 ≤ 2 ^ 63 := by
      have := h.1
      omega
    exact lexeme?_toDigits true (n := m + 1) (by omega) (fun _ => hrange) hrest
  | .float x, h =>
    obtain rfl : x = ⟨true, 0, -1074⟩ := h
    have hdigits : digits ('0' :: rest) = ([0], rest) :=
      @digits_append ['0'] rest (List.forall_mem_singleton.mpr rfl) hrest
    show lexeme? ('-' :: '0' :: '.' :: '0' :: rest) = _
    rw [lexeme?_number (.inr rfl)]
    unfold numberText? fractionText?
    simp [hdigits, exponentText?_eq hrest]
    rfl

/-! ### Values -/

mutual

/-- The words of a value. -/
def lexemes : Json → List Lexeme
  | .null => [.null]
  | .bool b => [.bool b]
  | .num n => [.num (some n)]
  | .str s => [.str (some s)]
  | .arr [] => [.openBracket, .closeBracket]
  | .arr (item :: rest) => .openBracket :: lexemes item ++ itemsTailLexemes rest
  | .obj [] => [.openBrace, .closeBrace]
  | .obj ((name, field) :: rest) =>
    .openBrace :: .str (some name) :: .colon :: lexemes field ++ fieldsTailLexemes rest

/-- The words of the items after the first one, and the closing bracket. -/
def itemsTailLexemes : List Json → List Lexeme
  | [] => [.closeBracket]
  | item :: rest => .comma :: lexemes item ++ itemsTailLexemes rest

/-- The words of the fields after the first one, and the closing brace. -/
def fieldsTailLexemes : List (String × Json) → List Lexeme
  | [] => [.closeBrace]
  | (name, field) :: rest =>
    .comma :: .str (some name) :: .colon :: lexemes field ++ fieldsTailLexemes rest

end

/-- A text is cut into the given words. -/
def Lexes (text : List Char) (words : List Lexeme) : Prop :=
  ∀ fuel, text.length ≤ fuel → lexAll? fuel text = some words

namespace Lexes

/-- A text without characters has no words. -/
theorem nil : Lexes [] [] := by
  intro fuel _
  cases fuel <;> rfl

/-- A word in front of a text. The text behind it is shorter, so the fuel is enough for it too. -/
theorem cons {c : Char} {cs rest : List Char} {word : Lexeme} {words : List Lexeme}
    (hblank : isBlank c = false) (hword : lexeme? (c :: cs) = some (word, rest))
    (hshorter : rest.length ≤ cs.length) (h : Lexes rest words) :
    Lexes (c :: cs) (word :: words) := by
  intro fuel hfuel
  obtain ⟨fuel, rfl⟩ : ∃ f, fuel = f + 1 := ⟨fuel - 1, by rw [List.length_cons] at hfuel; omega⟩
  have hrest := h fuel (by rw [List.length_cons] at hfuel; omega)
  rw [lexAll?, if_neg (Bool.eq_false_iff.mp hblank), hword]
  simp only [Option.bind_eq_bind, Option.bind_some, hrest]
  rfl

/-- Some characters that are one word, in front of a text. They must not start with white space,
which would be skipped. -/
theorem append {front rest : List Char} {word : Lexeme} {words : List Lexeme}
    (hblank : ∀ c ∈ front.head?, isBlank c = false) (hfront : front ≠ [])
    (hword : lexeme? (front ++ rest) = some (word, rest)) (h : Lexes rest words) :
    Lexes (front ++ rest) (word :: words) := by
  obtain ⟨c, cs, rfl⟩ := List.exists_cons_of_ne_nil hfront
  refine cons (hblank c rfl) hword ?_ h
  rw [List.append_eq, List.length_append]
  exact Nat.le_add_left _ _

/-- A string in front of a text. -/
theorem quoted (s : String) {rest : List Char} {words : List Lexeme} (h : Lexes rest words) :
    Lexes (quoted s ++ rest) (.str (some s) :: words) :=
  append (fun _ hc => Option.some.inj hc ▸ rfl) (List.cons_ne_nil _ _) (lexeme?_quoted s rest) h

end Lexes

/-- A comma or a closing bracket does not continue a number. So numbers in a list need no space
behind them. -/
theorem endsNumber_itemsTail (items : List Json) (rest : List Char) :
    EndsNumber (itemsTail items ++ rest) := by
  cases items with
  | nil => exact fun c hc => Option.some.inj hc ▸ by decide
  | cons item items => exact fun c hc => Option.some.inj hc ▸ by decide

/-- A comma or a closing brace does not continue a number. -/
theorem endsNumber_fieldsTail (fields : List (String × Json)) (rest : List Char) :
    EndsNumber (fieldsTail fields ++ rest) := by
  cases fields with
  | nil => exact fun c hc => Option.some.inj hc ▸ by decide
  | cons field fields => exact fun c hc => Option.some.inj hc ▸ by decide

/-- A number that was written as an integer starts with a digit or a minus. -/
theorem Number.exists_chars_eq {n : Number} (h : n.Whole) :
    ∃ c cs, n.chars = c :: cs ∧ (c.isDigit = true ∨ c = '-') := by
  match n, Number.whole_iff.mp h with
  | .int (.ofNat m), _ =>
    obtain ⟨d, ds, hds⟩ := List.exists_cons_of_ne_nil (Nat.toDigits_ne_nil (n := m) (b := 10))
    exact ⟨d, ds, hds,
      .inl (Nat.isDigit_of_mem_toDigits (by decide) (by decide) (hds ▸ List.mem_cons_self))⟩
  | .int (.negSucc m), _ => exact ⟨'-', Nat.toDigits 10 (m + 1), rfl, .inr rfl⟩
  | .float x, h =>
    obtain rfl : x = ⟨true, 0, -1074⟩ := h
    exact ⟨'-', ['0', '.', '0'], rfl, .inr rfl⟩

/-- A number in front of a text that does not continue it. This is the one kind of word whose end is
not seen in the word itself. -/
theorem Lexes.number {n : Number} (h : n.Whole) {rest : List Char} {words : List Lexeme}
    (hrest : EndsNumber rest) (hwords : Lexes rest words) :
    Lexes (n.chars ++ rest) (.num (some n) :: words) := by
  obtain ⟨c, cs, hchars, hc⟩ := Number.exists_chars_eq h
  have hblank : isBlank c = false := by
    rcases hc with hdigit | rfl
    · refine Bool.eq_false_iff.mpr fun hblank => ?_
      unfold isBlank at hblank
      rcases of_decide_eq_true hblank with rfl | rfl | rfl | rfl <;> exact nomatch hdigit
    · rfl
  refine .append ?_ (hchars ▸ List.cons_ne_nil c cs) (lexeme?_number_chars h hrest) hwords
  intro d hd
  rw [hchars] at hd
  exact Option.some.inj hd ▸ hblank

/-- A value is cut into its words wherever its text ends. -/
def LexesBack (j : Json) : Prop :=
  ∀ {rest : List Char} {words : List Lexeme}, EndsNumber rest → Lexes rest words →
    Lexes (chars j ++ rest) (lexemes j ++ words)

/-- The items behind the first one are cut into their words. The induction is on the items, each
with the comma in front of it. -/
theorem Lexes.itemsTail {items : List Json} (h : ∀ item ∈ items, LexesBack item)
    {rest : List Char} {words : List Lexeme} (hwords : Lexes rest words) :
    Lexes (itemsTail items ++ rest) (itemsTailLexemes items ++ words) := by
  induction items with
  | nil => exact .cons rfl rfl (Nat.le_refl _) hwords
  | cons item items ih =>
    rw [Json.itemsTail, itemsTailLexemes, List.append_assoc, List.append_assoc]
    refine .cons rfl rfl (Nat.le_refl _) ?_
    exact h item List.mem_cons_self (endsNumber_itemsTail items rest)
      (ih fun other hother => h other (List.mem_cons_of_mem _ hother))

/-- The fields behind the first one are cut into their words. -/
theorem Lexes.fieldsTail {fields : List (String × Json)}
    (h : ∀ field ∈ fields, LexesBack field.2) {rest : List Char} {words : List Lexeme}
    (hwords : Lexes rest words) :
    Lexes (fieldsTail fields ++ rest) (fieldsTailLexemes fields ++ words) := by
  induction fields with
  | nil => exact .cons rfl rfl (Nat.le_refl _) hwords
  | cons field fields ih =>
    obtain ⟨name, value⟩ := field
    rw [Json.fieldsTail, fieldsTailLexemes]
    simp only [List.append_assoc, List.cons_append]
    refine .cons rfl rfl (Nat.le_refl _) (.quoted name (.cons rfl rfl (Nat.le_refl _) ?_))
    exact h (name, value) List.mem_cons_self (endsNumber_fieldsTail fields rest)
      (ih fun other hother => h other (List.mem_cons_of_mem _ hother))

/-- The text of a value is cut into the words of the value. The induction is on the value, for any
text behind it that does not continue a number. -/
theorem Writable.lexesBack {depth : Nat} {j : Json} (h : j.Writable depth) : j.LexesBack := by
  induction h with
  | null =>
    exact fun _ hwords => .append (fun _ hc => Option.some.inj hc ▸ rfl) (List.cons_ne_nil _ _) rfl
      hwords
  | bool b =>
    cases b <;> exact fun _ hwords =>
      .append (fun _ hc => Option.some.inj hc ▸ rfl) (List.cons_ne_nil _ _) rfl hwords
  -- a number is the only value whose end depends on what follows
  | num h => exact fun hrest hwords => .number h hrest hwords
  | str s => exact fun _ hwords => .quoted s hwords
  | @arr depth items h ih =>
    intro rest words hrest hwords
    cases items with
    | nil => exact .cons rfl rfl (Nat.le_refl _) (.cons rfl rfl (Nat.le_refl _) hwords)
    | cons item items =>
      rw [chars, lexemes, List.append_assoc, List.append_assoc]
      refine .cons rfl rfl (Nat.le_refl _) ?_
      exact ih item List.mem_cons_self (endsNumber_itemsTail items rest)
        (.itemsTail (fun other hother => ih other (List.mem_cons_of_mem _ hother)) hwords)
  | @obj depth fields hsorted h ih =>
    intro rest words hrest hwords
    cases fields with
    | nil => exact .cons rfl rfl (Nat.le_refl _) (.cons rfl rfl (Nat.le_refl _) hwords)
    | cons field fields =>
      obtain ⟨name, value⟩ := field
      rw [chars, lexemes]
      simp only [List.append_assoc, List.cons_append]
      refine .cons rfl rfl (Nat.le_refl _) (.quoted name (.cons rfl rfl (Nat.le_refl _) ?_))
      exact ih (name, value) List.mem_cons_self (endsNumber_fieldsTail fields rest)
        (.fieldsTail (fun other hother => ih other (List.mem_cons_of_mem _ hother)) hwords)

/-- The text of a value is cut into its words. Nothing follows at the top, and the end of the text
does not continue a number. -/
theorem Writable.lex?_render {depth : Nat} {j : Json} (h : j.Writable depth) :
    lex? (render j).toList = some (lexemes j) := by
  have hlexes : Lexes (chars j ++ []) (lexemes j ++ []) :=
    h.lexesBack (fun c hc => nomatch hc) .nil
  rw [List.append_nil, List.append_nil] at hlexes
  rw [render, String.toList_ofList, lex?]
  exact hlexes _ (Nat.le_refl _)

end Polyglot.Json
