import Polyglot.Json.Basic

/-!
# `Polyglot.Json.Lexeme`: the words of a JSON text

The strict grammar: blanks are space, tab, line feed and carriage return; no comments; a
string holds no raw control character; a number has no leading zero and no leading plus.
`Json.lex?` cuts a text into `Lexeme`s, each of which is recognised by a small function on
`List Char` that returns the rest of the text.

A string whose escapes name half of a surrogate pair, and a number beyond the largest
double, are lexemes without a value (`str none`, `num none`).
-/

set_option autoImplicit false

namespace Polyglot.Json

/-- A word of a JSON text. -/
inductive Lexeme where
  /-- The opening brace of an object. -/
  | openBrace
  /-- The closing brace of an object. -/
  | closeBrace
  /-- The opening bracket of a list. -/
  | openBracket
  /-- The closing bracket of a list. -/
  | closeBracket
  /-- The comma between items or members. -/
  | comma
  /-- The colon between a name and its value. -/
  | colon
  /-- The word `null`. -/
  | null
  /-- One of the words `true` and `false`. -/
  | bool (value : Bool)
  /-- A string. -/
  | str (value : Option String)
  /-- A number. -/
  | num (value : Option Number)
deriving Repr, Inhabited, DecidableEq

/-! ### Digits -/

/-- The value of a decimal digit. -/
def digit? (c : Char) : Option Nat :=
  if '0' ≤ c ∧ c ≤ '9' then some (c.toNat - '0'.toNat) else none

/-- Whether a character is a decimal digit. -/
def isDigit (c : Char) : Bool := (digit? c).isSome

/-- The value of a hexadecimal digit of either case. -/
def hexDigit? (c : Char) : Option Nat :=
  if '0' ≤ c ∧ c ≤ '9' then some (c.toNat - '0'.toNat)
  else if 'a' ≤ c ∧ c ≤ 'f' then some (c.toNat - 'a'.toNat + 10)
  else if 'A' ≤ c ∧ c ≤ 'F' then some (c.toNat - 'A'.toNat + 10)
  else none

/-! ### Strings -/

/-- What one character or escape of a string stands for: a code point, or half of one
outside the basic plane. -/
inductive Piece where
  /-- A code point. -/
  | char (value : Char)
  /-- A high surrogate, as its offset from `0xD800`. -/
  | high (offset : Nat)
  /-- A low surrogate, as its offset from `0xDC00`. -/
  | low (offset : Nat)
deriving Repr, DecidableEq

/-- The piece written as four hexadecimal digits. -/
def Piece.ofUnit (n : Nat) : Piece :=
  if 0xD800 ≤ n ∧ n ≤ 0xDBFF then .high (n - 0xD800)
  else if 0xDC00 ≤ n ∧ n ≤ 0xDFFF then .low (n - 0xDC00)
  else .char (Char.ofNat n)

/-- The character that a one-letter escape stands for. -/
def simpleEscape? : Char → Option Char
  | '"' => some '"'
  | '\\' => some '\\'
  | '/' => some '/'
  | 'b' => some '\x08'
  | 'f' => some '\x0c'
  | 'n' => some '\n'
  | 'r' => some '\r'
  | 't' => some '\t'
  | _ => none

/-- The pieces of a string up to its closing quote, and the text after the quote. -/
def stringBody : List Char → Option (List Piece × List Char)
  | [] => none
  | '"' :: rest => some ([], rest)
  | '\\' :: 'u' :: a :: b :: c :: d :: rest => do
    let a ← hexDigit? a
    let b ← hexDigit? b
    let c ← hexDigit? c
    let d ← hexDigit? d
    let (pieces, rest) ← stringBody rest
    return (Piece.ofUnit (((a * 16 + b) * 16 + c) * 16 + d) :: pieces, rest)
  | '\\' :: c :: rest => do
    let escaped ← simpleEscape? c
    let (pieces, rest) ← stringBody rest
    return (.char escaped :: pieces, rest)
  | c :: rest =>
    if c.toNat < 0x20 ∨ c = '\\' then none
    else do
      let (pieces, rest) ← stringBody rest
      return (.char c :: pieces, rest)

/-- Join surrogate pairs; a half without its partner has no value. -/
def joinPieces : List Piece → Option (List Char)
  | [] => some []
  | .char c :: rest => (joinPieces rest).map (c :: ·)
  | .high h :: .low l :: rest =>
    (joinPieces rest).map (Char.ofNat (0x10000 + h * 0x400 + l) :: ·)
  | .high _ :: _ => none
  | .low _ :: _ => none

/-! ### Numbers -/

/-- The parts of a number as written. -/
structure NumberText where
  /-- Whether it starts with a minus. -/
  negative : Bool
  /-- The digits before the point. -/
  whole : List Nat
  /-- The digits after the point; empty without a point. -/
  fraction : List Nat
  /-- Sign (minus or not) and digits of the exponent. -/
  exponent : Option (Bool × List Nat)
deriving Repr

/-- The longest run of decimal digits at the start, and the text after it. -/
def digits : List Char → List Nat × List Char
  | [] => ([], [])
  | c :: rest =>
    match digit? c with
    | some d => let (ds, rest) := digits rest; (d :: ds, rest)
    | none => ([], c :: rest)

/-- The fraction of a number, if one starts here: a point needs digits after it. -/
def fractionText? : List Char → Option (List Nat × List Char)
  | '.' :: rest =>
    match digits rest with
    | ([], _) => none
    | (ds, rest) => some (ds, rest)
  | rest => some ([], rest)

/-- The exponent of a number, if one starts here: its letter needs digits after it. -/
def exponentText? : List Char → Option (Option (Bool × List Nat) × List Char)
  | c :: rest =>
    if c = 'e' ∨ c = 'E' then
      let (negative, rest) :=
        match rest with
        | '-' :: rest => (true, rest)
        | '+' :: rest => (false, rest)
        | rest => (false, rest)
      match digits rest with
      | ([], _) => none
      | (ds, rest) => some (some (negative, ds), rest)
    else some (none, c :: rest)
  | [] => some (none, [])

/-- The number at the start of a text. A zero ends the digits before the point. -/
def numberText? (text : List Char) : Option (NumberText × List Char) := do
  let (negative, rest) :=
    match text with
    | '-' :: rest => (true, rest)
    | rest => (false, rest)
  let (whole, rest) ←
    match rest with
    | '0' :: rest => some ([0], rest)
    | rest =>
      match digits rest with
      | ([], _) => none
      | (ds, rest) => some (ds, rest)
  let (fraction, rest) ← fractionText? rest
  let (exponent, rest) ← exponentText? rest
  return (⟨negative, whole, fraction, exponent⟩, rest)

/-- Append decimal digits to a significand for as long as it fits into 64 bits. The result
counts the digits that were taken. -/
def takeDigits (significand : Nat) (taken : Nat) : List Nat → Nat × Nat
  | [] => (significand, taken)
  | d :: ds =>
    if significand * 10 + d < Nat.pow 2 64 then takeDigits (significand * 10 + d) (taken + 1) ds
    else (significand, taken)

/-- The number that digits denote. -/
def digitsValue (ds : List Nat) : Nat := ds.foldl (fun n d => n * 10 + d) 0

/-- The value of a number. Digits that do not fit into a 64-bit significand only move the
power of ten; `none` if the number is too large for a double. -/
def NumberText.value? (n : NumberText) : Option Number :=
  let (whole, taken) := takeDigits 0 0 n.whole
  let dropped := n.whole.length - taken
  if n.fraction.isEmpty ∧ n.exponent.isNone ∧ dropped = 0 then
    if n.negative then
      if 0 < whole ∧ whole ≤ Nat.pow 2 63 then some (.int (-(whole : Int)))
      else (Binary64.ofDecimal? true whole 0).map .float
    else some (.int whole)
  else
    let (significand, places) := takeDigits whole 0 n.fraction
    let power : Int :=
      match n.exponent with
      | none => 0
      | some (negative, ds) => if negative then -(digitsValue ds : Int) else digitsValue ds
    (Binary64.ofDecimal? n.negative significand (dropped - places + power)).map .float

/-! ### Texts -/

/-- Whether a character separates lexemes. -/
def isBlank (c : Char) : Bool := c = ' ' ∨ c = '\t' ∨ c = '\n' ∨ c = '\r'

/-- The lexeme at the start of a text that does not start with a blank. -/
def lexeme? : List Char → Option (Lexeme × List Char)
  | '\x7b' :: rest => some (.openBrace, rest)
  | '\x7d' :: rest => some (.closeBrace, rest)
  | '[' :: rest => some (.openBracket, rest)
  | ']' :: rest => some (.closeBracket, rest)
  | ',' :: rest => some (.comma, rest)
  | ':' :: rest => some (.colon, rest)
  | 'n' :: 'u' :: 'l' :: 'l' :: rest => some (.null, rest)
  | 't' :: 'r' :: 'u' :: 'e' :: rest => some (.bool true, rest)
  | 'f' :: 'a' :: 'l' :: 's' :: 'e' :: rest => some (.bool false, rest)
  | '"' :: rest =>
    (stringBody rest).map fun (pieces, rest) =>
      (.str ((joinPieces pieces).map String.ofList), rest)
  | text => (numberText? text).map fun (n, rest) => (.num n.value?, rest)

/-- The lexemes of a text, each step taking at least one character and one unit of fuel. -/
def lexAll? : Nat → List Char → Option (List Lexeme)
  | _, [] => some []
  | 0, _ :: _ => none
  | fuel + 1, c :: rest =>
    if isBlank c then lexAll? fuel rest
    else do
      let (lexeme, rest) ← lexeme? (c :: rest)
      let lexemes ← lexAll? fuel rest
      return lexeme :: lexemes

/-- The lexemes of a text. -/
def lex? (text : List Char) : Option (List Lexeme) := lexAll? text.length text

end Polyglot.Json
