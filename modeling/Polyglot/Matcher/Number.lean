import Polyglot.Matcher.Literal
import Polyglot.Matcher.Spec

/-!
# `Polyglot.Matcher.Number`: numbers

A number is a radix literal (`0x`, `0o` or `0b` and digits of that radix) or a decimal one
(digits, fraction, exponent), then the longest suffix that follows. In a run of digits the
separator may stand between two digits. All lengths are in code points.
-/

set_option autoImplicit false

namespace Polyglot.Matcher

/-- The numbers of a language, ready for use: the suffixes are those that are not empty,
longest first. -/
structure Number where
  /-- Hexadecimal numbers after `0x`. -/
  hex : Bool
  /-- Octal numbers after `0o`. -/
  octal : Bool
  /-- Binary numbers after `0b`. -/
  binary : Bool
  /-- Fractions. -/
  float : Bool
  /-- Exponents. -/
  scientific : Bool
  /-- A character that may stand between two digits. -/
  separator : Option Char
  /-- What may follow a number directly. -/
  suffixes : List (List Char)
deriving DecidableEq, Repr, Inhabited

namespace Number

/-- A number matcher ready for use. -/
def ofSpec (spec : NumberSpec) : Number where
  hex := spec.hex
  octal := spec.octal
  binary := spec.binary
  float := spec.float
  scientific := spec.scientific
  separator := spec.separator
  suffixes := longestFirst spec.suffixes

/-- The hexadecimal digits. -/
def isHexDigit (c : Char) : Bool := c.isDigit || ('a' ≤ c && c ≤ 'f') || ('A' ≤ c && c ≤ 'F')

/-- The octal digits. -/
def isOctalDigit (c : Char) : Bool := '0' ≤ c && c ≤ '7'

/-- The binary digits. -/
def isBinaryDigit (c : Char) : Bool := c == '0' || c == '1'

/-- The length of a run of digits. A separator counts only between two digits, so the
character in front of it (`afterDigit`) and the one behind it are looked at. -/
def digitRun (separator : Option Char) (digit : Char → Bool) (afterDigit : Bool) :
    List Char → Nat
  | [] => 0
  | c :: rest =>
    if digit c then digitRun separator digit true rest + 1
    else if separator = some c && afterDigit && rest.head?.any digit then
      digitRun separator digit false rest + 1
    else 0

/-- The digits of the radix that a letter names, if the radix is in use. -/
def radix? (n : Number) (letter : Char) : Option (Char → Bool) :=
  if (letter == 'x' || letter == 'X') && n.hex then some isHexDigit
  else if (letter == 'o' || letter == 'O') && n.octal then some isOctalDigit
  else if (letter == 'b' || letter == 'B') && n.binary then some isBinaryDigit
  else none

/-- The length of a literal with a radix. It is zero if no digits follow the radix, and `none`
if the text does not name a radix. -/
def radixLength? (n : Number) : List Char → Option Nat
  | '0' :: letter :: rest =>
    (n.radix? letter).map fun digit =>
      match digitRun n.separator digit false rest with
      | 0 => 0
      | digits => digits + 2
  | _ => none

/-- Whether a text starts with a point and a digit. -/
def startsFraction : List Char → Bool
  | '.' :: c :: _ => c.isDigit
  | _ => false

/-- The length of the exponent at the start of a text: letter, sign and digits, or zero. -/
def exponentLength (n : Number) : List Char → Nat
  | c :: rest =>
    if c == 'e' || c == 'E' then
      let sign := if rest.head?.any fun s => s == '+' || s == '-' then 1 else 0
      match digitRun n.separator Char.isDigit false (rest.drop sign) with
      | 0 => 0
      | digits => 1 + sign + digits
    else 0
  | [] => 0

/-- The length of a decimal literal, or zero. -/
def decimalLength (n : Number) (text : List Char) : Nat :=
  let whole := digitRun n.separator Char.isDigit false text
  if whole = 0 && !(n.float && startsFraction text) then 0
  else
    let afterWhole := text.drop whole
    let fraction :=
      if n.float && startsFraction afterWhole then
        1 + digitRun n.separator Char.isDigit false (afterWhole.drop 1)
      else 0
    let body := whole + fraction
    if n.scientific then body + n.exponentLength (text.drop body) else body

/-- The length of the number at the start of a text, or zero. -/
def length (n : Number) (text : List Char) : Nat :=
  let body := (n.radixLength? text).getD (n.decimalLength text)
  if body = 0 then 0 else body + literalLength n.suffixes (text.drop body)

end Number

end Polyglot.Matcher
