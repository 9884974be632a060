import Polyglot.Json.Basic

/-!
# `Polyglot.Json.Printer`: values as text

`Json.render` writes a value on one line without blanks. Characters that would end a line
(control characters, next line, line separator and paragraph separator) are escaped, so the
text never holds a line break; everything else but the quote and the backslash stands for
itself.
-/

set_option autoImplicit false

namespace Polyglot.Json

/-- A hexadecimal digit in lower case. -/
def hexChar (n : Nat) : Char := (Nat.toDigits 16 n).headD '0'

/-- The escape of a code point of the basic plane by its number. -/
def unitEscape (n : Nat) : List Char :=
  ['\\', 'u', hexChar (n / 4096 % 16), hexChar (n / 256 % 16), hexChar (n / 16 % 16),
    hexChar (n % 16)]

/-- How a character is written inside a string. -/
def escapeChar (c : Char) : List Char :=
  if c = '"' then ['\\', '"']
  else if c = '\\' then ['\\', '\\']
  else if c = '\x08' then ['\\', 'b']
  else if c = '\t' then ['\\', 't']
  else if c = '\n' then ['\\', 'n']
  else if c = '\x0c' then ['\\', 'f']
  else if c = '\r' then ['\\', 'r']
  else if c.toNat < 0x20 ∨ c.toNat = 0x85 ∨ c.toNat = 0x2028 ∨ c.toNat = 0x2029 then
    unitEscape c.toNat
  else [c]

/-- A string between quotes. -/
def quoted (s : String) : List Char := '"' :: s.toList.flatMap escapeChar ++ ['"']

/-- A number in decimal. -/
def Number.chars : Number → List Char
  | .int (.ofNat n) => Nat.toDigits 10 n
  | .int (.negSucc n) => '-' :: Nat.toDigits 10 (n + 1)
  | .float x => x.text.toList

mutual

/-- The text of a value. -/
def chars : Json → List Char
  | .null => ['n', 'u', 'l', 'l']
  | .bool true => ['t', 'r', 'u', 'e']
  | .bool false => ['f', 'a', 'l', 's', 'e']
  | .num n => n.chars
  | .str s => quoted s
  | .arr [] => ['[', ']']
  | .arr (item :: rest) => '[' :: chars item ++ itemsTail rest
  | .obj [] => ['\x7b', '\x7d']
  | .obj ((name, field) :: rest) => '\x7b' :: quoted name ++ ':' :: chars field ++ fieldsTail rest

/-- The text of the items after the first one, and the closing bracket. -/
def itemsTail : List Json → List Char
  | [] => [']']
  | item :: rest => ',' :: chars item ++ itemsTail rest

/-- The text of the fields after the first one, and the closing brace. -/
def fieldsTail : List (String × Json) → List Char
  | [] => ['\x7d']
  | (name, field) :: rest => ',' :: quoted name ++ ':' :: chars field ++ fieldsTail rest

end

/-- The text of a value. -/
def render (j : Json) : String := String.ofList (chars j)

end Polyglot.Json
