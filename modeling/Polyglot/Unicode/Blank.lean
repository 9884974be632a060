import Polyglot.Unicode.Ranges

/-!
# `Polyglot.Unicode.Blank`: white space

The property `White_Space`, and the text that is left when it is cut off at both ends.
-/

set_option autoImplicit false

namespace Polyglot.Unicode

/-- The white space characters. -/
def blankRanges : List (Nat × Nat) := [
  (0x9, 0xd), (0x20, 0x20), (0x85, 0x85), (0xa0, 0xa0), (0x1680, 0x1680), (0x2000, 0x200a),
  (0x2028, 0x2029), (0x202f, 0x202f), (0x205f, 0x205f), (0x3000, 0x3000)]

/-- Whether a character is white space. -/
def isBlank (c : Char) : Bool := inRanges blankRanges c.toNat

/-- A text without the white space at its start and end. -/
def trim (text : List Char) : List Char :=
  ((text.dropWhile isBlank).reverse.dropWhile isBlank).reverse

end Polyglot.Unicode
