/-!
# `Polyglot.Text.Position`: places in a source text

A `Position` counts lines from one, columns (code points) from zero, and bytes of the UTF-8
form from zero. Line feed and carriage return each end a line, and a line feed directly after
a carriage return belongs to the same line end. So one step needs the character in front of
the one that is passed: `Position.step` passes one character and `Position.pass` a list.

Lines and columns are counted in words of 32 bits. A count that has come to the greatest word
stays there (`Position.countUp`), so in a text with more lines than that all further ones have
the same number. Bytes have no such limit.

A `Range` is a start and an end position, the end excluded.
-/

set_option autoImplicit false

namespace Polyglot

/-- A place in a source text. -/
structure Position where
  /-- The line, from one. -/
  line : Nat := 1
  /-- The number of code points since the start of the line. -/
  column : Nat := 0
  /-- The number of bytes since the start of the text. -/
  offset : Nat := 0
deriving DecidableEq, Repr, Inhabited

namespace Position

/-- The start of a text. -/
def start : Position := {}

/-- The greatest line and the greatest column that are counted, one less than `2 ^ 32`. -/
def maxCount : Nat := 4294967295

/-- One more line or column, unless the count has come to the greatest one. -/
def countUp (n : Nat) : Nat := if n < maxCount then n + 1 else n

/-- Whether a character ends a line. -/
def endsLine (c : Char) : Bool := c == '\n' || c == '\r'

/-- The position after one more character, `behind` being the character in front of it. The
line feed of a carriage return and line feed only counts its byte. -/
def step (p : Position) (behind : Option Char) (c : Char) : Position :=
  let offset := p.offset + c.utf8Size
  if c = '\n' ∧ behind = some '\r' then { p with offset }
  else if endsLine c then ⟨countUp p.line, 0, offset⟩
  else ⟨p.line, countUp p.column, offset⟩

/-- The position after a list of characters. -/
def pass (p : Position) (behind : Option Char) : List Char → Position
  | [] => p
  | c :: rest => (p.step behind c).pass (some c) rest

end Position

/-- A stretch of a source text, the end excluded. -/
structure Range where
  /-- Where it starts. -/
  start : Position := {}
  /-- Where it ends. -/
  stop : Position := {}
deriving DecidableEq, Repr, Inhabited

namespace Range

/-- The number of bytes in the range. -/
def size (r : Range) : Nat := r.stop.offset - r.start.offset

/-- Whether the range has no bytes. -/
def isEmpty (r : Range) : Bool := r.size == 0

/-- Whether a byte offset lies in the range. -/
def contains (r : Range) (offset : Nat) : Bool :=
  r.start.offset ≤ offset && offset < r.stop.offset

/-- The smallest range that covers two ranges, judged by offsets; of equal offsets the
positions of the first range stay. -/
def cover (r s : Range) : Range where
  start := if s.start.offset < r.start.offset then s.start else r.start
  stop := if s.stop.offset > r.stop.offset then s.stop else r.stop

end Range

end Polyglot
