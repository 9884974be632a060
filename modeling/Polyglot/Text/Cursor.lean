import Polyglot.Text.Position

/-!
# `Polyglot.Text.Cursor`: reading a text from left to right

A `Cursor` splits a text into the part that was read, the part that is still there, and the
position between them. Every way to move it goes through `Cursor.step`, which reads one code
point, so the position is always the one of the part that was read, however the cursor got
there.

* `Cursor.advance` reads one character, taking a carriage return and its line feed as one.
* `Cursor.skip` reads a number of code points, `Cursor.advanceBytes` a number of bytes; both
  may stop between a carriage return and its line feed.
* `Cursor.save` keeps a position and `Cursor.restore` goes back to it.
-/

set_option autoImplicit false

namespace Polyglot

/-- The number of bytes of a text in UTF-8. -/
def byteSize : List Char → Nat
  | [] => 0
  | c :: rest => c.utf8Size + byteSize rest

/-- The bytes of two texts one after the other are those of both. -/
@[simp] theorem byteSize_append (a b : List Char) : byteSize (a ++ b) = byteSize a + byteSize b := by
  induction a with
  | nil => simp [byteSize]
  | cons c rest ih => simp [byteSize, ih, Nat.add_assoc]

/-- A place inside a text. -/
structure Cursor where
  /-- The characters that were read, last first. -/
  before : List Char
  /-- The characters that are still there. -/
  rest : List Char
  /-- The position between the two. -/
  position : Position
deriving DecidableEq, Repr, Inhabited

namespace Cursor

/-- The cursor at the start of a text. -/
def ofList (text : List Char) : Cursor := ⟨[], text, .start⟩

/-- The cursor at the start of a text. -/
def ofString (text : String) : Cursor := ofList text.toList

/-! ### Looking -/

/-- The whole text. -/
def text (r : Cursor) : List Char := r.before.reverse ++ r.rest

/-- The byte offset of the cursor. -/
def offset (r : Cursor) : Nat := r.position.offset

/-- Whether everything was read. -/
def atEnd (r : Cursor) : Bool := r.rest.isEmpty

/-- The next character. -/
def peek? (r : Cursor) : Option Char := r.rest.head?

/-- The character `k` places ahead, the next one being at place 0. -/
def peekAt? (r : Cursor) (k : Nat) : Option Char := r.rest[k]?

/-- Up to `n` of the next characters. -/
def upcoming (r : Cursor) (n : Nat) : List Char := r.rest.take n

/-- The character just read. -/
def behind? (r : Cursor) : Option Char := r.before.head?

/-- Whether the rest starts with the given characters. -/
def startsWith (r : Cursor) (s : List Char) : Bool := s.isPrefixOf r.rest

/-- A text without its first `n` bytes, if a character starts there or the text ends there. -/
def dropBytes? : Nat → List Char → Option (List Char)
  | 0, text => some text
  | _ + 1, [] => none
  | n, c :: rest => if c.utf8Size ≤ n then dropBytes? (n - c.utf8Size) rest else none

/-- The text from a byte offset up to the cursor; empty if no character starts at the offset
or it lies behind the cursor. -/
def sliceFrom (r : Cursor) (offset : Nat) : List Char :=
  (dropBytes? offset r.before.reverse).getD []

/-! ### Moving -/

/-- Read one code point. -/
def step (r : Cursor) : Cursor :=
  match r.rest with
  | [] => r
  | c :: rest => ⟨c :: r.before, rest, r.position.step r.behind? c⟩

/-- Read `n` code points, or as many as there are. -/
def skip : Nat → Cursor → Cursor
  | 0, r => r
  | n + 1, r => skip n r.step

/-- Reading a code point does not change the text. -/
@[simp] theorem text_step (r : Cursor) : r.step.text = r.text := by
  cases h : r.rest with
  | nil => simp [step, h]
  | cons c rest => simp [step, text, h]

/-- Reading code points does not change the text. -/
@[simp] theorem text_skip (n : Nat) (r : Cursor) : (r.skip n).text = r.text := by
  induction n generalizing r with
  | zero => rfl
  | succ n ih => rw [skip, ih, text_step]

/-- Reading `n` code points leaves the rest without its first `n` characters. -/
@[simp] theorem rest_skip (n : Nat) (r : Cursor) : (r.skip n).rest = r.rest.drop n := by
  induction n generalizing r with
  | zero => rfl
  | succ n ih =>
    rw [skip, ih]
    cases h : r.rest with
    | nil => simp [step, h]
    | cons c rest => simp [step, h]

/-- Read one character, a carriage return and its line feed counting as one. -/
def advance (r : Cursor) : Cursor :=
  match r.rest with
  | '\r' :: '\n' :: _ => r.step.step
  | _ => r.step

/-- Read up to `n` characters, a carriage return and its line feed counting as one. The
result has the number of characters that were there to read. The rest of the text bounds the
number of rounds. -/
def advanceWithin : Nat → Nat → Cursor → Nat × Cursor
  | 0, _, r => (0, r)
  | _ + 1, 0, r => (0, r)
  | rounds + 1, n + 1, r =>
    if r.atEnd then (0, r)
    else
      let (count, r) := advanceWithin rounds n r.advance
      (count + 1, r)

/-- Read up to `n` characters, a carriage return and its line feed counting as one; the result
has the number of them. -/
def advanceN (r : Cursor) (n : Nat) : Nat × Cursor := advanceWithin r.rest.length n r

/-- The number of code points that it takes to read at least `n` bytes. -/
def charsFor : Nat → List Char → Nat
  | 0, _ => 0
  | _ + 1, [] => 0
  | n, c :: rest => charsFor (n - c.utf8Size) rest + 1

/-- Read code points until `n` bytes were read or the text ends. -/
def advanceBytes (r : Cursor) (n : Nat) : Cursor := skip (charsFor n r.rest) r

/-! ### Going back -/

/-- A position that was saved. -/
structure Snapshot where
  /-- The position. -/
  position : Position
deriving DecidableEq, Repr, Inhabited

/-- Save the position. -/
def save (r : Cursor) : Snapshot := ⟨r.position⟩

/-- Go back to a saved position. The text is split again at its offset. -/
def restore (r : Cursor) (saved : Snapshot) : Cursor :=
  let n := charsFor saved.position.offset r.text
  ⟨(r.text.take n).reverse, r.text.drop n, saved.position⟩

end Cursor

end Polyglot
