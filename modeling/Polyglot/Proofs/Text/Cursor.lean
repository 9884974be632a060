import Polyglot.Text.Cursor

/-!
# `Polyglot.Proofs.Text.Cursor`: where a cursor stands

A cursor moves one code point at a time, so a move over `n` code points is a fold of
`Position.step`. The theorems here give each part of a moved cursor in closed form:

* `Cursor.before_skip` and `Cursor.position_skip`: what was read, and the position after it.
* `Position.offset_pass`: positions count the bytes of the text that was passed, which are
  the bytes of its UTF-8 form (`utf8ByteSize_ofList`).
* `Cursor.advanceBytes_byteSize_take`: a move over the bytes of the next `n` characters is a
  move over these characters, so it ends on the boundary of a character.
* `Cursor.exact_skip`: the position of a cursor is a function of the text in front of it
  (`Position.after`), however the cursor got there.
-/

set_option autoImplicit false

namespace Polyglot

/-! ### Bytes -/

/-- The bytes of a list of characters are those of its UTF-8 form. -/
theorem utf8ByteSize_ofList (text : List Char) :
    (String.ofList text).utf8ByteSize = byteSize text := by
  induction text with
  | nil => rfl
  | cons c rest ih =>
    rw [show c :: rest = [c] ++ rest from rfl, String.ofList_append,
      String.utf8ByteSize_append, ih, byteSize_append]
    simp [byteSize]

namespace Position

/-- One character adds its bytes to the offset, whether it ends a line or not. Offsets do not depend
on what was in front, which makes them easier to follow than lines. -/
theorem offset_step (p : Position) (behind : Option Char) (c : Char) :
    (p.step behind c).offset = p.offset + c.utf8Size := by
  unfold step
  split
  · rfl
  · split
    · rfl
    · rfl

/-- A text adds its bytes to the offset. The induction is on the text, for any position in front of
it. -/
theorem offset_pass (p : Position) (behind : Option Char) (text : List Char) :
    (p.pass behind text).offset = p.offset + byteSize text := by
  induction text generalizing p behind with
  | nil => rfl
  | cons c rest ih =>
    rw [pass, ih, offset_step, byteSize]
    omega

/-- Passing one text and then another passes both, the last character of the first one standing in
front of the second. If the first one is empty, it is the character that was in front of it. -/
theorem pass_append (p : Position) (behind : Option Char) (a b : List Char) :
    p.pass behind (a ++ b) = (p.pass behind a).pass (a.getLast?.or behind) b := by
  induction a generalizing p behind with
  | nil => rfl
  | cons c rest ih =>
    rw [List.cons_append, pass, ih, pass]
    cases rest with
    | nil => rfl
    | cons d rest => simp [List.getLast?_cons]

/-- The position after a text that is read from the start. -/
def after (text : List Char) : Position := start.pass none text

end Position

namespace Cursor

/-- What was read after a move: the characters that were passed, and what was read before. The
cursor keeps this in reverse, so that reading one more character puts it in front. A move beyond the
end passes only what is left. -/
theorem before_skip (n : Nat) (r : Cursor) :
    (r.skip n).before = (r.rest.take n).reverse ++ r.before := by
  induction n generalizing r with
  | zero => rfl
  | succ n ih =>
    rw [skip, ih]
    cases h : r.rest with
    | nil => simp [step, h]
    | cons c rest => simp [step, h]

/-- What was read after a move, in the order of the text. -/
theorem reverse_before_skip (n : Nat) (r : Cursor) :
    (r.skip n).before.reverse = r.before.reverse ++ r.rest.take n := by
  rw [before_skip, List.reverse_append, List.reverse_reverse]

/-- The position after a move is the one after the characters that were passed. So the position of a
cursor can be compared with `Position.after`, which is computed from the text alone. -/
theorem position_skip (n : Nat) (r : Cursor) :
    (r.skip n).position = r.position.pass r.behind? (r.rest.take n) := by
  induction n generalizing r with
  | zero => rfl
  | succ n ih =>
    rw [skip, ih]
    cases h : r.rest with
    | nil => simp [step, h, Position.pass]
    | cons c rest => simp [step, h, Position.pass, behind?]

/-- It takes `n` characters to read the bytes of the next `n` characters. Each of them has at least
one byte, so no earlier character reaches the sum. -/
theorem charsFor_byteSize_take {n : Nat} {text : List Char} (h : n ≤ text.length) :
    charsFor (byteSize (text.take n)) text = n := by
  induction n generalizing text with
  | zero => simp [byteSize, charsFor]
  | succ n ih =>
    cases text with
    | nil => simp at h
    | cons c rest =>
      have hpos := c.utf8Size_pos
      have hrest : n ≤ rest.length := by simpa using h
      rw [List.take_succ_cons, byteSize]
      rw [charsFor, Nat.add_sub_cancel_left, ih hrest]
      -- the equation of `charsFor` for a character asks for a positive number of bytes
      omega

/-- A move over the bytes of the next `n` characters is a move over these characters. A match that
is reported in bytes is passed in this way. -/
theorem advanceBytes_byteSize_take {n : Nat} {r : Cursor} (h : n ≤ r.rest.length) :
    r.advanceBytes (byteSize (r.rest.take n)) = r.skip n := by
  rw [advanceBytes, charsFor_byteSize_take h]

/-- A cursor whose position is the one after the text in front of it. -/
def Exact (r : Cursor) : Prop := r.position = Position.after r.before.reverse

/-- The cursor at the start of a text is exact. -/
theorem exact_ofString (text : String) : (ofString text).Exact := rfl

/-- Moving keeps a cursor exact. The position goes on from the last character that was read, and
that is the one that `Position.after` has in front of the rest. -/
theorem exact_skip (n : Nat) {r : Cursor} (h : r.Exact) : (r.skip n).Exact := by
  have hlast : r.before.reverse.getLast?.or none = r.behind? := by
    rw [List.getLast?_reverse, Option.or_none]
    rfl
  unfold Exact at h ⊢
  rw [position_skip, reverse_before_skip, h]
  unfold Position.after
  rw [Position.pass_append, hlast]

end Cursor

end Polyglot
