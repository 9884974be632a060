import Mathlib
import Polyglot.Proofs.Text.Counts
import Polyglot.Proofs.Text.Shift

/-!
# `Polyglot.Proofs.Text.Moves`: every way to a place gives the same position

A cursor counts as it goes, and it may stop between a carriage return and its line feed, go back
to a position that was saved, and come to the same place by other steps. None of this shows:
`Cursor.position_after_moves` says that after any moves the position is the declared one of the
text in front (`Position.declared`), cut off at the greatest count, and that a move over bytes ends
at the first boundary of characters that is far enough. In a text of fewer than `2 ^ 32 - 1`
characters nothing is cut off.

All moves forward read a number of code points (`advance_eq_skip`, `advanceN_eq_skip`), and
reading code points keeps a cursor exact (`exact_skip`). Going back is right since an exact
cursor is known by its offset alone (`restore_save`).
-/

set_option autoImplicit false

namespace Polyglot

namespace Cursor

/-! ### Moves forward -/

/-- One move over several code points after another is one over all of them. So any way of moving
forward can be written as one number of code points. -/
theorem skip_skip (m n : Nat) (r : Cursor) : (r.skip m).skip n = r.skip (m + n) := by
  induction m generalizing r with
  | zero => rw [skip, Nat.zero_add]
  | succ m ih => rw [skip, ih, Nat.succ_add, skip]

/-- Reading a character reads one code point or two. It reads two at a carriage return with its line
feed. -/
theorem advance_eq_skip (r : Cursor) : ∃ n, r.advance = r.skip n := by
  unfold advance
  split
  · exact ⟨2, rfl⟩
  · exact ⟨1, rfl⟩

/-- Reading characters reads some number of code points. How many depends on the line breaks on the
way, but nothing below needs the number. -/
theorem advanceWithin_eq_skip (rounds n : Nat) (r : Cursor) :
    ∃ m, (advanceWithin rounds n r).2 = r.skip m := by
  fun_induction advanceWithin rounds n r with
  | case1 n r => exact ⟨0, rfl⟩
  | case2 rounds r => exact ⟨0, rfl⟩
  | case3 rounds n r hend => exact ⟨0, rfl⟩
  | case4 rounds n r hend count r' hrest ih =>
    obtain ⟨k, hk⟩ := r.advance_eq_skip
    obtain ⟨m, hm⟩ := ih
    refine ⟨k + m, ?_⟩
    rw [hrest, hk, skip_skip] at hm
    exact hm

/-- Reading characters reads some number of code points. -/
theorem advanceN_eq_skip (n : Nat) (r : Cursor) : ∃ m, (r.advanceN n).2 = r.skip m :=
  advanceWithin_eq_skip _ n r

/-! ### Going back -/

/-- An exact cursor stands at the number of bytes in front of it. For such a cursor the offset is
therefore not one more thing to keep in step. -/
theorem Exact.offset_eq {r : Cursor} (h : r.Exact) : r.offset = byteSize r.before.reverse := by
  rw [offset, h, Position.offset_after]

/-- Exact cursors at the same offset of a text are the same. The offset says how much of the text
was read (`append_inj_of_byteSize`), and what was read says the position. This is why all ways to an
offset lead to one position. -/
theorem Exact.eq_of_offset_eq {r s : Cursor} (hr : r.Exact) (hs : s.Exact)
    (htext : r.text = s.text) (hoffset : r.offset = s.offset) : r = s := by
  rw [hr.offset_eq, hs.offset_eq] at hoffset
  obtain ⟨hbefore, hrest⟩ := append_inj_of_byteSize htext hoffset
  have hposition : r.position = s.position := by rw [hr, hs, hbefore]
  cases r
  cases s
  rw [List.reverse_inj] at hbefore
  subst hbefore hrest hposition
  rfl

/-- Going back to a position that an exact cursor in the same text has saved gives that cursor.
Going back reads the text again from its start up to the saved offset, and takes the saved position
without counting. -/
theorem restore_save {r s : Cursor} (hs : s.Exact) (htext : r.text = s.text) :
    r.restore s.save = s := by
  have hlength : s.before.reverse.length ≤ s.text.length := by
    rw [text, List.length_append]
    exact Nat.le_add_right _ _
  have hchars : charsFor s.offset s.text = s.before.reverse.length := by
    have htake : s.text.take s.before.reverse.length = s.before.reverse := List.take_left
    rw [hs.offset_eq]
    conv_lhs => rw [← htake]
    exact charsFor_byteSize_take hlength
  unfold restore save
  dsimp only
  rw [htext, ← offset, hchars, text, List.take_left, List.drop_left, List.reverse_reverse]

/-! ### Moves over bytes -/

/-- An offset at which a character of a text starts, or at which the text ends. -/
def Boundary (text : List Char) (offset : Nat) : Prop :=
  ∃ front rest, text = front ++ rest ∧ offset = byteSize front

/-- As many code points as it takes have enough bytes, unless the text ends. The minimum covers both
cases. -/
theorem le_byteSize_take_charsFor (n : Nat) (text : List Char) :
    min n (byteSize text) ≤ byteSize (text.take (charsFor n text)) := by
  fun_induction charsFor n text with
  | case1 text => exact Nat.le_trans (Nat.min_le_left _ _) (Nat.zero_le _)
  | case2 n => exact Nat.min_le_right _ _
  | case3 n c rest hpos ih =>
    rw [List.take_succ_cons, byteSize, byteSize]
    omega

/-- No start of a text that has enough bytes is shorter than what it takes. With
`le_byteSize_take_charsFor` this says that what it takes is the shortest such start. -/
theorem byteSize_take_charsFor_le {n : Nat} {text front rest : List Char}
    (htext : text = front ++ rest) (h : min n (byteSize text) ≤ byteSize front) :
    byteSize (text.take (charsFor n text)) ≤ byteSize front := by
  induction front generalizing n text with
  | nil =>
    -- nothing is needed, or nothing is there
    cases text with
    | nil => simp [byteSize]
    | cons c text =>
      have hpos := c.utf8Size_pos
      rw [byteSize, byteSize] at h
      obtain rfl : n = 0 := by omega
      simp [charsFor]
  | cons c front ih =>
    subst htext
    cases n with
    | zero => simp [charsFor, byteSize]
    | succ n =>
      rw [List.cons_append] at h ⊢
      rw [byteSize, byteSize] at h
      have hrest := ih (n := n + 1 - c.utf8Size) rfl (by omega)
      rw [charsFor, List.take_succ_cons, byteSize, byteSize]
      · omega
      · exact Nat.succ_ne_zero n

/-- A move over bytes ends at the first boundary that has them all in front of it, or at the end of
the text. It may read more bytes than were asked for, when these end inside of a character. -/
theorem Exact.isLeast_offset_advanceBytes {r : Cursor} (h : r.Exact) (n : Nat) :
    IsLeast {offset | Boundary r.text offset ∧ min (r.offset + n) (byteSize r.text) ≤ offset}
      (r.advanceBytes n).offset := by
  have hsize : byteSize r.text = byteSize r.before.reverse + byteSize r.rest := by
    rw [text, byteSize_append]
  have hend : (r.advanceBytes n).offset =
      byteSize r.before.reverse + byteSize (r.rest.take (charsFor n r.rest)) := by
    rw [advanceBytes, (exact_skip _ h).offset_eq, reverse_before_skip, byteSize_append]
  rw [h.offset_eq, hend, hsize]
  constructor
  · refine ⟨⟨r.before.reverse ++ r.rest.take (charsFor n r.rest),
      r.rest.drop (charsFor n r.rest), ?_, (byteSize_append _ _).symm⟩, ?_⟩
    · rw [List.append_assoc, List.take_append_drop]
      rfl
    · have henough := le_byteSize_take_charsFor n r.rest
      omega
  · rintro _ ⟨⟨front, rest, htext, rfl⟩, henough⟩
    rcases List.append_eq_append_iff.mp htext with ⟨more, rfl, hrest⟩ | ⟨less, hbefore, -⟩
    · rw [byteSize_append] at henough ⊢
      have hleast : byteSize (r.rest.take (charsFor n r.rest)) ≤ byteSize more :=
        byteSize_take_charsFor_le hrest (by omega)
      omega
    · -- a boundary behind the cursor is far enough only if nothing is left to read
      have hless : byteSize r.before.reverse = byteSize front + byteSize less := by
        rw [hbefore, byteSize_append]
      have hleast : byteSize (r.rest.take (charsFor n r.rest)) ≤ byteSize ([] : List Char) :=
        byteSize_take_charsFor_le rfl (by rw [byteSize]; omega)
      rw [byteSize] at hleast
      omega

/-! ### Any moves -/

/-- A move of a cursor. -/
inductive Move where
  /-- Read one character, a carriage return and its line feed counting as one. -/
  | advance
  /-- Read up to `n` characters. -/
  | advanceN (n : Nat)
  /-- Read code points until `n` bytes were read. -/
  | advanceBytes (n : Nat)
  /-- Save the position. -/
  | save
  /-- Go back to the position that was saved as number `index`, if there is one. -/
  | restore (index : Nat)

/-- A cursor and the positions that were saved, in the order in which they were. -/
structure Session where
  /-- The cursor. -/
  cursor : Cursor
  /-- The saved positions. -/
  saved : List Snapshot := []

namespace Session

/-- Make a move. -/
def move (s : Session) : Move → Session
  | .advance => { s with cursor := s.cursor.advance }
  | .advanceN n => { s with cursor := (s.cursor.advanceN n).2 }
  | .advanceBytes n => { s with cursor := s.cursor.advanceBytes n }
  | .save => { s with saved := s.saved ++ [s.cursor.save] }
  | .restore index =>
    match s.saved[index]? with
    | some snapshot => { s with cursor := s.cursor.restore snapshot }
    | none => s

/-- A text after some moves from its start. -/
def after (text : String) (moves : List Move) : Session :=
  moves.foldl move { cursor := ofString text }

/-- The cursor and all that was saved are exact in a text. -/
structure Exact (text : String) (s : Session) : Prop where
  /-- The text stays the same. -/
  text_eq : s.cursor.text = text.toList
  /-- The cursor is exact. -/
  cursor : s.cursor.Exact
  /-- Every saved position is that of an exact cursor. -/
  saved : ∀ snapshot ∈ s.saved, ∃ r : Cursor, r.Exact ∧ r.text = text.toList ∧ r.save = snapshot

variable {text : String} {s : Session}

/-- Reading code points keeps a session exact. -/
theorem Exact.skip (h : s.Exact text) (n : Nat) :
    Exact text { s with cursor := s.cursor.skip n } where
  text_eq := by rw [text_skip, h.text_eq]
  cursor := exact_skip n h.cursor
  saved := h.saved

/-- Every move keeps a session exact. Moves forward are moves over code points. Going back leads to
a cursor that was exact when it was saved. -/
theorem Exact.move (h : s.Exact text) (m : Move) : (s.move m).Exact text := by
  cases m with
  | advance =>
    obtain ⟨n, hn⟩ := s.cursor.advance_eq_skip
    rw [Session.move, hn]
    exact h.skip n
  | advanceN n =>
    obtain ⟨m, hm⟩ := s.cursor.advanceN_eq_skip n
    rw [Session.move, hm]
    exact h.skip m
  | advanceBytes n => exact h.skip _
  | save =>
    refine ⟨h.text_eq, h.cursor, fun snapshot hsnapshot => ?_⟩
    rcases List.mem_append.mp hsnapshot with hold | hnew
    · exact h.saved snapshot hold
    · obtain rfl := List.mem_singleton.mp hnew
      exact ⟨s.cursor, h.cursor, h.text_eq, rfl⟩
  | restore index =>
    rw [Session.move]
    split
    · rename_i snapshot hsnapshot
      obtain ⟨r, hr, htext, rfl⟩ := h.saved snapshot (List.mem_of_getElem? hsnapshot)
      -- the snapshot was taken of the same text
      rw [restore_save hr (h.text_eq.trans htext.symm)]
      exact ⟨htext, hr, h.saved⟩
    · exact h

/-- A session is exact after any moves. The induction is on the moves, for any exact session to
start from. -/
theorem exact_after (text : String) (moves : List Move) : (after text moves).Exact text := by
  have hrun : ∀ s : Session, s.Exact text → (moves.foldl Session.move s).Exact text := by
    induction moves with
    | nil => exact fun _ h => h
    | cons m rest ih => exact fun s h => ih _ (h.move m)
  refine hrun _ ⟨?_, exact_ofString text, fun _ hmem => nomatch hmem⟩
  rfl

/-- In a text that is not too long, a session stands at the declared position of what was read,
because that is no longer than the text. -/
theorem Exact.position_eq_declared (h : s.Exact text) (hshort : text.length < Position.maxCount) :
    s.cursor.position = Position.declared s.cursor.before.reverse := by
  rw [h.cursor]
  exact Position.after_eq_declared_of_append h.text_eq.symm hshort

end Session

/-- After any moves the position of a cursor is the declared one of the text in front of it, cut off
at the greatest count; in a text of fewer than `2 ^ 32 - 1` characters it is the declared one. A
move over bytes goes on to the first boundary that is far enough, or to the end. All ways to one
offset lead to one position. No line and no column exceeds a word of 32 bits. -/
theorem position_after_moves (text : String) (moves : List Move) :
    (∃ front, text.toList = front ++ (Session.after text moves).cursor.rest ∧
      (Session.after text moves).cursor.position = (Position.declared front).capped ∧
      (text.length < 2 ^ 32 - 1 →
        (Session.after text moves).cursor.position = Position.declared front)) ∧
    (∀ n, IsLeast {offset | Boundary text.toList offset ∧
        min ((Session.after text moves).cursor.offset + n) text.utf8ByteSize ≤ offset}
      (Session.after text (moves ++ [.advanceBytes n])).cursor.offset) ∧
    (∀ others : List Move,
      (Session.after text others).cursor.offset = (Session.after text moves).cursor.offset →
      (Session.after text others).cursor.position =
        (Session.after text moves).cursor.position) ∧
    (Session.after text moves).cursor.position.line < 2 ^ 32 ∧
      (Session.after text moves).cursor.position.column < 2 ^ 32 := by
  have h := Session.exact_after text moves
  refine ⟨⟨_, h.text_eq.symm, ?_, h.position_eq_declared⟩, fun n => ?_, fun others hoffset => ?_, ?_⟩
  · rw [h.cursor, Position.after_eq_capped]
  · have hleast := h.cursor.isLeast_offset_advanceBytes n
    rw [h.text_eq, ← utf8ByteSize_eq_byteSize] at hleast
    unfold Session.after at hleast ⊢
    rw [List.foldl_append]
    exact hleast
  · have hothers := Session.exact_after text others
    exact congrArg Cursor.position
      (hothers.cursor.eq_of_offset_eq h.cursor (hothers.text_eq.trans h.text_eq.symm) hoffset)
  · have hmax := Position.after_le_maxCount (Session.after text moves).cursor.before.reverse
    rw [h.cursor]
    exact ⟨Nat.lt_of_le_of_lt hmax.1 (by decide), Nat.lt_of_le_of_lt hmax.2 (by decide)⟩

/-- A line break that is read in two parts, after going back into its middle, and at once. Both ways
lead to the position that the three characters in front declare. -/
theorem position_after_moves_split_break :
    (Session.after "a\r\nb" [.advance, .advance]).cursor.offset = 3 ∧
      (Session.after "a\r\nb"
          [.advanceBytes 2, .save, .advanceN 2, .restore 0, .advanceBytes 1]).cursor.position =
        (Session.after "a\r\nb" [.advance, .advance]).cursor.position ∧
      (Session.after "a\r\nb" [.advance, .advance]).cursor.position =
        Position.declared ['a', '\r', '\n'] := by
  obtain ⟨⟨front, hfront, -, hdeclared⟩, -, hways, -⟩ :=
    position_after_moves "a\r\nb" [.advance, .advance]
  have hthree : ['a', '\r', '\n'] = front := List.append_cancel_right hfront
  refine ⟨by decide, ?_, ?_⟩
  · exact hways [.advanceBytes 2, .save, .advanceN 2, .restore 0, .advanceBytes 1] (by decide)
  · rw [hthree]
    exact hdeclared (by decide)

end Cursor

end Polyglot
