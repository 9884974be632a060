import Polyglot.Proofs.Text.Counts

/-!
# `Polyglot.Proofs.Text.Shift`: one text after two others

A text `v` may stand after a text `u`, or after another one `u'`. Every place in `v` then has two
positions, and `Position.Shifted` compares them: the offsets differ by as much as the two texts
in front differ in bytes, and behind the first line break of `v` the columns are the same. The
lines differ by as much as the texts in front differ in lines, as long as no count stops; a count
that has stopped after the one text and goes on after the other takes the lines nearer to each
other.

`Position.shifted_after` says that this is so if `u` and `u'` end in the same character. Nothing
else of them counts, since a step looks at one character in front of it (`Position.step`). The
last character does count, because a line feed after a carriage return ends no line: where `v`
starts with such a line feed, that line feed is its first line break and leaves the column as it
was. The column is zero there all the same, since the carriage return has ended the line
(`Position.column_after_of_getLast?`).
-/

set_option autoImplicit false

namespace Polyglot

/-! ### Bytes -/

/-- The bytes of a text are those of its characters. -/
theorem utf8ByteSize_eq_byteSize (text : String) : text.utf8ByteSize = byteSize text.toList := by
  rw [← utf8ByteSize_ofList, String.ofList_toList]

/-- Only the empty text has no bytes. -/
theorem eq_nil_of_byteSize_eq_zero {text : List Char} (h : byteSize text = 0) : text = [] := by
  cases text with
  | nil => rfl
  | cons c rest =>
    have hpos := c.utf8Size_pos
    rw [byteSize] at h
    omega

/-- Two parts of a text with the same number of bytes in front of them are the same. One of the two
is a part of the other, and what it lacks has no bytes. -/
theorem append_inj_of_byteSize {a b u v : List Char} (h : a ++ b = u ++ v)
    (hsize : byteSize a = byteSize u) : a = u ∧ b = v := by
  have hnil : ∀ {x y z : List Char}, x = y ++ z → byteSize x = byteSize y → z = [] := by
    intro x y z hx hxy
    rw [hx, byteSize_append] at hxy
    exact eq_nil_of_byteSize_eq_zero (by omega)
  rcases List.append_eq_append_iff.mp h with ⟨s, hu, hb⟩ | ⟨s, ha, hv⟩
  · obtain rfl := hnil hu hsize.symm
    exact ⟨(List.append_nil a ▸ hu).symm, hb⟩
  · obtain rfl := hnil ha hsize
    exact ⟨List.append_nil u ▸ ha, hv.symm⟩

/-- The offset of the first line break in a text, or the number of its bytes. -/
def firstBreak (text : String) : Nat :=
  byteSize (text.toList.takeWhile fun c => !Position.endsLine c)

/-- The part in front of a place behind the first line break holds a line break. It is longer than
the characters up to the first one that ends a line, so that character is in it. -/
theorem exists_endsLine_of_firstBreak_lt {text : String} {front rest : List Char}
    (htext : text.toList = front ++ rest) (h : firstBreak text < byteSize front) :
    ∃ c ∈ front, Position.endsLine c = true := by
  refine Classical.byContradiction fun hnone => ?_
  have hfront : ∀ c ∈ front, (!Position.endsLine c) = true := by
    intro c hc
    rw [Bool.not_eq_true']
    exact Bool.eq_false_iff.mpr fun hends => hnone ⟨c, hc, hends⟩
  unfold firstBreak at h
  rw [htext, List.takeWhile_append_of_pos hfront, byteSize_append] at h
  omega

namespace Position

/-! ### Lines and columns -/

/-- One character takes two positions in the same column to the same column. Lines and offsets do
not enter into columns. -/
theorem column_step_congr {p q : Position} (h : p.column = q.column) (behind : Option Char)
    (c : Char) : (p.step behind c).column = (q.step behind c).column := by
  unfold step
  dsimp only
  split
  · exact h
  · split
    · rfl
    · rw [h]

/-- A text takes two positions in the same column to the same column. -/
theorem column_pass_congr {p q : Position} (h : p.column = q.column) (behind : Option Char)
    (text : List Char) : (p.pass behind text).column = (q.pass behind text).column := by
  induction text generalizing p q behind with
  | nil => exact h
  | cons c rest ih => exact ih (column_step_congr h behind c) (some c)

/-- A text with a line break takes all positions to the same column, if they are in the same column
where a line feed at its start would end no line. From the first line break on the column is counted
anew. The only line feed that does not set it back is one behind a carriage return, and there the
column is zero already. -/
theorem column_pass_of_break {p q : Position} {behind : Option Char} {text : List Char}
    (hreturn : behind = some '\r' → p.column = q.column)
    (hbreak : ∃ c ∈ text, endsLine c = true) :
    (p.pass behind text).column = (q.pass behind text).column := by
  induction text generalizing p q behind with
  | nil =>
    obtain ⟨c, hc, -⟩ := hbreak
    cases hc
  | cons c rest ih =>
    rw [pass, pass]
    by_cases hends : endsLine c = true
    · -- the line ends here, or has just ended
      refine column_pass_congr ?_ (some c) rest
      unfold step
      dsimp only
      split
      · rename_i hfeed
        exact hreturn hfeed.2
      · rfl
    · refine ih ?_ ?_
      · intro hc
        obtain rfl := Option.some.inj hc
        exact absurd rfl hends
      · obtain ⟨d, hd, hdends⟩ := hbreak
        rcases List.mem_cons.mp hd with rfl | hd
        · exact absurd hdends hends
        · exact ⟨d, hd, hdends⟩

/-! ### Positions after a text -/

/-- A text that ends in a carriage return ends in column zero. This meets the condition of
`column_pass_of_break` for two texts that end alike. -/
theorem column_after_of_getLast? {text : List Char} (h : text.getLast? = some '\r') :
    (after text).column = 0 := by
  obtain ⟨front, rfl⟩ := List.getLast?_eq_some_iff.mp h
  rw [after_append]
  rfl

/-- The two positions of one place in a text `v`, which stands after `u` and after `u'`. Lines are
counted up to the greatest count, and so their difference is the same all over `v` only where the
texts are short enough not to come there. -/
structure Shifted (u u' v : String) (p p' : Position) : Prop where
  /-- The offsets differ like the bytes of the texts in front. -/
  offset : (p'.offset : Int) - p.offset = u'.utf8ByteSize - u.utf8ByteSize
  /-- In texts that are not too long, the lines differ like those in which the texts in front
  end. -/
  line : (u ++ v).length < maxCount → (u' ++ v).length < maxCount →
    (p'.line : Int) - p.line = (after u'.toList).line - (after u.toList).line
  /-- In texts of any length, the lines are so many behind those in which the texts in front end,
  both cut off at the greatest count. -/
  line_capped : ∃ more, p.line = min ((declared u.toList).line + more) maxCount ∧
    p'.line = min ((declared u'.toList).line + more) maxCount
  /-- Behind the first line break the columns are the same. -/
  column : u.utf8ByteSize + firstBreak v < p.offset → p'.column = p.column

/-- A place in a text that stands after two others with the same last character. The exact lines are
so many behind the two ends, and cutting off gives the lines that are counted; in texts that are not
too long there is nothing to cut off at the place or in front of it. -/
theorem shifted_after {u u' v : String} (hlast : u.toList.getLast? = u'.toList.getLast?)
    {front rest : List Char} (hv : v.toList = front ++ rest) :
    Shifted u u' v (after (u.toList ++ front)) (after (u'.toList ++ front)) := by
  obtain ⟨more, -, hline, hline'⟩ := exists_line_append hlast front
  refine ⟨?_, ?_, ?_, ?_⟩
  · -- bytes add up
    rw [offset_after, offset_after, byteSize_append, byteSize_append,
      utf8ByteSize_eq_byteSize, utf8ByteSize_eq_byteSize]
    omega
  · -- in short texts no line is capped, and both go on by the same number
    intro hshort hshort'
    have hexact : ∀ w : String, (w ++ v).length < maxCount →
        after (w.toList ++ front) = declared (w.toList ++ front) ∧
          after w.toList = declared w.toList := by
      intro w hw
      have htext : (w ++ v).toList = (w.toList ++ front) ++ rest := by
        rw [String.toList_append, hv, List.append_assoc]
      exact ⟨after_eq_declared_of_append htext hw,
        after_eq_declared_of_append String.toList_append hw⟩
    rw [(hexact u hshort).1, (hexact u hshort).2, (hexact u' hshort').1, (hexact u' hshort').2,
      hline, hline']
    omega
  · -- in any text they go on by the same number before they are capped
    refine ⟨more, ?_, ?_⟩
    · rw [line_after, hline]
    · rw [line_after, hline']
  · -- a line break of `v` starts the columns afresh in both texts
    intro hbehind
    rw [offset_after, byteSize_append, utf8ByteSize_eq_byteSize] at hbehind
    have hbreak := exists_endsLine_of_firstBreak_lt hv (by omega)
    rw [after_append, after_append, ← hlast]
    refine column_pass_of_break ?_ hbreak
    intro hreturn
    rw [column_after_of_getLast? hreturn, column_after_of_getLast? (hlast ▸ hreturn)]

end Position

end Polyglot
