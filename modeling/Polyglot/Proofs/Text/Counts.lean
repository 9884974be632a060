import Mathlib
import Polyglot.Proofs.Text.Cursor

/-!
# `Polyglot.Proofs.Text.Counts`: what a text counts for

`Position.declared` says what the position after a text is without reading it character by
character: one line more for every carriage return, and for every line feed that does not
directly follow one; and the characters after the last of both make the column. These are exact
counts, which a text of any length has.

A cursor counts in words of 32 bits instead, and a count that has come to the greatest word stays
there. `Position.after_eq_capped` joins the two: the position after a text is the declared one, with
the line and the column cut off at the greatest word. The reason is that stopping at each step and
stopping once at the end come to the same (`capped_next`). So in a text of fewer than `2 ^ 32 - 1`
characters nothing is cut off, and the position is the declared one (`after_eq_declared`).

All exact statements on lines are about `declared`. What reaches a program is `after`, and the
two lemmas say when the difference can be seen.
-/

set_option autoImplicit false

namespace Polyglot

namespace Position

/-! ### Exact counts -/

/-- How many line feeds do not directly follow a carriage return. -/
def loneFeeds (text : List Char) : Nat :=
  (List.range text.length).countP fun i =>
    text[i]? = some '\n' ∧ ¬ (0 < i ∧ text[i - 1]? = some '\r')

/-- The position after a text, by what is in it. -/
def declared (text : List Char) : Position where
  line := 1 + text.count '\r' + loneFeeds text
  column := (text.reverse.takeWhile fun c => c ≠ '\r' ∧ c ≠ '\n').length
  offset := (String.ofList text).utf8ByteSize

/-- The step to the next position if lines and columns had no greatest count. It differs from
`Position.step` in nothing else, so that the two can be compared character by character. -/
def next (p : Position) (behind : Option Char) (c : Char) : Position :=
  let offset := p.offset + c.utf8Size
  if c = '\n' ∧ behind = some '\r' then { p with offset }
  else if endsLine c then ⟨p.line + 1, 0, offset⟩
  else ⟨p.line, p.column + 1, offset⟩

/-- A character more is a lone line feed more, if it is one. Whether it is depends on the last
character in front of it alone, so the other line feeds of the text keep being lone or not. -/
theorem loneFeeds_concat (text : List Char) (c : Char) :
    loneFeeds (text ++ [c]) =
      loneFeeds text + if c = '\n' ∧ text.getLast? ≠ some '\r' then 1 else 0 := by
  have hfront : (List.range text.length).countP (fun i =>
      (text ++ [c])[i]? = some '\n' ∧ ¬ (0 < i ∧ (text ++ [c])[i - 1]? = some '\r')) =
      loneFeeds text := by
    refine List.countP_congr fun i hi => ?_
    have hlt : i < text.length := List.mem_range.mp hi
    rw [List.getElem?_append_left hlt, List.getElem?_append_left (by omega)]
  -- the new place looks back at the last character
  have hlast : (0 < text.length ∧ (text ++ [c])[text.length - 1]? = some '\r') ↔
      text.getLast? = some '\r' := by
    rw [List.getLast?_eq_getElem?]
    constructor
    · rintro ⟨hpos, h⟩
      rwa [List.getElem?_append_left (by omega)] at h
    · intro h
      have hpos : 0 < text.length := by
        have := (List.getElem?_eq_some_iff.mp h).1
        omega
      exact ⟨hpos, by rwa [List.getElem?_append_left (by omega)]⟩
  unfold loneFeeds at hfront ⊢
  rw [List.length_append, List.length_singleton, List.range_succ, List.countP_append, hfront,
    List.countP_singleton, List.getElem?_append_right (Nat.le_refl _)]
  simp only [Nat.sub_self, List.getElem?_cons_zero, Option.some.injEq, hlast, decide_eq_true_eq,
    ne_eq]

/-- A character more makes the step to the next declared position. The count of lone line feeds
changes by `loneFeeds_concat`, and the column by looking at the reversed text, whose first
character is the new one. -/
theorem declared_concat (text : List Char) (c : Char) :
    declared (text ++ [c]) = (declared text).next text.getLast? c := by
  have hoffset : (String.ofList (text ++ [c])).utf8ByteSize =
      (String.ofList text).utf8ByteSize + c.utf8Size := by
    rw [utf8ByteSize_ofList, utf8ByteSize_ofList, byteSize_append]
    rfl
  unfold declared next
  rw [hoffset, loneFeeds_concat, List.count_append, List.reverse_append]
  by_cases hfeed : c = '\n'
  · subst hfeed
    by_cases hreturn : text.getLast? = some '\r'
    · -- the line has ended with the carriage return, which stands right in front
      obtain ⟨front, rfl⟩ := List.getLast?_eq_some_iff.mp hreturn
      simp
    · simp [hreturn, endsLine, Nat.add_assoc]
  · by_cases hends : c = '\r'
    · subst hends
      simp [endsLine, Nat.add_assoc, Nat.add_comm]
    · simp [hfeed, hends, endsLine]

/-- A character adds the same number of lines to all positions that have the same character in
front. Whether a line ends is decided by these two characters alone, and not by any count. -/
theorem exists_line_next (behind : Option Char) (c : Char) :
    ∃ more, more ≤ 1 ∧ ∀ p : Position, (p.next behind c).line = p.line + more := by
  by_cases hfeed : c = '\n' ∧ behind = some '\r'
  · exact ⟨0, Nat.zero_le 1, fun p => by rw [next, if_pos hfeed]; rfl⟩
  · by_cases hends : endsLine c = true
    · exact ⟨1, Nat.le_refl 1, fun p => by rw [next, if_neg hfeed, if_pos hends]⟩
    · exact ⟨0, Nat.zero_le 1, fun p => by rw [next, if_neg hfeed, if_neg hends]; rfl⟩

/-- A text adds the same number of lines behind two others that end in the same character, and no
more than it has characters. Only that character of the two matters, since a step looks at one
character in front of it. -/
theorem exists_line_append {a a' : List Char} (hlast : a.getLast? = a'.getLast?)
    (text : List Char) : ∃ more, more ≤ text.length ∧
      (declared (a ++ text)).line = (declared a).line + more ∧
      (declared (a' ++ text)).line = (declared a').line + more := by
  induction text using List.reverseRecOn with
  | nil => exact ⟨0, Nat.zero_le _, by rw [List.append_nil]; rfl, by rw [List.append_nil]; rfl⟩
  | append_singleton text c ih =>
    obtain ⟨more, hle, hline, hline'⟩ := ih
    obtain ⟨one, hone, hnext⟩ := exists_line_next (a ++ text).getLast? c
    have hlast' : (a' ++ text).getLast? = (a ++ text).getLast? := by
      rw [List.getLast?_append, List.getLast?_append, hlast]
    refine ⟨more + one, ?_, ?_, ?_⟩
    · rw [List.length_append, List.length_singleton]
      omega
    · rw [← List.append_assoc, declared_concat, hnext, hline, Nat.add_assoc]
    · rw [← List.append_assoc, declared_concat, hlast', hnext, hline', Nat.add_assoc]

/-- A text is on a line that is at most its length behind the first one. No character ends more than
one line. -/
theorem line_declared_le (text : List Char) : (declared text).line ≤ 1 + text.length := by
  have hempty : ([] : List Char).getLast? = ([] : List Char).getLast? := rfl
  obtain ⟨more, hle, hline, -⟩ := exists_line_append hempty text
  rw [List.nil_append] at hline
  have hstart : (declared []).line = 1 := rfl
  omega

/-- A text is in a column that is at most its length. The column is the length of its last line,
which is a part of it. -/
theorem column_declared_le (text : List Char) : (declared text).column ≤ text.length := by
  calc (text.reverse.takeWhile fun c => c ≠ '\r' ∧ c ≠ '\n').length
      ≤ text.reverse.length := (List.takeWhile_sublist _).length_le
    _ = text.length := List.length_reverse

/-- A text of line feeds is as many lines behind the first one as it has characters. So lines do
come to the greatest count, in texts that are long enough. -/
theorem line_declared_feeds (n : Nat) : (declared (List.replicate n '\n')).line = 1 + n := by
  induction n with
  | zero => rfl
  | succ n ih =>
    have hlast : (List.replicate n '\n').getLast? ≠ some '\r' := by
      intro h
      exact absurd (List.eq_of_mem_replicate (List.mem_of_getLast? h)) (by decide)
    rw [List.replicate_succ', declared_concat, next, if_neg fun h => hlast h.2]
    show (declared (List.replicate n '\n')).line + 1 = 1 + (n + 1)
    rw [ih, Nat.add_assoc]

/-! ### Counts that stop -/

/-- A position with its line and its column cut off at the greatest count. -/
def capped (p : Position) : Position where
  line := min p.line maxCount
  column := min p.column maxCount
  offset := p.offset

/-- To count on from a number that was cut off is to cut off the next number. Below the greatest
count both add one, and from there on both stay. -/
theorem countUp_min (n : Nat) : countUp (min n maxCount) = min (n + 1) maxCount := by
  unfold countUp
  split
  · omega
  · omega

/-- Counting on never comes to less. Beyond the greatest count, where no count gets to, it changes
nothing, so this needs no bound. -/
theorem le_countUp (n : Nat) : n ≤ countUp n := by
  unfold countUp
  split
  · exact Nat.le_succ n
  · exact Nat.le_refl n

/-- A step that stops at the greatest count goes to the position that is cut off there. This is
where the words of 32 bits come in, and by induction on the text it holds of the whole run. -/
theorem capped_next (p : Position) (behind : Option Char) (c : Char) :
    (p.next behind c).capped = p.capped.step behind c := by
  unfold next step
  dsimp only
  split
  · rfl
  · split
    · simp only [capped, countUp_min, Nat.zero_min]
    · simp only [capped, countUp_min]

/-- The position after two texts: the second one is passed behind the last character of the first
one. A line break may be cut in two between them, and it is still counted once. -/
theorem after_append (a b : List Char) : after (a ++ b) = (after a).pass a.getLast? b := by
  unfold after
  rw [pass_append, Option.or_none]

/-- The position after one more character. -/
theorem after_concat (text : List Char) (c : Char) :
    after (text ++ [c]) = (after text).step text.getLast? c := by
  rw [after_append]
  rfl

/-- The position that is counted character by character is the declared one, cut off at the greatest
count. The induction is on the text from its end, and its step is `capped_next`. So a count that has
stopped is the one that the whole text would have, cut off, and not one that depends on where it
stopped. -/
theorem after_eq_capped (text : List Char) : after text = (declared text).capped := by
  induction text using List.reverseRecOn with
  | nil => rfl
  | append_singleton text c ih => rw [after_concat, declared_concat, capped_next, ih]

/-- In a text that is not too long no count stops, and the position is the declared one. The line is
the count that decides, because it is one in front of the first character. -/
theorem after_eq_declared {text : List Char} (h : text.length < maxCount) :
    after text = declared text := by
  have hline := line_declared_le text
  have hcolumn := column_declared_le text
  rw [after_eq_capped, capped, Nat.min_eq_left (by omega), Nat.min_eq_left (by omega)]

/-- In a text that is not too long the position at every place is the declared one of what stands in
front. This is `after_eq_declared` for a part of the text, which is no longer than the whole. -/
theorem after_eq_declared_of_append {source : String} {front rest : List Char}
    (htext : source.toList = front ++ rest) (h : source.length < maxCount) :
    after front = declared front := by
  have hlength : front.length + rest.length = source.length := by
    rw [← String.length_toList, htext, List.length_append]
  exact after_eq_declared (by omega)

/-- The line after a text is the declared one, cut off at the greatest count. -/
theorem line_after (text : List Char) :
    (after text).line = min (declared text).line maxCount := by
  rw [after_eq_capped]
  rfl

/-- No line and no column is greater than the greatest count, in whatever text. -/
theorem after_le_maxCount (text : List Char) :
    (after text).line ≤ maxCount ∧ (after text).column ≤ maxCount := by
  rw [after_eq_capped]
  exact ⟨Nat.min_le_right _ _, Nat.min_le_right _ _⟩

/-- The offset after a text is the number of its bytes. Offsets are not cut off, as the memory of
the machine bounds them. -/
theorem offset_after (text : List Char) : (after text).offset = byteSize text := by
  rw [after_eq_capped]
  exact utf8ByteSize_ofList text

end Position

end Polyglot
