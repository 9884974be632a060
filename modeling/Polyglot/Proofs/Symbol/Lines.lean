import Mathlib
import Polyglot.Proofs.Lexer.Places
import Polyglot.Proofs.Text.Moves
import Polyglot.Symbol.Extent

/-!
# `Polyglot.Proofs.Symbol.Lines`: the table of lines and the cursor count alike

The starts of the lines of a text are found by looking ahead: a carriage return in front of a line
feed starts no line, and the line feed does. A cursor counts by looking behind: the carriage return
has ended the line already, and the line feed after it ends none. `lineStarts_agree` says that the
two come to the same. At every place of a text, the entry with the number of the line that a cursor
counts there is the start of that line, and the column is the number of code points since. The one
place where the entry lies ahead is between a carriage return and its line feed
(`Position.InsideBreak`), where the cursor is already on the next line, in column zero.

The table has a start for every line, while a cursor stops to count at the greatest word. So up to
`exists_onLine` lines are counted exactly (`Position.declared`), in texts of any length, and only the
theorem takes a text that is short enough for a cursor to count like that
(`Position.after_eq_declared`).

What carries the proof is `LinesUpTo`, the state of both counts at a place: one line is counted for
each start up to the place, and one more between a carriage return and its line feed. One character
keeps it (`LinesUpTo.next`), so it holds at every place (`exists_linesUpTo`).

The starts are found among characters. That they are also the places behind the bytes that end a
line in the UTF-8 form is `mem_offsets_lineStarts_iff`: no byte of a character that takes several
of them looks like a carriage return or a line feed.
-/

set_option autoImplicit false

namespace Polyglot

/-! ### Places where a line starts -/

namespace Position

/-- A place between a carriage return and its line feed. -/
def InsideBreak (front rest : List Char) : Prop :=
  front.getLast? = some '\r' ∧ rest.head? = some '\n'

instance (front rest : List Char) : Decidable (InsideBreak front rest) :=
  inferInstanceAs (Decidable (_ ∧ _))

/-- A place where a line starts: at the start of the text or behind a whole line break. -/
structure StartsLine (front rest : List Char) : Prop where
  /-- What is in front of the place ends a line, if there is anything. -/
  endsLine_last : ∀ c ∈ front.getLast?, endsLine c = true
  /-- The place is not inside of a line break. -/
  not_inside : ¬ InsideBreak front rest

/-- A line starts at the start of a text. -/
theorem startsLine_nil (rest : List Char) : StartsLine [] rest where
  endsLine_last := by simp
  not_inside := by simp [InsideBreak]

/-- A line starts behind a character just if the character is a line feed, or a carriage return
without one. This is the test that the table of lines makes at each character. -/
theorem startsLine_concat_iff {front rest : List Char} {c : Char} :
    StartsLine (front ++ [c]) rest ↔ c = '\n' ∨ (c = '\r' ∧ rest.head? ≠ some '\n') := by
  constructor
  · intro h
    have hends := h.endsLine_last c (by simp)
    have hwhole := h.not_inside
    simp only [InsideBreak, List.getLast?_concat, Option.some.injEq] at hwhole
    simp only [endsLine, Bool.or_eq_true, beq_iff_eq] at hends
    rcases hends with hfeed | hreturn
    · exact .inl hfeed
    · exact .inr ⟨hreturn, fun hhead => hwhole ⟨hreturn, hhead⟩⟩
  · intro h
    refine ⟨fun d hd => ?_, fun hinside => ?_⟩
    · simp only [List.getLast?_concat, Option.mem_def, Option.some.injEq] at hd
      subst hd
      rcases h with rfl | ⟨rfl, -⟩
      · rfl
      · rfl
    · simp only [InsideBreak, List.getLast?_concat, Option.some.injEq] at hinside
      rcases h with rfl | ⟨-, hhead⟩
      · exact absurd hinside.1 (by decide)
      · exact hhead hinside.2

/-- A character behind which a line starts takes one byte. So the place behind it is one more than
the place of the byte that ends the line. -/
theorem StartsLine.utf8Size_eq_one {front rest : List Char} {c : Char}
    (h : StartsLine (front ++ [c]) rest) : c.utf8Size = 1 := by
  rcases startsLine_concat_iff.mp h with rfl | ⟨rfl, -⟩
  · rfl
  · rfl

/-- Only the last character in front of a place decides whether a line starts there, together with
the next one behind it. -/
theorem startsLine_cons_iff {c : Char} {front rest : List Char} (hne : front ≠ []) :
    StartsLine (c :: front) rest ↔ StartsLine front rest := by
  have hlast : (c :: front).getLast? = front.getLast? := List.getLast?_cons_of_ne_nil hne
  constructor
  · rintro ⟨hends, hwhole⟩
    rw [hlast] at hends
    rw [InsideBreak, hlast] at hwhole
    exact ⟨hends, hwhole⟩
  · rintro ⟨hends, hwhole⟩
    rw [← hlast] at hends
    rw [InsideBreak, ← hlast] at hwhole
    exact ⟨hends, hwhole⟩

/-- A text that ends in a carriage return ends in column zero, also by what is declared. -/
theorem column_declared_of_getLast? {text : List Char} (h : text.getLast? = some '\r') :
    (declared text).column = 0 := by
  obtain ⟨front, rfl⟩ := List.getLast?_eq_some_iff.mp h
  rw [declared_concat]
  rfl

/-- A line starts in column zero. The step over a character that ends a line sets the column back,
and a line feed behind its carriage return leaves it at zero. -/
theorem StartsLine.column_eq_zero {front rest : List Char} (h : StartsLine front rest) :
    (declared front).column = 0 := by
  rcases List.eq_nil_or_concat' front with rfl | ⟨front, c, rfl⟩
  · rfl
  · have hends := h.endsLine_last c (by simp)
    rw [declared_concat]
    unfold next
    dsimp only
    split
    · -- the line feed leaves the column, which is zero behind its carriage return
      rename_i hfeed
      exact column_declared_of_getLast? hfeed.2
    · rfl

/-- The exact step over a character behind which a line starts, but for a line feed that belongs to
a carriage return. That one is left out because the line was counted at the carriage return already.
-/
theorem next_of_endsLine {front rest : List Char} {c : Char} {p : Position}
    (h : StartsLine (front ++ [c]) rest) (hinside : ¬ InsideBreak front (c :: rest)) :
    p.next front.getLast? c = ⟨p.line + 1, 0, p.offset + c.utf8Size⟩ := by
  have hends := h.endsLine_last c (by simp)
  unfold next
  dsimp only
  rw [if_neg, if_pos hends]
  rintro ⟨rfl, hreturn⟩
  exact hinside ⟨hreturn, rfl⟩

/-- The exact step over a character that ends no line. -/
theorem next_of_not_endsLine {c : Char} (h : endsLine c = false) (p : Position)
    (behind : Option Char) :
    p.next behind c = ⟨p.line, p.column + 1, p.offset + c.utf8Size⟩ := by
  unfold next
  dsimp only
  rw [if_neg, if_neg (by simp [h])]
  rintro ⟨rfl, -⟩
  cases h

end Position

open Position (InsideBreak StartsLine)

/-! ### The table -/

/-- A later start is behind the first character of the text, or behind more of it. This follows the
recursion by which the table is made. -/
theorem mem_laterLineStarts_cons {offset : Nat} {c : Char} {rest : List Char} {s : LineStart} :
    s ∈ laterLineStarts offset (c :: rest) ↔
      (StartsLine ([] ++ [c]) rest ∧ s = ⟨offset + c.utf8Size, rest⟩) ∨
        s ∈ laterLineStarts (offset + c.utf8Size) rest := by
  rw [laterLineStarts, Position.startsLine_concat_iff]
  split
  · rename_i hends
    rw [List.mem_cons, and_iff_right hends]
  · rename_i hends
    rw [or_iff_right fun h => hends h.1]

/-- The later starts are the places behind some of the text at which a line starts. The induction is
on the text for any offset, since the table is made from left to right with the offset carried
along. -/
theorem mem_laterLineStarts_iff {offset : Nat} {text : List Char} {s : LineStart} :
    s ∈ laterLineStarts offset text ↔ ∃ front, front ≠ [] ∧ text = front ++ s.text ∧
      s.offset = offset + byteSize front ∧ StartsLine front s.text := by
  induction text generalizing offset with
  | nil =>
    simp only [laterLineStarts, List.not_mem_nil, false_iff]
    rintro ⟨front, hne, htext, -⟩
    exact hne (List.append_eq_nil_iff.mp htext.symm).1
  | cons c rest ih =>
    rw [mem_laterLineStarts_cons, ih]
    constructor
    · rintro (⟨hstarts, rfl⟩ | ⟨front, hne, rfl, hoffset, hstarts⟩)
      · exact ⟨[c], List.cons_ne_nil _ _, rfl, rfl, hstarts⟩
      · refine ⟨c :: front, List.cons_ne_nil _ _, rfl, ?_, ?_⟩
        · rw [hoffset, byteSize, Nat.add_assoc]
        · exact (Position.startsLine_cons_iff hne).mpr hstarts
    · rintro ⟨front, hne, htext, hoffset, hstarts⟩
      cases front with
      | nil => exact absurd rfl hne
      | cons d front =>
        obtain ⟨rfl, hrest⟩ := List.cons.inj htext
        rw [byteSize] at hoffset
        -- whether a line starts behind `c` itself depends on what follows `c`
        by_cases hfront : front = []
        · subst hfront
          obtain rfl : rest = s.text := hrest
          refine .inl ⟨hstarts, ?_⟩
          show s = ⟨offset + (c.utf8Size + byteSize []), s.text⟩
          rw [← hoffset]
        · refine .inr ⟨front, hfront, hrest, by omega, ?_⟩
          exact (Position.startsLine_cons_iff hfront).mp hstarts

/-- The starts of lines are the places of the text at which a line starts. The start of the text is
one of them, also when the text is empty. -/
theorem mem_lineStarts_iff {text : List Char} {s : LineStart} :
    s ∈ lineStarts text ↔ ∃ front, text = front ++ s.text ∧ s.offset = byteSize front ∧
      StartsLine front s.text := by
  rw [lineStarts, List.mem_cons, mem_laterLineStarts_iff]
  constructor
  · rintro (rfl | ⟨front, -, htext, hoffset, hstarts⟩)
    · exact ⟨[], rfl, rfl, Position.startsLine_nil text⟩
    · exact ⟨front, htext, by omega, hstarts⟩
  · rintro ⟨front, htext, hoffset, hstarts⟩
    by_cases hfront : front = []
    · subst hfront
      obtain rfl : text = s.text := htext
      left
      show s = ⟨0, s.text⟩
      rw [show 0 = s.offset from hoffset.symm]
    · exact .inr ⟨front, hfront, htext, by omega, hstarts⟩

/-- A later start is behind the place from which the text is read. There is a character in front of
it, and each character takes at least one byte. -/
theorem lt_offset_of_mem_laterLineStarts {offset : Nat} {text : List Char} {s : LineStart}
    (h : s ∈ laterLineStarts offset text) : offset < s.offset := by
  obtain ⟨front, hne, -, hoffset, -⟩ := mem_laterLineStarts_iff.mp h
  have hpos : byteSize front ≠ 0 := fun hzero => hne (eq_nil_of_byteSize_eq_zero hzero)
  omega

/-- The later starts are in the order of their offsets. Each one that is added is in front of all
that come from the rest of the text. -/
theorem pairwise_laterLineStarts (offset : Nat) (text : List Char) :
    (laterLineStarts offset text).Pairwise (·.offset < ·.offset) := by
  induction text generalizing offset with
  | nil => exact .nil
  | cons c rest ih =>
    rw [laterLineStarts]
    split
    · exact .cons (fun _ hs => lt_offset_of_mem_laterLineStarts hs) (ih _)
    · exact ih _

/-- The starts of lines are in the order of their offsets. -/
theorem pairwise_offsets_lineStarts (text : List Char) :
    ((lineStarts text).map (·.offset)).Pairwise (· < ·) :=
  List.pairwise_map.mpr
    (.cons (fun _ hs => lt_offset_of_mem_laterLineStarts hs) (pairwise_laterLineStarts 0 text))

/-! ### Bytes -/

/-- A byte at an index ends a line: it is a line feed, or a carriage return in front of anything
else. -/
def BreaksAt (bytes : List UInt8) (i : Nat) : Prop :=
  bytes[i]? = some 10 ∨ (bytes[i]? = some 13 ∧ bytes[i + 1]? ≠ some 10)

/-- The UTF-8 form of a text. -/
def utf8Bytes (text : List Char) : List UInt8 := text.flatMap String.utf8EncodeChar

/-- A character is encoded as one byte, its code point, or as bytes that are not ASCII, and then it
is neither a line feed nor a carriage return. So looking for line breaks among bytes and among
characters comes to the same. -/
theorem utf8EncodeChar_cases (c : Char) :
    (String.utf8EncodeChar c = [UInt8.ofNat c.toNat] ∧ c.toNat < 128) ∨
      (c ≠ '\n' ∧ c ≠ '\r' ∧ ∀ b ∈ String.utf8EncodeChar c, 128 ≤ b.toNat) := by
  by_cases hascii : c.val.toNat ≤ 127
  · refine .inl ⟨?_, ?_⟩
    · unfold String.utf8EncodeChar
      exact if_pos hascii
    · show c.val.toNat < 128
      omega
  · refine .inr ⟨?_, ?_, ?_⟩
    · rintro rfl
      exact hascii (by decide)
    · rintro rfl
      exact hascii (by decide)
    · -- two, three or four bytes, each with its highest bit set
      unfold String.utf8EncodeChar
      simp only [if_neg hascii]
      split_ifs
      all_goals
        simp only [List.forall_mem_cons, List.not_mem_nil, false_imp_iff, implies_true, and_true,
          UInt8.toNat_ofNat']
        omega

/-- The only byte of an ASCII character is that of another one just if the characters are the
same. -/
theorem ofNat_toNat_eq_iff {c d : Char} (hc : c.toNat < 128) (hd : d.toNat < 128) :
    UInt8.ofNat c.toNat = UInt8.ofNat d.toNat ↔ c = d := by
  constructor
  · intro h
    have hnat := congrArg UInt8.toNat h
    rw [UInt8.toNat_ofNat', UInt8.toNat_ofNat'] at hnat
    exact Char.toNat_inj.mp (by omega)
  · rintro rfl
    rfl

/-- The first byte of a text is a line feed just if its first character is one. The bytes of any
other character do not contain that byte. -/
theorem head?_utf8Bytes_iff (text : List Char) :
    (utf8Bytes text).head? = some 10 ↔ text.head? = some '\n' := by
  cases text with
  | nil => simp [utf8Bytes]
  | cons c rest =>
    have hbytes : utf8Bytes (c :: rest) = String.utf8EncodeChar c ++ utf8Bytes rest := rfl
    rw [hbytes, List.head?_cons, Option.some.injEq]
    rcases utf8EncodeChar_cases c with ⟨henc, hascii⟩ | ⟨hfeed, -, hlarge⟩
    · rw [henc]
      show some (UInt8.ofNat c.toNat) = some (UInt8.ofNat '\n'.toNat) ↔ c = '\n'
      rw [Option.some.injEq, ofNat_toNat_eq_iff hascii (by decide)]
    · refine iff_of_false (fun hhead => ?_) hfeed
      have hne : String.utf8EncodeChar c ≠ [] := by
        intro hnil
        have hlength := String.length_utf8EncodeChar c
        have hpos := c.utf8Size_pos
        rw [hnil, List.length_nil] at hlength
        omega
      rw [List.head?_append_of_ne_nil _ hne] at hhead
      exact absurd (hlarge 10 (List.mem_of_mem_head? hhead)) (by decide)

/-- The bytes that end a line, behind a character: the character itself, or bytes of the rest.
Within a character of several bytes none of them ends a line. -/
theorem breaksAt_cons_iff {c : Char} {rest : List Char} {i : Nat} :
    BreaksAt (utf8Bytes (c :: rest)) i ↔ (i = 0 ∧ StartsLine ([] ++ [c]) rest) ∨
      ∃ j, i = c.utf8Size + j ∧ BreaksAt (utf8Bytes rest) j := by
  have hbytes : utf8Bytes (c :: rest) = String.utf8EncodeChar c ++ utf8Bytes rest := rfl
  have hlength := String.length_utf8EncodeChar c
  have hpos := c.utf8Size_pos
  rw [Position.startsLine_concat_iff, ne_eq, ← head?_utf8Bytes_iff, hbytes]
  rcases Nat.lt_or_ge i c.utf8Size with hi | hi
  · -- the byte is one of the character
    rw [or_iff_left (by rintro ⟨j, rfl, -⟩; omega)]
    rcases utf8EncodeChar_cases c with ⟨henc, hascii⟩ | ⟨hfeed, hreturn, hlarge⟩
    · rw [henc] at hlength ⊢
      obtain rfl : i = 0 := by
        simp only [List.length_singleton] at hlength
        omega
      rw [and_iff_right rfl]
      show (some (UInt8.ofNat c.toNat) = some (UInt8.ofNat '\n'.toNat) ∨
          some (UInt8.ofNat c.toNat) = some (UInt8.ofNat '\r'.toNat) ∧
            (utf8Bytes rest)[0]? ≠ some 10) ↔ _
      rw [Option.some.injEq, Option.some.injEq, ofNat_toNat_eq_iff hascii (by decide),
        ofNat_toNat_eq_iff hascii (by decide), List.head?_eq_getElem?]
    · refine iff_of_false (fun hbreaks => ?_) (fun hends => ?_)
      · have hmem : ∀ b, (String.utf8EncodeChar c ++ utf8Bytes rest)[i]? = some b →
            128 ≤ b.toNat := by
          intro b hb
          rw [List.getElem?_append_left (by omega)] at hb
          exact hlarge b (List.mem_of_getElem? hb)
        rcases hbreaks with hb | ⟨hb, -⟩
        · exact absurd (hmem 10 hb) (by decide)
        · exact absurd (hmem 13 hb) (by decide)
      · rcases hends.2 with h | ⟨h, -⟩
        · exact hfeed h
        · exact hreturn h
  · -- the byte is one of the rest
    obtain ⟨j, rfl⟩ := Nat.exists_eq_add_of_le hi
    have hshift : ∀ k, (String.utf8EncodeChar c ++ utf8Bytes rest)[c.utf8Size + k]? =
        (utf8Bytes rest)[k]? := by
      intro k
      rw [List.getElem?_append_right (by omega), hlength, Nat.add_sub_cancel_left]
    rw [or_iff_right (by omega)]
    unfold BreaksAt
    rw [Nat.add_assoc, hshift, hshift]
    constructor
    · intro hbreaks
      exact ⟨j, rfl, hbreaks⟩
    · rintro ⟨k, hk, hbreaks⟩
      obtain rfl : j = k := by omega
      exact hbreaks

/-- The offsets of the later starts are the places behind the bytes that end a line. The table is
made over characters. This says of it what a reader would see who goes over the bytes of the text.
-/
theorem mem_offsets_laterLineStarts_iff {offset : Nat} {text : List Char} {o : Nat} :
    o ∈ (laterLineStarts offset text).map (·.offset) ↔
      ∃ i, o = offset + i + 1 ∧ BreaksAt (utf8Bytes text) i := by
  -- a character that ends a line is one byte, and other characters have no such byte
  induction text generalizing offset with
  | nil => simp [laterLineStarts, utf8Bytes, BreaksAt]
  | cons c rest ih =>
    have hrest := @ih (offset + c.utf8Size)
    rw [List.mem_map] at hrest ⊢
    constructor
    · rintro ⟨s, hs, rfl⟩
      rcases mem_laterLineStarts_cons.mp hs with ⟨hstarts, rfl⟩ | hs
      · refine ⟨0, ?_, breaksAt_cons_iff.mpr (.inl ⟨rfl, hstarts⟩)⟩
        show offset + c.utf8Size = offset + 0 + 1
        rw [hstarts.utf8Size_eq_one]
      · obtain ⟨j, hj, hbreaks⟩ := hrest.mp ⟨s, hs, rfl⟩
        exact ⟨c.utf8Size + j, by omega, breaksAt_cons_iff.mpr (.inr ⟨j, rfl, hbreaks⟩)⟩
    · rintro ⟨i, rfl, hbreaks⟩
      rcases breaksAt_cons_iff.mp hbreaks with ⟨rfl, hstarts⟩ | ⟨j, rfl, hrestBreaks⟩
      · refine ⟨_, mem_laterLineStarts_cons.mpr (.inl ⟨hstarts, rfl⟩), ?_⟩
        show offset + c.utf8Size = offset + 0 + 1
        rw [hstarts.utf8Size_eq_one]
      · obtain ⟨s, hs, hoffset⟩ := hrest.mpr ⟨j, by omega, hrestBreaks⟩
        exact ⟨s, mem_laterLineStarts_cons.mpr (.inr hs), by omega⟩

/-- The offsets of the starts of lines are zero and the places behind the bytes that end a line. -/
theorem mem_offsets_lineStarts_iff (source : String) (o : Nat) :
    o ∈ (lineStarts source.toList).map (·.offset) ↔
      o = 0 ∨ ∃ i, o = i + 1 ∧ BreaksAt source.toUTF8.data.toList i := by
  have hbytes : source.toUTF8.data.toList = utf8Bytes source.toList := by
    show source.toByteArray.data.toList = _
    rw [← String.utf8Encode_toList, List.utf8Encode, List.data_toByteArray]
    rfl
  rw [lineStarts, List.map_cons, List.mem_cons, mem_offsets_laterLineStarts_iff, hbytes]
  simp only [Nat.zero_add]

/-! ### Both counts at a place -/

/-- The starts of lines up to a place, and what the text in front of it counts for. -/
structure LinesUpTo (front rest : List Char) (starts : List LineStart) : Prop where
  /-- All other starts are behind the place. -/
  lineStarts_eq : lineStarts (front ++ rest) = starts ++ laterLineStarts (byteSize front) rest
  /-- A line is counted for each of them, and one more inside of a line break. -/
  line_eq : (Position.declared front).line =
    starts.length + if InsideBreak front rest then 1 else 0
  /-- The last one has as many code points behind it as the column says, but for a place inside of a
  line break. -/
  last : ∃ before line, front = before ++ line ∧
    starts.getLast? = some ⟨byteSize before, line ++ rest⟩ ∧
    (¬ InsideBreak front rest → (Position.declared front).column = line.length)

/-- At the start of a text there is one start. -/
theorem linesUpTo_nil (rest : List Char) : LinesUpTo [] rest [⟨0, rest⟩] where
  lineStarts_eq := rfl
  line_eq := by
    rw [if_neg (Position.startsLine_nil rest).not_inside]
    rfl
  last := ⟨[], [], rfl, rfl, fun _ => rfl⟩

section Next

variable {front rest : List Char} {c : Char} {starts : List LineStart}

/-- A line that starts behind one more character is one start more. It was counted at the carriage
return, or is counted now. In both cases the counts agree behind the character, where the column is
zero. -/
theorem LinesUpTo.next_of_startsLine (h : LinesUpTo front (c :: rest) starts)
    (hstarts : StartsLine (front ++ [c]) rest) :
    LinesUpTo (front ++ [c]) rest (starts ++ [⟨byteSize (front ++ [c]), rest⟩]) where
  lineStarts_eq := by
    have hends := Position.startsLine_concat_iff.mp hstarts
    have htable := h.lineStarts_eq
    rw [laterLineStarts, if_pos hends] at htable
    rw [List.append_assoc, List.append_assoc, byteSize_append]
    exact htable
  line_eq := by
    have hline := h.line_eq
    rw [if_neg hstarts.not_inside, Position.declared_concat, List.length_append]
    -- the carriage return of a line feed was counted already
    by_cases hinside : InsideBreak front (c :: rest)
    · rw [if_pos hinside] at hline
      obtain ⟨hreturn, hfeed⟩ := hinside
      obtain rfl : c = '\n' := Option.some.inj hfeed
      rw [hreturn]
      exact hline
    · rw [if_neg hinside] at hline
      rw [Position.next_of_endsLine hstarts hinside]
      show (Position.declared front).line + 1 = starts.length + 1 + 0
      omega
  last := by
    refine ⟨front ++ [c], [], (List.append_nil _).symm, ?_, fun _ => hstarts.column_eq_zero⟩
    rw [List.getLast?_concat]
    rfl

/-- If no line starts behind one more character, the last one goes on. A line may be counted all the
same, at a carriage return in front of its line feed. -/
theorem LinesUpTo.next_of_not_startsLine (h : LinesUpTo front (c :: rest) starts)
    (hstarts : ¬ StartsLine (front ++ [c]) rest) : LinesUpTo (front ++ [c]) rest starts := by
  have hends := fun h => hstarts (Position.startsLine_concat_iff.mpr h)
  have hinside : ¬ InsideBreak front (c :: rest) := by
    rintro ⟨-, hfeed⟩
    exact hends (.inl (Option.some.inj hfeed))
  -- a character that ends a line is the carriage return of a line break that is not whole
  have hplain : ¬ InsideBreak (front ++ [c]) rest → Position.endsLine c = false := by
    intro hbreak
    rw [Bool.eq_false_iff]
    intro hc
    refine hstarts ⟨fun d hd => ?_, hbreak⟩
    obtain rfl : c = d := by simpa using hd
    exact hc
  refine ⟨?_, ?_, ?_⟩
  · have htable := h.lineStarts_eq
    rw [laterLineStarts, if_neg hends] at htable
    rw [List.append_assoc, byteSize_append]
    exact htable
  · have hline := h.line_eq
    rw [if_neg hinside] at hline
    rw [Position.declared_concat]
    by_cases hbreak : InsideBreak (front ++ [c]) rest
    · obtain rfl : c = '\r' := by simpa using hbreak.1
      rw [if_pos hbreak]
      show (Position.declared front).line + 1 = starts.length + 1
      rw [hline, Nat.add_zero]
    · rw [if_neg hbreak, Position.next_of_not_endsLine (hplain hbreak)]
      exact hline
  · obtain ⟨before, line, hfront, hlast, hcolumn⟩ := h.last
    refine ⟨before, line ++ [c], ?_, ?_, fun hbreak => ?_⟩
    · rw [hfront, List.append_assoc]
    · rw [hlast, List.append_assoc]
      rfl
    · rw [Position.declared_concat, Position.next_of_not_endsLine (hplain hbreak),
        List.length_append, ← hcolumn hinside]
      rfl

/-- One more character keeps both counts together. -/
theorem LinesUpTo.next (h : LinesUpTo front (c :: rest) starts) :
    ∃ starts', LinesUpTo (front ++ [c]) rest starts' := by
  by_cases hstarts : StartsLine (front ++ [c]) rest
  · exact ⟨_, h.next_of_startsLine hstarts⟩
  · exact ⟨_, h.next_of_not_startsLine hstarts⟩

end Next

/-- At every place of a text both counts go together. The induction is on the text in front of the
place, taken from its end, because that is how a position is counted on. -/
theorem exists_linesUpTo (front rest : List Char) : ∃ starts, LinesUpTo front rest starts := by
  induction front using List.reverseRecOn generalizing rest with
  | nil => exact ⟨_, linesUpTo_nil rest⟩
  | append_singleton front c ih =>
    obtain ⟨starts, h⟩ := ih (c :: rest)
    exact h.next

/-- A start of a line is the one that a place in a column belongs to. -/
inductive LineStart.OnLine (front rest : List Char) (column : Nat) (s : LineStart) : Prop
  /-- The line has started, as many code points in front of the place as the column says. -/
  | started (before line : List Char) (front_eq : front = before ++ line)
      (offset_eq : s.offset = byteSize before) (text_eq : s.text = line ++ rest)
      (column_eq : column = line.length)
  /-- The place is between a carriage return and its line feed, and the line starts behind both. -/
  | ahead (before after : List Char) (front_eq : front = before ++ ['\r'])
      (rest_eq : rest = '\n' :: after) (offset_eq : s.offset = byteSize front + 1)
      (text_eq : s.text = after)

/-- The entry with the number of the line that is counted at a place is the start of that line.
Between a carriage return and its line feed it is the line that starts behind both, since the
carriage return was counted. -/
theorem exists_onLine (front rest : List Char) : ∃ index s,
    (Position.declared front).line = index + 1 ∧ (lineStarts (front ++ rest))[index]? = some s ∧
      s.OnLine front rest (Position.declared front).column := by
  obtain ⟨starts, h⟩ := exists_linesUpTo front rest
  have hline := h.line_eq
  by_cases hinside : InsideBreak front rest
  · -- the carriage return has begun a line, whose entry is behind the line feed
    obtain ⟨hreturn, hfeed⟩ := hinside
    obtain ⟨before, hfront⟩ := List.getLast?_eq_some_iff.mp hreturn
    obtain ⟨after, hrest⟩ := List.head?_eq_some_iff.mp hfeed
    rw [if_pos ⟨hreturn, hfeed⟩] at hline
    refine ⟨starts.length, ⟨byteSize front + 1, after⟩, hline, ?_,
      .ahead before after hfront hrest rfl rfl⟩
    rw [h.lineStarts_eq, List.getElem?_append_right (Nat.le_refl _), Nat.sub_self, hrest]
    rfl
  · obtain ⟨before, line, hfront, hlast, hcolumn⟩ := h.last
    rw [if_neg hinside] at hline
    have hpos : 0 < starts.length := by
      rw [List.length_pos_iff]
      rintro rfl
      cases hlast
    refine ⟨starts.length - 1, ⟨byteSize before, line ++ rest⟩, by omega, ?_,
      .started before line hfront rfl rfl (hcolumn hinside)⟩
    rw [h.lineStarts_eq, List.getElem?_append_left (by omega), ← List.getLast?_eq_getElem?]
    exact hlast

/-- There are as many starts as lines are counted in the whole text. At the end nothing can be
inside of a line break, so there is no exception. -/
theorem length_lineStarts (text : List Char) :
    (lineStarts text).length = (Position.declared text).line := by
  obtain ⟨starts, h⟩ := exists_linesUpTo text []
  have htable := h.lineStarts_eq
  rw [List.append_nil, laterLineStarts, List.append_nil] at htable
  rw [htable, h.line_eq, if_neg (fun hinside => nomatch hinside.2), Nat.add_zero]

/-- The entry for the line that starts at a place is that place. A line that goes on from further in
front would give the place a column, and the column is zero there. -/
theorem Position.StartsLine.exists_entry {front rest : List Char} (h : StartsLine front rest) :
    ∃ index, (Position.declared front).line = index + 1 ∧
      (lineStarts (front ++ rest))[index]? = some ⟨byteSize front, rest⟩ := by
  obtain ⟨index, s, hline, hs, honline⟩ := exists_onLine front rest
  refine ⟨index, hline, ?_⟩
  rw [hs]
  rw [h.column_eq_zero] at honline
  cases honline with
  | started before line hfront hoffset htext hcolumn =>
    -- nothing stands between the start of the line and the place
    obtain rfl := List.length_eq_zero_iff.mp hcolumn.symm
    rw [List.append_nil] at hfront
    rw [hfront, ← hoffset]
    exact congrArg (fun t => some (LineStart.mk s.offset t)) htext
  | ahead before after hfront hrest hoffset htext =>
    -- the place would be inside of a line break
    refine absurd ⟨?_, ?_⟩ h.not_inside
    · rw [hfront, List.getLast?_concat]
    · rw [hrest, List.head?_cons]

/-- A cursor that reads the bytes in front of a place stands there. It reads whole characters until
it has at least so many bytes, and here they come out even. -/
theorem offset_advanceBytes {source : String} {front rest : List Char}
    (htext : source.toList = front ++ rest) :
    ((Cursor.ofString source).advanceBytes (byteSize front)).offset = byteSize front := by
  have hrest : (Cursor.ofString source).rest = front ++ rest := htext
  have htake : (Cursor.ofString source).rest.take front.length = front := by
    rw [hrest, List.take_left]
  have hlength : front.length ≤ (Cursor.ofString source).rest.length := by
    rw [hrest, List.length_append]
    exact Nat.le_add_right _ _
  have hmove := Cursor.advanceBytes_byteSize_take hlength
  rw [htake] at hmove
  rw [hmove, (Cursor.exact_skip _ (Cursor.exact_ofString source)).offset_eq,
    Cursor.reverse_before_skip, htake]
  rfl

/-! ### Indentation -/

/-- The indentation of a line that is in the table is measured where its text starts. Lines are
numbered from one and entries from zero. -/
theorem Extent.indentOf_new {source : String} {index : Nat} {s : LineStart}
    (h : (lineStarts source.toList)[index]? = some s) (tokens : Array Token)
    (spans : List BlockSpan) (skipTypes : List String) (tabWidth : Nat) :
    (new source tokens spans skipTypes tabWidth).indentOf (index + 1) =
      indentFrom (UInt32.ofNat (max tabWidth 1)) 0 s.text := by
  unfold indentOf
  rw [if_neg (Nat.succ_ne_zero index), Nat.add_sub_cancel]
  show (((lineStarts source.toList).toArray[index]?).map _).getD 0 = _
  rw [List.getElem?_toArray, h]
  rfl

/-- The table of lines and a cursor count alike. The starts of the lines are in order. They are the
places of the text at which a line starts, and the places behind the bytes that end one. A cursor
can be moved to every boundary of characters.

In a text of fewer than `2 ^ 32 - 1` characters, where no count stops, a cursor at the end has
counted as many lines as there are starts, and at every place, however the cursor got there, the
entry with the number of its line is the start of that line. So the lines that the tokens of the
text start and end on are all in the table, and their indentation is measured where they start. -/
theorem lineStarts_agree (source : String) :
    ((lineStarts source.toList).map (·.offset)).Pairwise (· < ·) ∧
    (∀ s, s ∈ lineStarts source.toList ↔ ∃ front, source.toList = front ++ s.text ∧
      s.offset = byteSize front ∧ StartsLine front s.text) ∧
    (∀ offset, offset ∈ (lineStarts source.toList).map (·.offset) ↔
      offset = 0 ∨ ∃ i, offset = i + 1 ∧ BreaksAt source.toUTF8.data.toList i) ∧
    (∀ offset, Cursor.Boundary source.toList offset →
      (Cursor.Session.after source [.advanceBytes offset]).cursor.offset = offset) ∧
    (source.length < 2 ^ 32 - 1 →
      (lineStarts source.toList).length < 2 ^ 32 ∧
      (∀ moves, (Cursor.Session.after source moves).cursor.atEnd = true →
        (lineStarts source.toList).length =
          (Cursor.Session.after source moves).cursor.position.line) ∧
      (∀ moves, ∃ index s, (Cursor.Session.after source moves).cursor.position.line = index + 1 ∧
        (lineStarts source.toList)[index]? = some s ∧
        s.OnLine (Cursor.Session.after source moves).cursor.before.reverse
          (Cursor.Session.after source moves).cursor.rest
          (Cursor.Session.after source moves).cursor.position.column) ∧
      ∀ lexer : Lexer, ∀ token ∈ lexer.tokenize source,
        ∀ place ∈ [token.range.start, token.range.stop], ∃ index s, place.line = index + 1 ∧
          (lineStarts source.toList)[index]? = some s ∧
          ∀ tokens spans skipTypes tabWidth,
            (Extent.new source tokens spans skipTypes tabWidth).indentOf place.line =
              indentFrom (UInt32.ofNat (max tabWidth 1)) 0 s.text) := by
  have hsession := Cursor.Session.exact_after source
  refine ⟨pairwise_offsets_lineStarts _, fun _ => mem_lineStarts_iff,
    mem_offsets_lineStarts_iff source, ?_, fun hshort => ⟨?_, ?_, ?_, ?_⟩⟩
  · rintro offset ⟨front, rest, htext, rfl⟩
    exact offset_advanceBytes htext
  · have hline := Position.line_declared_le source.toList
    rw [String.length_toList] at hline
    rw [length_lineStarts]
    omega
  · intro moves hend
    have htext := (hsession moves).text_eq
    rw [Cursor.text, List.isEmpty_iff.mp hend, List.append_nil] at htext
    rw [length_lineStarts, (hsession moves).position_eq_declared hshort, htext]
  · intro moves
    rw [(hsession moves).position_eq_declared hshort, ← (hsession moves).text_eq]
    exact exists_onLine _ _
  · intro lexer token htoken place hplace
    obtain ⟨i, hi⟩ := List.mem_iff_getElem?.mp htoken
    obtain ⟨front, rest, htext, hrange⟩ := Lexer.spells_of_getElem? hi
    -- a token starts behind what is in front of it and ends behind its own text
    have hsplit : ∃ front rest, source.toList = front ++ rest ∧ place = Position.after front := by
      rw [hrange] at hplace
      rcases List.mem_cons.mp hplace with rfl | hplace
      · exact ⟨front, token.value.toList ++ rest, by rw [htext, List.append_assoc], rfl⟩
      · exact ⟨front ++ token.value.toList, rest, htext, List.mem_singleton.mp hplace⟩
    obtain ⟨front, rest, htext, rfl⟩ := hsplit
    obtain ⟨index, s, hline, hs, -⟩ := exists_onLine front rest
    rw [← htext] at hs
    rw [Position.after_eq_declared_of_append htext hshort]
    refine ⟨index, s, hline, hs, fun tokens spans skipTypes tabWidth => ?_⟩
    rw [hline, Extent.indentOf_new hs]

/-- A line break that is cut in two by a token, and a letter on the line behind it. -/
theorem lineStarts_agree_split_break :
    "\r\n b".length < 2 ^ 32 - 1 ∧
    (lineStarts "\r\n b".toList).length =
      (Cursor.Session.after "\r\n b" [.advanceBytes 4]).cursor.position.line ∧
    (Cursor.Session.after "\r\n b" [.advanceBytes 1]).cursor.offset = 1 ∧
    (lineStarts "\r\n b".toList).length < 2 ^ 32 ∧
    ∃ index s, 2 = index + 1 ∧ (lineStarts "\r\n b".toList)[index]? = some s ∧
      ∀ tokens spans skipTypes tabWidth,
        (Extent.new "\r\n b" tokens spans skipTypes tabWidth).indentOf 2 =
          indentFrom (UInt32.ofNat (max tabWidth 1)) 0 s.text := by
  have hshort : "\r\n b".length < 2 ^ 32 - 1 := by decide
  obtain ⟨-, -, -, hboundary, hlines⟩ := lineStarts_agree "\r\n b"
  obtain ⟨hlength, hend, -, htokens⟩ := hlines hshort
  refine ⟨hshort, hend _ (by decide), hboundary 1 ⟨['\r'], ['\n', ' ', 'b'], rfl, rfl⟩,
    hlength, ?_⟩
  exact htokens .characterLexer ⟨"error", "b", .error, ⟨⟨2, 1, 3⟩, ⟨2, 2, 4⟩⟩⟩ (by decide +kernel)
    ⟨2, 1, 3⟩ List.mem_cons_self

end Polyglot
