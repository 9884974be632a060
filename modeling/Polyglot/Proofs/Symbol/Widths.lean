import Mathlib
import Polyglot.Proofs.Symbol.Lines

/-!
# `Polyglot.Proofs.Symbol.Widths`: when an indentation fits into a word

The width of the blanks in front of a line is counted in a word of 32 bits: a space adds one to it,
and a tab adds one and rounds up to a multiple of the tab width. `exactIndent` is the same width as
a natural number: a space adds one, and a tab goes on to the next tab stop (`isLeast_tabStop`). A
tab width may be any word, so two tabs can already be more than a word holds.

`indentOf_exact_iff`: the indentation of a line is the exact width just if the exact width fits into
a word, and then no sum on the way is too large. Each tab counts for at least a whole tab width, and
for no more than that beyond the spaces, so the number of tabs all but says whether it fits. A bound
on the bytes of the text guarantees it for the tab widths 0 and 1 alone, since for any other one
`2 ^ 31` tabs are enough (`MeasuresExactly`). `indentOf_wraps` is the smallest case: for the
greatest tab width the indentation behind two tabs is zero.

`checkedIndent` counts in words too, and stops at a sum that is too large. That it comes to a word
exactly when the word is the exact width (`checkedIndent_eq_some_iff`) is what carries the proof:
the count that does not look at the sums agrees with it as long as it does not stop.
-/

set_option autoImplicit false

namespace Polyglot

open Position (StartsLine)

/-! ### Exact widths -/

/-- The first multiple of a tab width behind a column. -/
def tabStop (tab width : Nat) : Nat := (width / tab + 1) * tab

/-- The width of the blanks at the start of a text, after a width that was there before. -/
def exactIndent (tab width : Nat) : List Char → Nat
  | ' ' :: rest => exactIndent tab (width + 1) rest
  | '\t' :: rest => exactIndent tab (tabStop tab width) rest
  | _ => width

/-- The spaces and tabs at the start of a text. -/
def leadingBlanks (text : List Char) : List Char := text.takeWhile fun c => c == ' ' || c == '\t'

/-- A tab stop is the least multiple of the tab width that is greater than the width. A tab thus
always adds something, also behind a width that is a multiple itself. -/
theorem isLeast_tabStop {tab : Nat} (htab : 0 < tab) (width : Nat) :
    IsLeast {n | tab ∣ n ∧ width < n} (tabStop tab width) := by
  refine ⟨⟨Nat.dvd_mul_left _ _, ?_⟩, ?_⟩
  · exact Nat.lt_mul_of_div_lt (Nat.lt_succ_self _) htab
  · rintro n ⟨⟨k, rfl⟩, hlt⟩
    rw [tabStop, Nat.mul_comm tab k]
    exact Nat.mul_le_mul_right tab (Nat.div_lt_of_lt_mul hlt)

/-- A tab stop lies behind the width. -/
theorem lt_tabStop {tab : Nat} (htab : 0 < tab) (width : Nat) : width < tabStop tab width :=
  (isLeast_tabStop htab width).1.2

/-- A tab stop is at most a tab width away. It is exactly that far when the width is a multiple of
the tab width. -/
theorem tabStop_le (tab width : Nat) : tabStop tab width ≤ width + tab := by
  have hdiv := Nat.div_mul_le_self width tab
  rw [tabStop, Nat.add_mul, Nat.one_mul]
  omega

/-- Adding one and rounding up gives the tab stop. This is how the program goes to it, in two steps
on words. On numbers both descriptions are the same, for any tab width but zero. -/
theorem roundUp_succ {tab : Nat} (htab : 0 < tab) (width : Nat) :
    (if (width + 1) % tab = 0 then width + 1 else width + 1 + (tab - (width + 1) % tab)) =
      tabStop tab width := by
  have hdivision := Nat.div_add_mod width tab
  have hlt := Nat.mod_lt width htab
  have hstop : tabStop tab width = tab * (width / tab) + tab := by
    rw [tabStop, Nat.mul_comm, Nat.mul_add, Nat.mul_one]
  generalize width / tab = quotient at hdivision hstop
  generalize width % tab = remainder at hdivision hlt
  have hsucc : width + 1 = tab * quotient + (remainder + 1) := by omega
  by_cases hlast : remainder + 1 = tab
  · -- the next column is the tab stop
    have hmod : (width + 1) % tab = 0 := by
      rw [hsucc, hlast, Nat.mul_add_mod, Nat.mod_self]
    rw [if_pos hmod]
    omega
  · have hmod : (width + 1) % tab = remainder + 1 := by
      rw [hsucc, Nat.mul_add_mod, Nat.mod_eq_of_lt (by omega)]
    rw [hmod, if_neg (Nat.succ_ne_zero remainder)]
    omega

/-- Blanks only add to a width. So if the final width fits into a word, all widths on the way to it
did. -/
theorem le_exactIndent {tab : Nat} (htab : 0 < tab) (width : Nat) (text : List Char) :
    width ≤ exactIndent tab width text := by
  fun_induction exactIndent tab width text with
  | case1 width rest ih => omega
  | case2 width rest ih =>
    have := lt_tabStop htab width
    omega
  | case3 => exact Nat.le_refl _

/-- A tab adds at least what is left to its tab stop and at most a tab width, and a space adds one.
The lower bound counts whole tab widths. That is why it has the quotient of the width at the start
in it. -/
theorem exactIndent_bounds {tab : Nat} (htab : 0 < tab) (width : Nat) (text : List Char) :
    (width / tab + (leadingBlanks text).count '\t') * tab ≤ exactIndent tab width text ∧
      exactIndent tab width text ≤ width + (leadingBlanks text).count ' ' +
        (leadingBlanks text).count '\t' * tab := by
  fun_induction exactIndent tab width text with
  | case1 width rest ih =>
    -- a space
    have hblanks : leadingBlanks (' ' :: rest) = ' ' :: leadingBlanks rest := rfl
    have hdiv : width / tab ≤ (width + 1) / tab := Nat.div_le_div_right (Nat.le_succ width)
    have hmul := Nat.mul_le_mul_right tab
      (Nat.add_le_add_right hdiv ((leadingBlanks rest).count '\t'))
    have htabs : (leadingBlanks (' ' :: rest)).count '\t' = (leadingBlanks rest).count '\t' := by
      rw [hblanks, List.count_cons_of_ne (by decide)]
    rw [htabs, hblanks, List.count_cons_self]
    omega
  | case2 width rest ih =>
    -- a tab
    have hblanks : leadingBlanks ('\t' :: rest) = '\t' :: leadingBlanks rest := rfl
    have hspaces : (leadingBlanks ('\t' :: rest)).count ' ' = (leadingBlanks rest).count ' ' := by
      rw [hblanks, List.count_cons_of_ne (by decide)]
    have hstop : tabStop tab width / tab = width / tab + 1 := Nat.mul_div_cancel _ htab
    have hle := tabStop_le tab width
    rw [hspaces, hblanks, List.count_cons_self]
    rw [hstop, Nat.add_right_comm] at ih
    rw [← Nat.add_assoc, Nat.add_mul ((leadingBlanks rest).count '\t') 1 tab, Nat.one_mul]
    omega
  | case3 text width hspace htabs =>
    -- the end of the indentation
    have hblanks : leadingBlanks text = [] := by
      cases text with
      | nil => rfl
      | cons c rest =>
        have hc : (c == ' ' || c == '\t') = false := by
          rw [Bool.or_eq_false_iff, beq_eq_false_iff_ne, beq_eq_false_iff_ne]
          exact ⟨fun h => hspace rest (h ▸ rfl), fun h => htabs rest (h ▸ rfl)⟩
        exact List.takeWhile_cons_of_neg (by simp [hc])
    rw [hblanks]
    exact ⟨Nat.div_mul_le_self width tab, by simp⟩

/-! ### Checked sums -/

/-- The sum of two words, unless it is too large for one. -/
def checkedAdd (a b : UInt32) : Option UInt32 :=
  if a.toNat + b.toNat < 2 ^ 32 then some (a + b) else none

/-- The least multiple of `n` that is not below `w`, unless it is too large for a word. -/
def checkedNextMultiple (w n : UInt32) : Option UInt32 :=
  if w % n = 0 then some w else checkedAdd w (n - w % n)

/-- The width of the blanks at the start of a text, unless a sum on the way is too large. -/
def checkedIndent (tab w : UInt32) : List Char → Option UInt32
  | ' ' :: rest => (checkedAdd w 1).bind fun w => checkedIndent tab w rest
  | '\t' :: rest =>
    ((checkedAdd w 1).bind (checkedNextMultiple · tab)).bind fun w => checkedIndent tab w rest
  | _ => some w

variable {a b c n tab v w : UInt32}

/-- A number that fits into a word is a word. -/
theorem exists_toNat_eq {n : Nat} (h : n < 2 ^ 32) : ∃ a : UInt32, a.toNat = n :=
  ⟨UInt32.ofNat n, UInt32.toNat_ofNat_of_lt' h⟩

/-- A checked sum is the word that the exact sum is. There is at most one such word, and there is
none if the sum is too large. -/
theorem checkedAdd_eq_some_iff : checkedAdd a b = some c ↔ c.toNat = a.toNat + b.toNat := by
  unfold checkedAdd
  constructor
  · intro h
    split at h
    · rename_i hfits
      obtain rfl := Option.some.inj h
      rw [UInt32.toNat_add, Nat.mod_eq_of_lt hfits]
    · cases h
  · intro h
    have hfits : a.toNat + b.toNat < 2 ^ 32 := h ▸ c.toNat_lt
    rw [if_pos hfits, Option.some.injEq, ← UInt32.toNat_inj, UInt32.toNat_add,
      Nat.mod_eq_of_lt hfits, h]

/-- A checked sum is the sum. -/
theorem add_of_checkedAdd (h : checkedAdd a b = some c) : a + b = c := by
  unfold checkedAdd at h
  split at h
  · exact Option.some.inj h
  · cases h

/-- A checked multiple is the multiple. -/
theorem nextMultiple_of_checked (h : checkedNextMultiple w n = some c) : nextMultiple w n = c := by
  unfold checkedNextMultiple at h
  unfold nextMultiple
  split at h
  · rename_i hmod
    rw [if_pos hmod]
    exact Option.some.inj h
  · rename_i hmod
    rw [if_neg hmod]
    exact add_of_checkedAdd h

/-- A checked multiple is the word that the exact one is. The difference up to the multiple cannot
wrap, because a remainder is less than what it is divided by. -/
theorem checkedNextMultiple_eq_some_iff (hn : 0 < n.toNat) :
    checkedNextMultiple w n = some c ↔ c.toNat =
      if w.toNat % n.toNat = 0 then w.toNat else w.toNat + (n.toNat - w.toNat % n.toNat) := by
  have hzero : w % n = 0 ↔ w.toNat % n.toNat = 0 := by
    rw [← UInt32.toNat_inj, UInt32.toNat_mod]
    rfl
  have hle : w % n ≤ n := by
    rw [UInt32.le_iff_toNat_le, UInt32.toNat_mod]
    exact Nat.le_of_lt (Nat.mod_lt _ hn)
  unfold checkedNextMultiple
  by_cases hmod : w.toNat % n.toNat = 0
  · rw [if_pos (hzero.mpr hmod), if_pos hmod, Option.some.injEq, ← UInt32.toNat_inj, eq_comm]
  · rw [if_neg (fun h => hmod (hzero.mp h)), if_neg hmod, checkedAdd_eq_some_iff,
      UInt32.toNat_sub_of_le _ _ hle, UInt32.toNat_mod]

/-- Two checked steps come to a word just if the exact ones do: the number between them is no
greater than the last one, so it is a word too. Without that bound, the exact steps could come back
to a word through a number that is none. -/
theorem bind_eq_some_iff_toNat {step : Option UInt32} {next : UInt32 → Option UInt32} {n : Nat}
    (goesTo : Nat → Nat) (hstep : ∀ c, step = some c ↔ c.toNat = n)
    (hnext : ∀ c, next c = some v ↔ v.toNat = goesTo c.toNat) (hle : n ≤ goesTo n) :
    step.bind next = some v ↔ v.toNat = goesTo n := by
  rw [Option.bind_eq_some_iff]
  simp only [hstep, hnext]
  constructor
  · rintro ⟨c, hc, hv⟩
    rw [hv, hc]
  · intro hv
    obtain ⟨c, hc⟩ := exists_toNat_eq (Nat.lt_of_le_of_lt hle (hv ▸ v.toNat_lt))
    exact ⟨c, hc, by rw [hv, hc]⟩

/-- A checked step over a tab comes to the word that the tab stop is. Its two halves, adding one and
rounding up, are put together by `bind_eq_some_iff_toNat`. -/
theorem checkedTab_eq_some_iff (htab : 0 < tab.toNat) :
    (checkedAdd w 1).bind (checkedNextMultiple · tab) = some c ↔
      c.toNat = tabStop tab.toNat w.toNat := by
  have hround := roundUp_succ htab w.toNat
  have hlt := lt_tabStop htab w.toNat
  rw [← hround] at hlt ⊢
  exact bind_eq_some_iff_toNat
    (fun n => if n % tab.toNat = 0 then n else n + (tab.toNat - n % tab.toNat))
    (fun _ => checkedAdd_eq_some_iff) (fun _ => checkedNextMultiple_eq_some_iff htab) hlt

/-- Checked measuring comes to a word just if the word is the exact width. The induction follows the
recursion of the checked width, which is the one of the exact width. -/
theorem checkedIndent_eq_some_iff (htab : 0 < tab.toNat) {text : List Char} :
    checkedIndent tab w text = some v ↔ v.toNat = exactIndent tab.toNat w.toNat text := by
  fun_induction checkedIndent tab w text with
  | case1 w rest ih =>
    exact bind_eq_some_iff_toNat (exactIndent tab.toNat · rest) (fun _ => checkedAdd_eq_some_iff) ih
      (le_exactIndent htab _ rest)
  | case2 w rest ih =>
    exact bind_eq_some_iff_toNat (exactIndent tab.toNat · rest)
      (fun _ => checkedTab_eq_some_iff htab) ih (le_exactIndent htab _ rest)
  | case3 w text hspace htabs =>
    rw [Option.some.injEq, ← UInt32.toNat_inj, eq_comm, exactIndent]
    · exact hspace
    · exact htabs

/-- Measuring comes to what checked measuring comes to. It makes the same sums, and does not look
whether they fit. -/
theorem indentFrom_of_checked {text : List Char} (h : checkedIndent tab w text = some v) :
    indentFrom tab w text = v := by
  fun_induction checkedIndent tab w text with
  | case1 w rest ih =>
    obtain ⟨next, hnext, hrest⟩ := Option.bind_eq_some_iff.mp h
    rw [indentFrom, add_of_checkedAdd hnext]
    exact ih next hrest
  | case2 w rest ih =>
    obtain ⟨stop, hstop, hrest⟩ := Option.bind_eq_some_iff.mp h
    obtain ⟨next, hnext, hround⟩ := Option.bind_eq_some_iff.mp hstop
    rw [indentFrom, add_of_checkedAdd hnext, nextMultiple_of_checked hround]
    exact ih stop hrest
  | case3 w text hspace htabs =>
    rw [indentFrom]
    · exact Option.some.inj h
    · exact hspace
    · exact htabs

/-- Measuring is exact just if the exact width fits into a word, which is just if no sum on the way
is too large. One direction is clear, since what is measured is a word. For the other one, the exact
width is a word that checked measuring comes to, so no sum wraps. -/
theorem toNat_indentFrom_eq_iff (htab : 0 < tab.toNat) (text : List Char) :
    ((indentFrom tab w text).toNat = exactIndent tab.toNat w.toNat text ↔
      exactIndent tab.toNat w.toNat text < 2 ^ 32) ∧
    ((checkedIndent tab w text).isSome = true ↔ exactIndent tab.toNat w.toNat text < 2 ^ 32) := by
  have hchecked : exactIndent tab.toNat w.toNat text < 2 ^ 32 →
      ∃ v, v.toNat = exactIndent tab.toNat w.toNat text ∧ checkedIndent tab w text = some v := by
    intro hfits
    obtain ⟨v, hv⟩ := exists_toNat_eq hfits
    exact ⟨v, hv, (checkedIndent_eq_some_iff htab).mpr hv⟩
  refine ⟨⟨fun h => ?_, fun hfits => ?_⟩, ⟨fun h => ?_, fun hfits => ?_⟩⟩
  · rw [← h]
    exact UInt32.toNat_lt _
  · obtain ⟨v, hv, hsome⟩ := hchecked hfits
    rw [indentFrom_of_checked hsome, hv]
  · obtain ⟨v, hsome⟩ := Option.isSome_iff_exists.mp h
    rw [← (checkedIndent_eq_some_iff htab).mp hsome]
    exact v.toNat_lt
  · obtain ⟨v, -, hsome⟩ := hchecked hfits
    rw [hsome]
    rfl

/-! ### Lines -/

/-- A text has no more spaces and tabs in front than bytes. This bounds the width by the size of a
source, when the tab width is one. -/
theorem leadingBlanks_count_le (text : List Char) :
    (leadingBlanks text).count ' ' + (leadingBlanks text).count '\t' ≤ byteSize text := by
  induction text with
  | nil => exact Nat.le_refl _
  | cons c rest ih =>
    have hpos := c.utf8Size_pos
    rw [leadingBlanks, List.takeWhile_cons, byteSize]
    split
    · show (c :: leadingBlanks rest).count ' ' + (c :: leadingBlanks rest).count '\t' ≤ _
      rw [List.count_cons, List.count_cons]
      by_cases hspace : c = ' '
      · subst hspace
        simp only [BEq.rfl, if_true, show ((' ' == '\t') = true) = False by decide, if_false]
        omega
      · rw [if_neg (by simpa using hspace)]
        split
        · omega
        · omega
    · exact Nat.zero_le _

namespace Extent

/-- The indentation of the line that starts at a place. It is found under the number of the line
that is counted there, and is measured over the text behind the place. -/
theorem indentOf_after {source : String} {front text : List Char}
    (htext : source.toList = front ++ text) (hstarts : StartsLine front text)
    (tokens : Array Token) (spans : List BlockSpan) (skipTypes : List String) (tabWidth : Nat) :
    (new source tokens spans skipTypes tabWidth).indentOf (Position.declared front).line =
      indentFrom (UInt32.ofNat (max tabWidth 1)) 0 text := by
  obtain ⟨index, hline, hs⟩ := hstarts.exists_entry
  rw [← htext] at hs
  rw [hline, indentOf_new hs]

/-- The indentation of every line of a source is its exact width. -/
def MeasuresExactly (source : String) (tabWidth : Nat) : Prop :=
  ∀ front text tokens spans skipTypes, source.toList = front ++ text → StartsLine front text →
    ((new source tokens spans skipTypes tabWidth).indentOf (Position.declared front).line).toNat =
      exactIndent (max tabWidth 1) 0 text

/-- Tabs have one byte each. -/
theorem byteSize_tabs (n : Nat) : byteSize (List.replicate n '\t') = n := by
  induction n with
  | zero => rfl
  | succ n ih =>
    rw [List.replicate_succ, byteSize, ih, Nat.add_comm]
    rfl

/-- Tabs that are together wider than a word are not measured exactly. The text has a byte for each
tab only, so for any tab width above one there is such a text of fewer than `2 ^ 32` bytes. -/
theorem not_measuresExactly_tabs {n tabWidth : Nat} (h : 2 ^ 32 ≤ n * max tabWidth 1) :
    ¬ MeasuresExactly (String.ofList (List.replicate n '\t')) tabWidth := by
  intro hexact
  have hline := hexact [] (List.replicate n '\t') #[] [] [] String.toList_ofList
    (Position.startsLine_nil _)
  have hblanks : leadingBlanks (List.replicate n '\t') = List.replicate n '\t' :=
    List.takeWhile_eq_self_iff.mpr fun c hc => by rw [List.eq_of_mem_replicate hc]; rfl
  have hwidth := (exactIndent_bounds (show 0 < max tabWidth 1 by omega) 0
    (List.replicate n '\t')).1
  rw [hblanks, List.count_replicate_self, Nat.zero_div, Nat.zero_add, ← hline] at hwidth
  exact absurd (UInt32.toNat_lt _) (Nat.not_lt.mpr (Nat.le_trans h hwidth))

/-- How the indentation of a line with a text compares with its exact width. -/
structure Measured (indent : UInt32) (tab : Nat) (text : List Char) : Prop where
  /-- The indentation is the exact width just if that fits into a word. -/
  toNat_eq_iff : indent.toNat = exactIndent tab 0 text ↔ exactIndent tab 0 text < 2 ^ 32
  /-- No sum on the way is too large just if the exact width fits into a word. -/
  checked_iff : (checkedIndent (UInt32.ofNat tab) 0 text).isSome = true ↔
    exactIndent tab 0 text < 2 ^ 32
  /-- The exact width has at least a tab width for each tab. -/
  tabs_le : (leadingBlanks text).count '\t' * tab ≤ exactIndent tab 0 text
  /-- The exact width has at most a tab width for each tab and one for each space. -/
  le_blanks : exactIndent tab 0 text ≤
    (leadingBlanks text).count ' ' + (leadingBlanks text).count '\t' * tab

/-- The indentation of the line that starts at a place is measured like this. The tab width that is
used is at least one, and it is a word, so passing it on as a word does not change it. -/
theorem measured_new {source : String} {front text : List Char} {tabWidth : Nat}
    (hword : tabWidth < 2 ^ 32) (htext : source.toList = front ++ text)
    (hstarts : StartsLine front text) (tokens : Array Token) (spans : List BlockSpan)
    (skipTypes : List String) :
    Measured ((new source tokens spans skipTypes tabWidth).indentOf (Position.declared front).line)
      (max tabWidth 1) text := by
  have hpos : 0 < max tabWidth 1 := Nat.lt_of_lt_of_le Nat.one_pos (Nat.le_max_right _ _)
  have htab : (UInt32.ofNat (max tabWidth 1)).toNat = max tabWidth 1 :=
    UInt32.toNat_ofNat_of_lt' (Nat.max_lt.mpr ⟨hword, by decide⟩)
  have hbounds := exactIndent_bounds hpos 0 text
  rw [Nat.zero_div, Nat.zero_add, Nat.zero_add] at hbounds
  have hmeasured := toNat_indentFrom_eq_iff (w := 0) (htab.symm ▸ hpos) text
  rw [htab] at hmeasured
  rw [indentOf_after htext hstarts]
  exact ⟨hmeasured.1, hmeasured.2, hbounds.1, hbounds.2⟩

/-- The indentation of a line is its exact width just if that fits into a word, and just then no sum
is too large while it is measured. The exact width is at least as many tab widths as there are tabs
in front of the line, and at most that and the number of spaces. So all lines of all sources that
have fewer than `2 ^ 32` bytes are measured exactly for the tab widths 0 and 1, and for no other
ones. -/
theorem indentOf_exact_iff {tabWidth : Nat} (hword : tabWidth < 2 ^ 32) :
    (∀ (source : String) front text tokens spans skipTypes, source.toList = front ++ text →
      StartsLine front text →
      Measured ((new source tokens spans skipTypes tabWidth).indentOf (Position.declared front).line)
        (max tabWidth 1) text) ∧
    ((∀ source : String, source.utf8ByteSize < 2 ^ 32 → MeasuresExactly source tabWidth) ↔
      tabWidth ≤ 1) := by
  refine ⟨fun source front text tokens spans skipTypes htext hstarts =>
    measured_new hword htext hstarts tokens spans skipTypes, ?_, ?_⟩
  · intro hexact
    by_contra hwide
    -- half as many tabs as words hold are twice as many columns, and more
    obtain ⟨n, hn, htabs⟩ : ∃ n, n < 2 ^ 32 ∧ 2 ^ 32 ≤ n * max tabWidth 1 :=
      ⟨2 ^ 31, by decide, by omega⟩
    refine not_measuresExactly_tabs htabs (hexact _ ?_)
    rwa [utf8ByteSize_ofList, byteSize_tabs]
  · intro hnarrow source hsize front text tokens spans skipTypes htext hstarts
    have hmeasured := measured_new hword htext hstarts tokens spans skipTypes
    have htab : max tabWidth 1 = 1 := Nat.max_eq_right hnarrow
    have hblanks := leadingBlanks_count_le text
    have hbytes : source.utf8ByteSize = byteSize front + byteSize text := by
      rw [utf8ByteSize_eq_byteSize, htext, byteSize_append]
    refine hmeasured.toNat_eq_iff.mpr ?_
    have hle := hmeasured.le_blanks
    rw [htab] at hle ⊢
    omega

/-- A space and a tab in front of the second line come to the first tab stop. -/
theorem indentOf_exact_iff_tab :
    (4 : Nat) < 2 ^ 32 ∧ StartsLine ['a', '\n'] [' ', '\t', 'b'] ∧
      exactIndent 4 0 [' ', '\t', 'b'] = 4 ∧
      ((new "a\n \tb" #[] [] [] 4).indentOf 2).toNat = 4 ∧
      ¬ ∀ source : String, source.utf8ByteSize < 2 ^ 32 → MeasuresExactly source 4 := by
  have hstarts : StartsLine (['a'] ++ ['\n']) [' ', '\t', 'b'] :=
    Position.startsLine_concat_iff.mpr (.inl rfl)
  have hwidth : exactIndent 4 0 [' ', '\t', 'b'] = 4 := by decide
  obtain ⟨hlines, hsources⟩ := indentOf_exact_iff (show 4 < 2 ^ 32 by decide)
  refine ⟨by decide, hstarts, hwidth, ?_, fun hexact => absurd (hsources.mp hexact) (by decide)⟩
  exact (hlines "a\n \tb" _ _ #[] [] [] rfl hstarts).toNat_eq_iff.mpr (by decide)

/-- For the greatest tab width, the indentation behind two tabs is zero. -/
theorem indentOf_wraps :
    "a\n\t\tb".utf8ByteSize < 2 ^ 32 ∧
      (new "a\n\t\tb" #[] [] [] (2 ^ 32 - 1)).indentOf 2 = 0 ∧
      exactIndent (2 ^ 32 - 1) 0 ['\t', '\t', 'b'] = 2 * (2 ^ 32 - 1) ∧
      ¬ MeasuresExactly "a\n\t\tb" (2 ^ 32 - 1) := by
  have hindent : (new "a\n\t\tb" #[] [] [] (2 ^ 32 - 1)).indentOf 2 = 0 := by decide +kernel
  have hwidth : exactIndent (2 ^ 32 - 1) 0 ['\t', '\t', 'b'] = 2 * (2 ^ 32 - 1) := by
    decide +kernel
  refine ⟨by decide, hindent, hwidth, fun hexact => ?_⟩
  have hstarts : StartsLine (['a'] ++ ['\n']) ['\t', '\t', 'b'] :=
    Position.startsLine_concat_iff.mpr (.inl rfl)
  have hline : ((new "a\n\t\tb" #[] [] [] (2 ^ 32 - 1)).indentOf 2).toNat =
      exactIndent (2 ^ 32 - 1) 0 ['\t', '\t', 'b'] :=
    hexact _ _ #[] [] [] rfl hstarts
  rw [hindent, hwidth] at hline
  exact absurd hline (by decide)

end Extent

end Polyglot
