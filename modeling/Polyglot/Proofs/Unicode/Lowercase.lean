import Polyglot.Unicode.Blank
import Polyglot.Unicode.Case

/-!
# `Polyglot.Proofs.Unicode.Lowercase`: lower case is final

Lower-casing a text a second time changes nothing (`lowercase_lowercase`), and it makes neither
white space at the ends of a text nor dots (`exists_head_of_lowercase`,
`exists_getLast_of_lowercaseAfter`).

The mapping of single characters is a table of shifts. What has to be known about the table is
said by `Shift.settles`: where a shift leads, no shift starts, and what is there is neither
white space nor one of the characters with a rule of their own. A shift moves a whole stretch
of code points, so the check compares the ends of stretches. Checking every code point against
every shift would be about a hundred times as long.

From the table comes `exists_lowercaseAfter_cons`, which says all that is needed of one
character in its context; the statements about texts follow from it by induction.
-/

set_option autoImplicit false

namespace Polyglot.Unicode

/-! ### The table -/

/-- Where a shift takes a code point. -/
def Shift.image (s : Shift) (n : Nat) : Nat := ((n : Int) + s.distance).toNat

/-- Whether the images of one shift are no code points of another: they lie beside them, or
between them if the other one moves every second code point. -/
def Shift.misses (s t : Shift) : Bool :=
  (s.image s.last).blt t.first || t.last.blt (s.image s.first) ||
    ((s.step.beq 2 || s.first.beq s.last) && t.step.beq 2 &&
      ((s.image s.first + t.first) % 2).beq 1)

/-- Whether a shift of the lower-case mapping leads to lower-case characters: no shift moves its
images, they are characters from U+0080 on (but for the image `k` of the Kelvin sign), and
neither white space nor the capital I with a dot is among them. -/
def Shift.settles (s : Shift) : Bool :=
  0 ≤ (s.first : Int) + s.distance &&
  (s.image s.last < 0xd800 || 0xdfff < s.image s.first && s.image s.last < 0x110000) &&
  (0x80 ≤ s.image s.first || s.image s.first == 'k'.toNat && s.first == s.last) &&
  (s.image s.last < 'İ'.toNat || 'İ'.toNat < s.image s.first) &&
  blankRanges.all (fun r => s.image s.last < r.1 || r.2 < s.image s.first) &&
  lowercaseShifts.all s.misses

/-- The lower-case mapping leads to lower-case characters. This is one evaluation over the table, in
the kernel: it compares every pair of shifts by their ends. -/
theorem lowercaseShifts_settle : lowercaseShifts.all Shift.settles = true := by
  decide +kernel

/-- A shift that misses another one takes no code point to one that the other moves. The images lie
beside the other stretch, or they have the other parity where it moves every second code point. -/
theorem Shift.covers_image {s t : Shift} {n : Nat} (hpos : 0 ≤ (s.first : Int) + s.distance)
    (h : s.misses t = true) (hn : s.covers n = true) : t.covers (s.image n) = false := by
  rw [Bool.eq_false_iff]
  intro ht
  simp only [covers, Bool.and_eq_true, decide_eq_true_eq, beq_iff_eq] at hn ht
  simp only [misses, Bool.or_eq_true, Bool.and_eq_true, Nat.blt_eq, Nat.beq_eq] at h
  simp only [image] at h ht
  obtain ⟨⟨hfirst, hlast⟩, hstep⟩ := hn
  obtain ⟨⟨htfirst, htlast⟩, htstep⟩ := ht
  rcases h with (h | h) | ⟨⟨hs, ht⟩, hodd⟩
  · omega
  · omega
  · -- both sides lie on every second code point, and the two rows are one apart
    rw [ht] at htstep
    rcases hs with hs | hs
    · rw [hs] at hstep
      omega
    · omega

/-- Code points beside all ranges are in none of them. The check of the table speaks of whole
stretches, and this brings it down to one code point. -/
theorem inRanges_eq_false {ranges : List (Nat × Nat)} {n : Nat}
    (h : ∀ r ∈ ranges, n < r.1 ∨ r.2 < n) : inRanges ranges n = false := by
  induction ranges with
  | nil => rfl
  | cons r rest ih =>
    obtain ⟨first, last⟩ := r
    have hr := h (first, last) List.mem_cons_self
    have hrest := ih fun r hr => h r (List.mem_cons_of_mem _ hr)
    rw [inRanges, hrest]
    dsimp only at hr
    split
    · rfl
    · rw [if_neg (by omega)]

/-- What is at the image of a code point that the lower-case mapping moves. The image lies between
those of the ends of its shift, so what the table says of the stretch holds of it. -/
theorem image_settled {s : Shift} (hs : s ∈ lowercaseShifts) {n : Nat}
    (hn : s.covers n = true) :
    (s.image n).isValidChar ∧ s.image n ≠ 'İ'.toNat ∧
      (0x80 ≤ s.image n ∨ s.image n = 'k'.toNat) ∧
      inRanges blankRanges (s.image n) = false ∧
      ∀ t ∈ lowercaseShifts, t.covers (s.image n) = false := by
  have hsettles := List.all_eq_true.mp lowercaseShifts_settle s hs
  simp only [Shift.settles, Bool.and_eq_true, Bool.or_eq_true, decide_eq_true_eq, beq_iff_eq,
    List.all_eq_true] at hsettles
  obtain ⟨⟨⟨⟨⟨hpos, hchar⟩, hlow⟩, hdot⟩, hblank⟩, hmisses⟩ := hsettles
  -- a shift keeps the order, so the images lie between those of the ends
  have hbounds : s.image s.first ≤ s.image n ∧ s.image n ≤ s.image s.last ∧
      (s.first = s.last → s.image n = s.image s.first) := by
    simp only [Shift.covers, Bool.and_eq_true, decide_eq_true_eq] at hn
    simp only [Shift.image]
    omega
  obtain ⟨hfirst, hlast, hsingle⟩ := hbounds
  refine ⟨?_, ?_, ?_, ?_, fun t ht => Shift.covers_image hpos (hmisses t ht) hn⟩
  · unfold Nat.isValidChar
    omega
  · omega
  · rcases hlow with hlow | ⟨hk, hone⟩
    · exact .inl (Nat.le_trans hlow hfirst)
    · exact .inr ((hsingle hone).trans hk)
  · refine inRanges_eq_false fun r hr => ?_
    have := hblank r hr
    omega

/-! ### Characters -/

/-- A character that lower-casing keeps, wherever it stands. -/
def Settled (c : Char) : Prop := c ≠ 'Σ' ∧ c ≠ 'İ' ∧ lowerChar c = c

instance (c : Char) : Decidable (Settled c) := inferInstanceAs (Decidable (_ ∧ _ ∧ _))

/-- The lower-case form of an ASCII character is the character or a small letter. There are few
enough of them to try each one. -/
theorem lowerChar_ascii {c : Char} (hc : c.toNat < 0x80) : lowerChar c = c ∨
    Settled (lowerChar c) ∧ isBlank (lowerChar c) = false ∧ lowerChar c ≠ '.' := by
  have h : ((List.range 0x80).all fun n => decide (lowerChar (Char.ofNat n) = Char.ofNat n ∨
      Settled (lowerChar (Char.ofNat n)) ∧ isBlank (lowerChar (Char.ofNat n)) = false ∧
        lowerChar (Char.ofNat n) ≠ '.')) = true := by
    decide +kernel
  have hn := of_decide_eq_true (List.all_eq_true.mp h c.toNat (List.mem_range.mpr hc))
  rwa [Char.ofNat_toNat] at hn

/-- The character at a code point that has one is at that code point. For other numbers there is a
default character, so the condition is needed. -/
theorem toNat_ofNat {n : Nat} (h : n.isValidChar) : (Char.ofNat n).toNat = n := by
  rw [Char.ofNat, dif_pos h]
  rfl

/-- A character is its own lower-case form, or that form is settled and neither white space nor a
dot. Outside ASCII the first shift that covers the character decides, and `image_settled` says what
it leads to. -/
theorem lowerChar_cases (c : Char) : lowerChar c = c ∨
    Settled (lowerChar c) ∧ isBlank (lowerChar c) = false ∧ lowerChar c ≠ '.' := by
  by_cases hascii : c.toNat < 0x80
  · exact lowerChar_ascii hascii
  · have hshift : lowerChar c = shiftBy lowercaseShifts c := if_neg hascii
    cases hfind : lowercaseShifts.find? (·.covers c.toNat) with
    | none =>
      rw [shiftBy, hfind] at hshift
      exact .inl hshift
    | some s =>
      rw [shiftBy, hfind] at hshift
      have hcovers : s.covers c.toNat = true := by simpa using List.find?_some hfind
      obtain ⟨hvalid, hdotted, hlow, hblank, huncovered⟩ :=
        image_settled (List.mem_of_find?_eq_some hfind) hcovers
      have hnat : (lowerChar c).toNat = s.image c.toNat := by
        rw [hshift]
        exact toNat_ofNat hvalid
      generalize lowerChar c = d at hnat ⊢
      rw [← hnat] at hdotted hlow hblank huncovered
      have hkept : lowerChar d = d := by
        rcases hlow with hlow | hk
        · rw [lowerChar, if_neg (by omega), shiftBy, List.find?_eq_none.mpr]
          intro t ht
          rw [huncovered t ht]
          exact Bool.false_ne_true
        · -- the Kelvin sign is the only one that becomes an ASCII letter
          rw [show d = 'k' from Char.toNat_inj.mp hk]
          decide
      refine .inr ⟨⟨?_, fun h => hdotted (congrArg Char.toNat h), hkept⟩, hblank, ?_⟩
      · -- the capital sigma is moved by the table, so it is not its own lower-case form
        rintro rfl
        exact absurd hkept (by decide +kernel)
      · rintro rfl
        exact absurd hlow (by decide)

/-- What the characters with a rule of their own become is settled and neither white space nor a
dot. These are the two forms of a small sigma, and the letter and the mark into which the capital I
with a dot is split. -/
theorem settled_special {d : Char} (hd : d ∈ ['ς', 'σ', 'i', '\u0307']) :
    Settled d ∧ isBlank d = false ∧ d ≠ '.' := by
  have h : (['ς', 'σ', 'i', '\u0307'].all fun d =>
      decide (Settled d ∧ isBlank d = false ∧ d ≠ '.')) = true := by
    decide +kernel
  exact of_decide_eq_true (List.all_eq_true.mp h d hd)

/-- A code point in some ranges lies between the ends of one of them. This is the contrapositive of
`inRanges_eq_false`. -/
theorem exists_of_inRanges {ranges : List (Nat × Nat)} {n : Nat} (h : inRanges ranges n = true) :
    ∃ r ∈ ranges, r.1 ≤ n ∧ n ≤ r.2 := by
  refine Classical.byContradiction fun hnone => ?_
  have hbeside : ∀ r ∈ ranges, n < r.1 ∨ r.2 < n := by
    intro r hr
    have hnot : ¬ (r.1 ≤ n ∧ n ≤ r.2) := fun hin => hnone ⟨r, hr, hin⟩
    omega
  rw [inRanges_eq_false hbeside] at h
  exact Bool.false_ne_true h

/-- White space is settled. Each white space character is tried, range by range. -/
theorem settled_of_isBlank {c : Char} (hc : isBlank c = true) : Settled c := by
  have h : (blankRanges.all fun r => (List.range (r.2 + 1 - r.1)).all fun i =>
      decide (Settled (Char.ofNat (r.1 + i)))) = true := by
    decide +kernel
  obtain ⟨r, hr, hfirst, hlast⟩ := exists_of_inRanges hc
  have hplace := List.all_eq_true.mp (List.all_eq_true.mp h r hr) (c.toNat - r.1)
    (List.mem_range.mpr (by omega))
  rw [Nat.add_sub_cancel' hfirst, Char.ofNat_toNat] at hplace
  exact of_decide_eq_true hplace

/-! ### Texts -/

/-- What the first character of a text becomes: something, of settled characters only, with white
space or a dot in it only if the character is white space or the dot. What stands before the
character and behind it decides on a final sigma only, and both forms of a sigma are settled. -/
theorem exists_lowercaseAfter_cons (before : List Char) (c : Char) (rest : List Char) :
    ∃ lower, lowercaseAfter before (c :: rest) = lower ++ lowercaseAfter (c :: before) rest ∧
      lower ≠ [] ∧
      ∀ d ∈ lower, Settled d ∧ (isBlank d = true → isBlank c = true) ∧ (d = '.' → c = '.') := by
  -- what is neither white space nor a dot may come from any character
  have hfresh : ∀ d : Char, Settled d ∧ isBlank d = false ∧ d ≠ '.' →
      Settled d ∧ (isBlank d = true → isBlank c = true) ∧ (d = '.' → c = '.') := by
    rintro d ⟨hsettled, hblank, hdot⟩
    refine ⟨hsettled, fun h => ?_, fun h => absurd h hdot⟩
    rw [hblank] at h
    exact absurd h Bool.false_ne_true
  rw [lowercaseAfter]
  refine ⟨_, rfl, ?_⟩
  split
  · split
    · exact ⟨List.cons_ne_nil _ _, fun d hd => hfresh d (settled_special (by simp [List.mem_singleton.mp hd]))⟩
    · exact ⟨List.cons_ne_nil _ _, fun d hd => hfresh d (settled_special (by simp [List.mem_singleton.mp hd]))⟩
  · rename_i hsigma
    split
    · refine ⟨List.cons_ne_nil _ _, fun d hd => hfresh d (settled_special ?_)⟩
      exact List.mem_cons_of_mem _ (List.mem_cons_of_mem _ hd)
    · rename_i hdotted
      refine ⟨List.cons_ne_nil _ _, fun d hd => ?_⟩
      rw [List.mem_singleton.mp hd]
      rcases lowerChar_cases c with hkept | hlower
      · rw [hkept]
        exact ⟨⟨hsigma, hdotted, hkept⟩, id, id⟩
      · exact hfresh _ hlower

/-- The characters of a lower-case form are settled, and its dots come from dots. The induction is
on the text; what is in front of it is general. -/
theorem mem_lowercaseAfter {before text : List Char} {d : Char}
    (hd : d ∈ lowercaseAfter before text) : Settled d ∧ (d = '.' → '.' ∈ text) := by
  induction text generalizing before with
  | nil => exact absurd hd List.not_mem_nil
  | cons c rest ih =>
    obtain ⟨lower, heq, -, hlower⟩ := exists_lowercaseAfter_cons before c rest
    rw [heq, List.mem_append] at hd
    rcases hd with hd | hd
    · obtain ⟨hsettled, -, hdot⟩ := hlower d hd
      exact ⟨hsettled, fun h => hdot h ▸ List.mem_cons_self⟩
    · obtain ⟨hsettled, hdot⟩ := ih hd
      exact ⟨hsettled, fun h => List.mem_cons_of_mem _ (hdot h)⟩

/-- A text of settled characters is its own lower-case form. None of them has a rule of its own, so
the context does not matter. -/
theorem lowercaseAfter_of_settled {before text : List Char} (h : ∀ c ∈ text, Settled c) :
    lowercaseAfter before text = text := by
  induction text generalizing before with
  | nil => rfl
  | cons c rest ih =>
    obtain ⟨hsigma, hdotted, hkept⟩ := h c List.mem_cons_self
    rw [lowercaseAfter, ih fun d hd => h d (List.mem_cons_of_mem _ hd)]
    simp only [if_neg hsigma, if_neg hdotted, hkept, List.singleton_append]

/-- Lower-casing a second time changes nothing. The first time leaves settled characters only. -/
theorem lowercase_lowercase (text : List Char) : lowercase (lowercase text) = lowercase text :=
  lowercaseAfter_of_settled fun _ hd => (mem_lowercaseAfter hd).1

/-- The first character of a lower-case form comes from the first of the text. No character becomes
nothing, so the first one of the text has a part in the form. White space at the start is white
space of the text, then. -/
theorem exists_head_of_lowercase {text : List Char} {d : Char}
    (hd : d ∈ (lowercase text).head?) :
    ∃ c ∈ text.head?, (isBlank d = true → isBlank c = true) ∧ (d = '.' → c = '.') := by
  cases text with
  | nil => exact absurd hd (by simp [lowercase, lowercaseAfter])
  | cons c rest =>
    obtain ⟨lower, heq, hne, hlower⟩ := exists_lowercaseAfter_cons [] c rest
    rw [lowercase, heq, List.head?_append, List.head?_eq_some_head hne, Option.some_or,
      ← List.head?_eq_some_head hne] at hd
    exact ⟨c, rfl, (hlower d (List.mem_of_mem_head? hd)).2⟩

/-- The last character of a lower-case form comes from the last of the text. The induction goes
through the text to its last character, behind which there is nothing more. -/
theorem exists_getLast_of_lowercaseAfter {before text : List Char} {d : Char}
    (hd : d ∈ (lowercaseAfter before text).getLast?) :
    ∃ c ∈ text.getLast?, isBlank d = true → isBlank c = true := by
  induction text generalizing before with
  | nil => exact absurd hd (by simp [lowercaseAfter])
  | cons c rest ih =>
    obtain ⟨lower, heq, hne, hlower⟩ := exists_lowercaseAfter_cons before c rest
    cases rest with
    | nil =>
      rw [heq, lowercaseAfter, List.append_nil] at hd
      exact ⟨c, rfl, (hlower d (List.mem_of_mem_getLast? hd)).2.1⟩
    | cons c' rest =>
      obtain ⟨lower', heq', hne', -⟩ := exists_lowercaseAfter_cons (c :: before) c' rest
      have hsome : lowercaseAfter (c :: before) (c' :: rest) ≠ [] := by
        rw [heq']
        exact fun h => hne' (List.append_eq_nil_iff.mp h).1
      rw [heq, List.getLast?_append, List.getLast?_eq_some_getLast hsome, Option.some_or,
        ← List.getLast?_eq_some_getLast hsome] at hd
      rw [List.getLast?_cons_cons]
      exact ih hd

end Polyglot.Unicode
