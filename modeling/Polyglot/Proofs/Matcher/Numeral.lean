import Polyglot.Proofs.Matcher.Digits

/-!
# `Polyglot.Proofs.Matcher.Numeral`: numbers are taken as far as they go

The numbers of a language are given by a grammar: decimal literals, which are digits, a fraction
and an exponent (`decimal`), or a radix and digits of that radix; and then a suffix.
`number_takes_longest`: a number matcher takes the longest literal of this grammar, and behind it
the longest suffix.

The scanner goes through the parts from left to right, takes as much as it can for each part and
never goes back. For most separators the parts cannot be mixed up. But a separator may be any
character, also the point, the letter of an exponent or a sign, and then one text has several
readings: with the point for a separator, `1.5` is digits alone, or digits and a fraction.

What settles this is `Longest.separator_of_lt`. If the digits that were taken go on where another
reading has its point or its letter, that character is the separator, and a digit follows it. So
all that the other reading has there is more digits, and these were taken too
(`Longest.scaled_cases`, `Longest.decimal_cases`). Hence a reading that differs from the scanner's
is not longer than the digits, or it differs only behind them.
-/

set_option autoImplicit false

namespace Polyglot.Matcher

/-! ### The grammar of numbers -/

/-- A point and digits. -/
def fraction (separator : Option Char) : Language Char :=
  oneOf (· == '.') * digits separator Char.isDigit

/-- A language if it is in use, and nothing if not. -/
def inUse (on : Bool) (language : Language Char) : Language Char := if on then language else 0

/-- The exponents that may follow a decimal literal. -/
def scales (spec : NumberSpec) : Language Char := inUse spec.scientific (exponent spec.separator)

/-- The decimal literals: digits, then a fraction or none, or a fraction alone; then an exponent
or none. -/
def decimal (spec : NumberSpec) : Language Char :=
  (digits spec.separator Char.isDigit * (1 + inUse spec.float (fraction spec.separator)) +
    inUse spec.float (fraction spec.separator)) * (1 + scales spec)

/-- A letter names a radix that is in use and has certain digits. -/
inductive NamesRadix (spec : NumberSpec) : Char → (Char → Bool) → Prop where
  /-- Hexadecimal numbers. -/
  | hex {letter : Char} (on : spec.hex = true) (h : letter = 'x' ∨ letter = 'X') :
      NamesRadix spec letter Number.isHexDigit
  /-- Octal numbers. -/
  | octal {letter : Char} (on : spec.octal = true) (h : letter = 'o' ∨ letter = 'O') :
      NamesRadix spec letter Number.isOctalDigit
  /-- Binary numbers. -/
  | binary {letter : Char} (on : spec.binary = true) (h : letter = 'b' ∨ letter = 'B') :
      NamesRadix spec letter Number.isBinaryDigit

/-- The number at the start of a text, without its suffix; nothing if there is none. -/
inductive NumberBody (spec : NumberSpec) (text : List Char) : List Char → Prop where
  /-- The text names a radix. It has to go on with digits of that radix. -/
  | radix {letter : Char} {rest run : List Char} {digit : Char → Bool}
      (htext : text = '0' :: letter :: rest) (hradix : NamesRadix spec letter digit)
      (hrun : Longest (digits spec.separator digit) rest run) :
      NumberBody spec text (if run = [] then [] else '0' :: letter :: run)
  /-- The text names no radix. -/
  | decimal {body : List Char}
      (hradix : ∀ letter rest digit, text = '0' :: letter :: rest → ¬ NamesRadix spec letter digit)
      (hbody : Longest (decimal spec) text body) : NumberBody spec text body

/-- The declared suffixes. -/
def declaredSuffixes (spec : NumberSpec) : Language Char :=
  {word | ∃ s ∈ spec.suffixes, s.toList = word}

variable {digit : Char → Bool} {text word : List Char} {spec : NumberSpec}

/-! ### Readings of a decimal literal -/

/-- A word of a language that is in use. A part of the grammar that is not in use has no words, not
even the empty one. -/
theorem mem_inUse_iff {on : Bool} {language : Language Char} :
    word ∈ inUse on language ↔ on = true ∧ word ∈ language := by
  cases on with
  | false => simp [inUse, Language.notMem_zero]
  | true => simp [inUse]

/-- Digits, and then an exponent or none. -/
def scaled (spec : NumberSpec) : Language Char :=
  digits spec.separator Char.isDigit * (1 + scales spec)

/-- The parts of digits with an exponent. In front of the exponent there is at least one digit. -/
theorem mem_scaled_iff : word ∈ scaled spec ↔
    ∃ run scale, run ∈ digits spec.separator Char.isDigit ∧ (scale = [] ∨ scale ∈ scales spec) ∧
      word = run ++ scale := by
  constructor
  · rintro ⟨run, hrun, scale, hscale, rfl⟩
    exact ⟨run, scale, hrun, hscale, rfl⟩
  · rintro ⟨run, scale, hrun, hscale, rfl⟩
    exact Language.append_mem_mul hrun hscale

/-- Digits with an exponent start with a digit. -/
theorem head_of_mem_scaled (h : word ∈ scaled spec) :
    ∃ d rest, word = d :: rest ∧ d.isDigit = true := by
  obtain ⟨run, scale, hrun, -, rfl⟩ := mem_scaled_iff.mp h
  cases run with
  | nil => exact absurd hrun nil_notMem_digits
  | cons d run => exact ⟨d, run ++ scale, rfl, (cons_mem_digits_iff.mp hrun).1⟩

/-- A decimal literal is digits with an exponent, with or without a point in front of them, and with
or without digits in front of the point. The grammar lists a whole number with a fraction and a
fraction alone. Here both are digits behind a point, which lets the proof treat them at once. -/
theorem mem_decimal_iff : word ∈ decimal spec ↔
    word ∈ scaled spec ∨ (spec.float = true ∧ ∃ whole rest,
      (whole = [] ∨ whole ∈ digits spec.separator Char.isDigit) ∧ rest ∈ scaled spec ∧
      word = whole ++ '.' :: rest) := by
  have hpoint : inUse spec.float (fraction spec.separator) * (1 + scales spec) =
      inUse spec.float (oneOf (· == '.') * scaled spec) := by
    cases spec.float
    · exact zero_mul _
    · exact mul_assoc _ _ _
  have hsplit : decimal spec = scaled spec + (1 + digits spec.separator Char.isDigit) *
      inUse spec.float (oneOf (· == '.') * scaled spec) := by
    rw [← hpoint]
    -- the grammar is distributed over its optional parts
    unfold decimal scaled
    generalize 1 + scales spec = scale
    rw [mul_add, mul_one, add_mul, add_mul, add_mul, one_mul, mul_assoc, add_assoc,
      add_comm (inUse spec.float _ * _)]
  rw [hsplit, Language.mem_add]
  refine or_congr_right ⟨?_, ?_⟩
  · rintro ⟨whole, hwhole, _, hrest, rfl⟩
    obtain ⟨hfloat, hbehind⟩ := mem_inUse_iff.mp hrest
    obtain ⟨c, rest, hc, hscaled, rfl⟩ := mem_oneOf_mul_iff.mp hbehind
    obtain rfl := beq_iff_eq.mp hc
    exact ⟨hfloat, whole, rest, hwhole, hscaled, rfl⟩
  · rintro ⟨hfloat, whole, rest, hwhole, hrest, rfl⟩
    refine Language.append_mem_mul hwhole (mem_inUse_iff.mpr ⟨hfloat, ?_⟩)
    exact mem_oneOf_mul_iff.mpr ⟨'.', rest, rfl, hrest, rfl⟩

section

variable {run : List Char} (h : Longest (digits spec.separator Char.isDigit) text run)

include h

/-- An exponent that starts inside the longest digits is all digits. Its letter is then the
separator, and what follows the separator is a digit. So there is no sign, and with the digits in
front it makes one run. -/
theorem Longest.append_exponent_mem {front scale : List Char} (hlt : front.length < run.length)
    (hfront : front ∈ digits spec.separator Char.isDigit)
    (hscale : scale ∈ exponent spec.separator) (hstarts : front ++ scale <+: text) :
    front ++ scale ∈ digits spec.separator Char.isDigit := by
  obtain ⟨c, sign, more, hc, hsign, hmore, rfl⟩ := mem_exponent_iff.mp hscale
  obtain ⟨hsep, hnext⟩ := h.separator_of_lt hlt hstarts (isDigit_of_isExponentLetter hc)
  rcases hsign with rfl | ⟨s, hs, rfl⟩
  · exact append_cons_mem_digits hfront hsep hmore
  · -- a sign cannot follow the separator
    have hdigit := hnext s rfl
    rw [isDigit_of_isSign hs] at hdigit
    cases hdigit

/-- A reading as digits with an exponent is not longer than the longest digits, or it is these
digits and an exponent behind them. A shorter run of digits in front of an exponent is the case of a
letter that is the separator as well. -/
theorem Longest.scaled_cases (hword : word ∈ scaled spec) (hstarts : word <+: text) :
    word.length ≤ run.length ∨ ∃ scale ∈ scales spec, run ≠ [] ∧ word = run ++ scale := by
  obtain ⟨front, scale, hfront, hscale, rfl⟩ := mem_scaled_iff.mp hword
  have hbegin : front <+: text := (List.prefix_append front scale).trans hstarts
  rcases Nat.lt_or_ge front.length run.length with hlt | hge
  · rcases hscale with rfl | hscale
    · rw [List.append_nil]
      exact .inl (Nat.le_of_lt hlt)
    · -- the exponent starts inside of the run, so it is digits itself
      have hall := h.append_exponent_mem hlt hfront (mem_inUse_iff.mp hscale).2 hstarts
      exact .inl (h.longest _ hall hstarts)
  · have hsame : front = run := (h.isBeginning hfront hbegin).eq_of_length_le hge
    subst hsame
    rcases hscale with rfl | hscale
    · rw [List.append_nil]
      exact .inl (Nat.le_refl _)
    · exact .inr ⟨scale, hscale, fun hnil => nil_notMem_digits (hnil ▸ hfront), rfl⟩

/-- A reading as a decimal literal is not longer than the longest digits, or it is these digits and
an exponent behind them, or these digits (there may be none) and a point behind them. A point inside
of the longest digits would be the separator, with a digit behind it, and then the reading goes on
as digits. -/
theorem Longest.decimal_cases (hword : word ∈ decimal spec) (hstarts : word <+: text) :
    word.length ≤ run.length ∨ (∃ scale ∈ scales spec, run ≠ [] ∧ word = run ++ scale) ∨
      (spec.float = true ∧ ∃ rest ∈ scaled spec, word = run ++ '.' :: rest) := by
  rcases mem_decimal_iff.mp hword with hscaled | ⟨hfloat, whole, rest, hwhole, hrest, rfl⟩
  · exact (h.scaled_cases hscaled hstarts).imp id .inl
  · rcases Nat.lt_or_ge whole.length run.length with hlt | hge
    · obtain ⟨hsep, -⟩ := h.separator_of_lt hlt hstarts rfl
      rcases hwhole with rfl | hwhole
      · -- the text starts with a point, so it does not start with digits
        obtain ⟨after, rfl⟩ := hstarts
        have hdigit := h.head_digit (List.length_pos_iff.mp hlt)
        cases hdigit
      · -- the point is the separator, so the fraction is more digits
        obtain ⟨more, scale, hmore, hscale, rfl⟩ := mem_scaled_iff.mp hrest
        have hall : whole ++ '.' :: more ∈ digits spec.separator Char.isDigit :=
          append_cons_mem_digits hwhole hsep hmore
        have hscaled : whole ++ '.' :: (more ++ scale) ∈ scaled spec :=
          mem_scaled_iff.mpr ⟨_, scale, hall, hscale, by simp⟩
        exact (h.scaled_cases hscaled hstarts).imp id .inl
    · have hbegin : whole <+: text := (List.prefix_append whole _).trans hstarts
      have hle : whole.length ≤ run.length := by
        rcases hwhole with rfl | hwhole
        · exact Nat.zero_le _
        · exact h.longest whole hwhole hbegin
      have hsame : whole = run :=
        (List.prefix_of_prefix_length_le hbegin h.starts hle).eq_of_length_le hge
      subst hsame
      exact .inr (.inr ⟨hfloat, rest, hrest, rfl⟩)

end

/-! ### The reading of the scanner -/

/-- What the scanner takes for an exponent behind a decimal literal. -/
def takenScale (spec : NumberSpec) (text : List Char) : List Char :=
  if spec.scientific then text.take ((Number.ofSpec spec).exponentLength text) else []

/-- The exponent behind a decimal literal is the longest one. If exponents are not in use, it is
nothing, and nothing is all that there is. -/
theorem longest_takenScale (spec : NumberSpec) (text : List Char) :
    Longest (scales spec) text (takenScale spec text) := by
  have h := longest_exponent (.ofSpec spec) text
  unfold scales takenScale inUse
  cases spec.scientific with
  | false => exact ⟨List.nil_prefix, fun hne => absurd rfl hne, fun _ hword => nomatch hword⟩
  | true => exact h

/-- The longest digits and the longest exponent behind them. That no shorter digits with a longer
exponent come to more is what `Longest.scaled_cases` has shown. -/
theorem Longest.append_scale {run rest : List Char}
    (h : Longest (digits spec.separator Char.isDigit) (run ++ rest) run) (hne : run ≠ []) :
    Longest (scaled spec) (run ++ rest) (run ++ takenScale spec rest) := by
  have hscale := longest_takenScale spec rest
  refine ⟨(List.prefix_append_right_inj run).mpr hscale.starts, fun _ => ?_, ?_⟩
  · refine mem_scaled_iff.mpr ⟨run, _, h.mem hne, ?_, rfl⟩
    by_cases hnil : takenScale spec rest = []
    · exact .inl hnil
    · exact .inr (hscale.mem hnil)
  · intro word hword hstarts
    rw [List.length_append]
    -- a longer word has the same run in front of its exponent
    rcases h.scaled_cases hword hstarts with hle | ⟨scale, hmem, -, rfl⟩
    · omega
    · have hle := hscale.longest scale hmem ((List.prefix_append_right_inj run).mp hstarts)
      rw [List.length_append]
      omega

/-- A fraction starts with a point and a digit. -/
theorem exists_of_startsFraction (h : Number.startsFraction text = true) :
    ∃ d rest, text = '.' :: d :: rest ∧ d.isDigit = true := by
  unfold Number.startsFraction at h
  split at h
  · exact ⟨_, _, rfl, h⟩
  · cases h

/-- A point and digits start a fraction. The scanner looks at one character behind the point, and
this is enough, since digits start with a digit. -/
theorem startsFraction_of_starts (h : word ∈ scaled spec) (hstarts : '.' :: word <+: text) :
    Number.startsFraction text = true := by
  obtain ⟨d, rest, rfl, hd⟩ := head_of_mem_scaled h
  obtain ⟨after, rfl⟩ := hstarts
  exact hd

/-- Without a fraction, the longest decimal literal is digits and an exponent. Readings with a point
are excluded, as they would start a fraction where the longest digits end. -/
theorem Longest.decimal_of_whole {run rest : List Char}
    (h : Longest (digits spec.separator Char.isDigit) (run ++ rest) run) (hne : run ≠ [])
    (hfraction : ¬ (spec.float = true ∧ Number.startsFraction rest = true)) :
    Longest (decimal spec) (run ++ rest) (run ++ takenScale spec rest) := by
  have hscaled := h.append_scale hne
  refine ⟨hscaled.starts, fun hbody => mem_decimal_iff.mpr (.inl (hscaled.mem hbody)), ?_⟩
  intro word hword hstarts
  rcases h.decimal_cases hword hstarts with hle | ⟨scale, hmem, -, rfl⟩ | ⟨hfloat, part, hpart, rfl⟩
  · rw [List.length_append]
    omega
  · have hmem' : run ++ scale ∈ scaled spec :=
      mem_scaled_iff.mpr ⟨run, scale, h.mem hne, .inr hmem, rfl⟩
    exact hscaled.longest _ hmem' hstarts
  · have hpoint := startsFraction_of_starts hpart ((List.prefix_append_right_inj run).mp hstarts)
    exact absurd ⟨hfloat, hpoint⟩ hfraction

/-- With a fraction, the longest decimal literal is what stands in front of the point, the point,
and the longest digits and exponent behind it. A reading without the point could only end in front
of it. -/
theorem Longest.decimal_of_point {run part rest : List Char}
    (h : Longest (digits spec.separator Char.isDigit) (run ++ '.' :: (part ++ rest)) run)
    (hpart : Longest (digits spec.separator Char.isDigit) (part ++ rest) part) (hne : part ≠ [])
    (hfloat : spec.float = true) :
    Longest (decimal spec) (run ++ '.' :: (part ++ rest))
      (run ++ '.' :: (part ++ takenScale spec rest)) := by
  have hscaled := hpart.append_scale hne
  refine ⟨?_, fun _ => ?_, ?_⟩
  · rw [List.prefix_append_right_inj, List.cons_prefix_cons]
    exact ⟨rfl, hscaled.starts⟩
  · refine mem_decimal_iff.mpr (.inr ⟨hfloat, run, _, ?_, hscaled.mem (by simp [hne]), rfl⟩)
    by_cases hnil : run = []
    · exact .inl hnil
    · exact .inr (h.mem hnil)
  · intro word hword hstarts
    rcases h.decimal_cases hword hstarts with hle | ⟨scale, hmem, -, rfl⟩ | ⟨-, other, hother, rfl⟩
    · rw [List.length_append]
      omega
    · -- an exponent does not start with a point
      obtain ⟨c, sign, more, hc, -, -, rfl⟩ := mem_exponent_iff.mp (mem_inUse_iff.mp hmem).2
      obtain ⟨rfl, -⟩ :=
        List.cons_prefix_cons.mp ((List.prefix_append_right_inj run).mp hstarts)
      cases hc
    · obtain ⟨-, hbehind⟩ :=
        List.cons_prefix_cons.mp ((List.prefix_append_right_inj run).mp hstarts)
      have hle := hscaled.longest other hother hbehind
      simp only [List.length_append, List.length_cons] at hle ⊢
      omega

/-- With neither digits nor a fraction there is no decimal literal. -/
theorem Longest.decimal_of_none (h : Longest (digits spec.separator Char.isDigit) text [])
    (hfraction : ¬ (spec.float = true ∧ Number.startsFraction text = true)) :
    Longest (decimal spec) text [] := by
  refine ⟨List.nil_prefix, fun hne => absurd rfl hne, ?_⟩
  intro word hword hstarts
  rcases h.decimal_cases hword hstarts with hle | ⟨-, -, hne, -⟩ | ⟨hfloat, part, hpart, rfl⟩
  · exact hle
  · exact absurd rfl hne
  · exact absurd ⟨hfloat, startsFraction_of_starts hpart hstarts⟩ hfraction

/-- The parts that the scanner takes for a decimal literal. -/
theorem take_decimalLength (spec : NumberSpec) (text : List Char) :
    text.take ((Number.ofSpec spec).decimalLength text) =
      let count := Number.digitRun spec.separator Char.isDigit false
      let whole := text.take (count text)
      let rest := text.drop (count text)
      if spec.float = true ∧ Number.startsFraction rest = true then
        let part := rest.tail.take (count rest.tail)
        whole ++ '.' :: (part ++ takenScale spec (rest.tail.drop (count rest.tail)))
      else if whole = [] then []
      else whole ++ takenScale spec rest := by
  have hscale : ∀ body, text.take (if spec.scientific then
      body + (Number.ofSpec spec).exponentLength (text.drop body) else body) =
        text.take body ++ takenScale spec (text.drop body) := by
    intro body
    unfold takenScale
    cases spec.scientific with
    | false => simp
    | true => exact List.take_add
  have hle := Number.digitRun_le spec.separator Char.isDigit false text
  unfold Number.decimalLength
  simp only [show (Number.ofSpec spec).separator = spec.separator from rfl,
    show (Number.ofSpec spec).float = spec.float from rfl,
    show (Number.ofSpec spec).scientific = spec.scientific from rfl]
  -- from here on the run is a number that is within the text
  generalize Number.digitRun spec.separator Char.isDigit false text = count at hle ⊢
  by_cases hfraction : spec.float = true ∧ Number.startsFraction (text.drop count) = true
  · have hon : (spec.float && Number.startsFraction (text.drop count)) = true := by
      rw [hfraction.1, hfraction.2]
      rfl
    have hsome : ¬ (decide (count = 0) && !(spec.float && Number.startsFraction text)) = true := by
      intro h
      simp only [Bool.and_eq_true, decide_eq_true_eq, Bool.not_eq_true'] at h
      rw [h.1, List.drop_zero, h.2] at hon
      cases hon
    rw [if_neg hsome, hscale, if_pos hfraction, if_pos hon]
    -- the point is one character, and a digit follows it
    obtain ⟨d, rest, hrest, -⟩ := exists_of_startsFraction hfraction.2
    rw [List.take_add, ← List.drop_drop, hrest, List.tail_cons, List.drop_one, List.tail_cons,
      Nat.add_comm 1, List.take_succ_cons, List.drop_succ_cons, List.append_assoc,
      List.cons_append]
  · have hoff : ¬ (spec.float && Number.startsFraction (text.drop count)) = true := by
      rwa [Bool.and_eq_true]
    rw [if_neg hfraction]
    by_cases hnone : count = 0
    · rw [hnone, List.drop_zero] at hoff
      simp [hnone, Bool.not_eq_true _ ▸ hoff]
    · -- some digits were counted, so some are taken
      have hne : text.take count ≠ [] := by
        intro h
        rcases List.take_eq_nil_iff.mp h with h | h
        · exact hnone h
        · rw [h, List.length_nil] at hle
          omega
      rw [if_neg (by simp [hnone]), hscale, if_neg hoff, if_neg hne]
      rfl

/-- What the scanner takes for a decimal literal is the longest one. The cases are those of the
scanner: a fraction, a whole number, or nothing. -/
theorem longest_decimal (spec : NumberSpec) (text : List Char) :
    Longest (decimal spec) text (text.take ((Number.ofSpec spec).decimalLength text)) := by
  have hwhole := longest_digitRun spec.separator Char.isDigit text
  have hsplit := List.take_append_drop (Number.digitRun spec.separator Char.isDigit false text) text
  rw [take_decimalLength]
  dsimp only
  generalize text.take (Number.digitRun spec.separator Char.isDigit false text) = whole at *
  generalize text.drop (Number.digitRun spec.separator Char.isDigit false text) = rest at *
  -- from here on the text is its digits and the rest, whatever they are
  subst hsplit
  split
  · rename_i hfraction
    obtain ⟨d, rest, rfl, hd⟩ := exists_of_startsFraction hfraction.2
    have hpart := longest_digitRun spec.separator Char.isDigit (d :: rest)
    have hcut := List.take_append_drop
      (Number.digitRun spec.separator Char.isDigit false (d :: rest)) (d :: rest)
    have hne : (d :: rest).take (Number.digitRun spec.separator Char.isDigit false (d :: rest))
        ≠ [] := by simp [Number.digitRun, hd]
    rw [List.tail_cons]
    generalize (d :: rest).take (Number.digitRun spec.separator Char.isDigit false (d :: rest)) =
      part at *
    generalize (d :: rest).drop (Number.digitRun spec.separator Char.isDigit false (d :: rest)) =
      after at *
    -- the same for what stands behind the point
    rw [← hcut] at hpart hwhole ⊢
    exact hwhole.decimal_of_point hpart hne hfraction.1
  · rename_i hfraction
    split
    · rename_i hnil
      subst hnil
      exact hwhole.decimal_of_none hfraction
    · rename_i hne
      exact hwhole.decimal_of_whole hne hfraction

/-! ### Numbers -/

/-- The radix that a letter names is the one that the scanner finds. The letters are different, so
the order in which they are tried does not matter. -/
theorem radix?_eq_some_iff {letter : Char} :
    (Number.ofSpec spec).radix? letter = some digit ↔ NamesRadix spec letter digit := by
  constructor
  · intro h
    unfold Number.radix? at h
    split at h
    · rename_i hx
      obtain rfl := Option.some.inj h
      simp only [Bool.and_eq_true, Bool.or_eq_true, beq_iff_eq] at hx
      exact .hex hx.2 hx.1
    · split at h
      · rename_i ho
        obtain rfl := Option.some.inj h
        simp only [Bool.and_eq_true, Bool.or_eq_true, beq_iff_eq] at ho
        exact .octal ho.2 ho.1
      · split at h
        · rename_i hb
          obtain rfl := Option.some.inj h
          simp only [Bool.and_eq_true, Bool.or_eq_true, beq_iff_eq] at hb
          exact .binary hb.2 hb.1
        · cases h
  · intro h
    unfold Number.radix?
    cases h with
    | hex on h => rcases h with rfl | rfl <;> simp [Number.ofSpec, on]
    | octal on h => rcases h with rfl | rfl <;> simp [Number.ofSpec, on]
    | binary on h => rcases h with rfl | rfl <;> simp [Number.ofSpec, on]

/-- A text starts with only one number. Whether it names a radix is settled by its first two
characters, and in each case the longest reading is unique. -/
theorem NumberBody.unique {body other : List Char} (h : NumberBody spec text body)
    (h' : NumberBody spec text other) : body = other := by
  cases h with
  | radix htext hradix hrun =>
    cases h' with
    | radix htext' hradix' hrun' =>
      obtain ⟨-, hcons⟩ := List.cons.inj (htext.symm.trans htext')
      obtain ⟨rfl, rfl⟩ := List.cons.inj hcons
      rw [← radix?_eq_some_iff] at hradix hradix'
      obtain rfl := Option.some.inj (hradix.symm.trans hradix')
      -- one letter names one radix, and the digits behind it have one longest run
      rw [hrun.unique hrun']
    | decimal hnone => exact absurd hradix (hnone _ _ _ htext)
  | decimal hnone hbody =>
    cases h' with
    | radix htext' hradix' => exact absurd hradix' (hnone _ _ _ htext')
    | decimal _ hbody' => exact hbody.unique hbody'

/-- The length that the scanner finds for a number without its suffix. -/
def bodyLength (spec : NumberSpec) (text : List Char) : Nat :=
  ((Number.ofSpec spec).radixLength? text).getD ((Number.ofSpec spec).decimalLength text)

/-- A number without its suffix lies inside the text. -/
theorem bodyLength_le (spec : NumberSpec) (text : List Char) :
    bodyLength spec text ≤ text.length := by
  unfold bodyLength
  cases h : (Number.ofSpec spec).radixLength? text with
  | none => exact Number.decimalLength_le _ text
  | some count => exact Number.radixLength?_le _ text count h

/-- What the scanner takes in front of the suffix is the number. Where the text names a radix and no
digits follow, this is nothing, and the zero is not taken for a decimal number. -/
theorem numberBody_take (spec : NumberSpec) (text : List Char) :
    NumberBody spec text (text.take (bodyLength spec text)) := by
  unfold bodyLength Number.radixLength?
  split
  · rename_i letter rest
    cases hradix : (Number.ofSpec spec).radix? letter with
    | some digit =>
      have hrun := longest_digitRun spec.separator digit rest
      have hle := Number.digitRun_le spec.separator digit false rest
      have hbody := NumberBody.radix rfl (radix?_eq_some_iff.mp hradix) hrun
      rw [Option.map_some, Option.getD_some]
      simp only [show (Number.ofSpec spec).separator = spec.separator from rfl]
      generalize Number.digitRun spec.separator digit false rest = count at hle hbody ⊢
      cases count with
      | zero => exact hbody
      | succ count =>
        have hne : rest.take (count + 1) ≠ [] := by
          intro h
          have hlength := congrArg List.length h
          rw [List.length_take, List.length_nil] at hlength
          omega
        rw [if_neg hne] at hbody
        exact hbody
    | none =>
      rw [Option.map_none, Option.getD_none]
      refine .decimal ?_ (longest_decimal spec _)
      intro letter' rest' digit htext hnames
      obtain ⟨-, hcons⟩ := List.cons.inj htext
      obtain ⟨rfl, rfl⟩ := List.cons.inj hcons
      rw [radix?_eq_some_iff.mpr hnames] at hradix
      cases hradix
  · rename_i hother
    rw [Option.getD_none]
    refine .decimal ?_ (longest_decimal spec _)
    intro letter rest digit htext _
    exact hother letter rest htext

/-- A number matcher takes a number and the longest suffix behind it. The suffix is looked for only
if there is a number, so a suffix alone is none. -/
theorem exists_number_parts (spec : NumberSpec) (behind : Option Char) (text : List Char) :
    ∃ body suffix, NumberBody spec text body ∧
      Longest (declaredSuffixes spec) (text.drop body.length) suffix ∧
      (number (.ofSpec spec)).byteLength behind text =
        if body = [] then 0 else byteSize body + byteSize suffix := by
  have hlength : (text.take (bodyLength spec text)).length = bodyLength spec text :=
    List.length_take_of_le (bodyLength_le spec text)
  have hnil : text.take (bodyLength spec text) = [] ↔ bodyLength spec text = 0 := by
    rw [← List.length_eq_zero_iff, hlength]
  have htaken : (number (.ofSpec spec)).length behind text = if bodyLength spec text = 0 then 0
      else bodyLength spec text + literalLength (longestFirst spec.suffixes)
        (text.drop (bodyLength spec text)) := by
    rw [length]
    rfl
  -- the suffix is looked for behind the body, also where there is no body
  refine ⟨_, (text.drop (bodyLength spec text)).take
    (literalLength (longestFirst spec.suffixes) (text.drop (bodyLength spec text))),
    numberBody_take spec text, ?_, ?_⟩
  · rw [hlength]
    exact longest_literal spec.suffixes _
  · unfold byteLength
    rw [htaken]
    by_cases hzero : bodyLength spec text = 0
    · rw [if_pos hzero, if_pos (hnil.mpr hzero)]
      rfl
    · rw [if_neg hzero, if_neg fun h => hzero (hnil.mp h), List.take_add, byteSize_append]

/-- A declared number is a matcher that takes the longest literal of its grammar at the start of a
text, and then the longest declared suffix that follows directly; it takes nothing if there is no
such literal. In which order the suffixes are declared, and how often, makes no difference. -/
theorem number_takes_longest (classes : Table CharClass.Spec) (spec : NumberSpec) :
    compile classes (.number spec) = .ok (number (.ofSpec spec)) ∧
    (∀ behind text size, (number (.ofSpec spec)).byteLength behind text = size ↔
      ∃ body suffix, NumberBody spec text body ∧
        Longest (declaredSuffixes spec) (text.drop body.length) suffix ∧
        size = if body = [] then 0 else byteSize body + byteSize suffix) ∧
    ∀ suffixes, (∀ s, s ∈ suffixes ↔ s ∈ spec.suffixes) → ∀ behind text,
      (number (.ofSpec { spec with suffixes })).byteLength behind text =
        (number (.ofSpec spec)).byteLength behind text := by
  refine ⟨by rw [compile], fun behind text size => ?_, fun suffixes hsame behind text => ?_⟩
  · obtain ⟨body, suffix, hbody, hsuffix, hsize⟩ := exists_number_parts spec behind text
    constructor
    · rintro rfl
      exact ⟨body, suffix, hbody, hsuffix, hsize⟩
    · rintro ⟨body', suffix', hbody', hsuffix', rfl⟩
      obtain rfl := hbody.unique hbody'
      obtain rfl := hsuffix.unique hsuffix'
      exact hsize
  · -- the suffixes are the same language, and the number in front does not depend on them
    have hlanguage : declaredSuffixes { spec with suffixes } = declaredSuffixes spec :=
      Set.ext fun word => exists_congr fun s => and_congr_left fun _ => hsame s
    have hlength : bodyLength { spec with suffixes } text = bodyLength spec text := rfl
    obtain ⟨body, suffix, hbody, hsuffix, hsize⟩ := exists_number_parts spec behind text
    obtain ⟨body', suffix', hbody', hsuffix', hsize'⟩ :=
      exists_number_parts { spec with suffixes } behind text
    obtain rfl := hbody.unique (numberBody_take spec text)
    obtain rfl := hbody'.unique (numberBody_take { spec with suffixes } text)
    rw [hlanguage, hlength] at hsuffix'
    obtain rfl := hsuffix.unique hsuffix'
    rw [hsize, hsize', hlength]

/-- With `e` for the separator, `1e5` is digits, and an exponent may follow it. -/
example : (Number.ofSpec { scientific := true, separator := some 'e' }).decimalLength
    ['1', 'e', '5', 'e', '+', '6'] = 6 := by decide

end Polyglot.Matcher
