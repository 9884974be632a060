import Polyglot.Proofs.Regex.Reading

/-!
# `Polyglot.Proofs.Regex.Parts`: bracket expressions, groups and repetitions are read locally

The readers of the larger parts of a pattern, in the sense of `Polyglot.Proofs.Regex.Reading`. A
bracket expression goes on until its closing bracket, so its members have something behind them in
front of the parenthesis; a member or the start of a bracket expression that ends the text is no
member (`member?_reads`, `setStart?_reads`). That a bracket starts no named class has to be known
for other ends too (`Varies.namedClass?_eq_none`): it holds because no name has a parenthesis.

The steps of some readers have no name in the parser. They are defined here, with an equation that
puts them together (`setStart?_eq`, `counted?_eq`).
-/

set_option autoImplicit false

namespace Polyglot.Regex

section
variable {u s k text rest : List Char} {flags : Flags}

/-! ### Bracket expressions -/

/-- An atom of a bracket expression, which is no assertion. So no word boundary is read, and nothing
has to be known about a brace behind it. -/
theorem memberAtom?_reads {c : Char} {x : Atom} (hx : ∀ a, x ≠ .assert a)
    (h : memberAtom? flags (c :: rest) = some (x, u ++ ')' :: s)) :
    Reads (fun t => memberAtom? flags (c :: t)) rest (fun r => some (x, r)) u s := by
  by_cases hc : c = '\\'
  · subst hc
    cases rest with
    | nil => exact nomatch h
    | cons d rest =>
      have hescape : escape? flags (d :: rest) = some (x, u ++ ')' :: s) := h
      exact (escape?_reads (fun a ha => (hx a ha).elim) hescape).cons d fun _ t r ht => ht
  · have hliteral : ∀ t, memberAtom? flags (c :: t) = some (.literal c false, t) :=
      fun t => memberAtom?.eq_3 flags c t hc
    rw [hliteral] at h
    obtain ⟨rfl, rfl⟩ := Prod.mk.inj (Option.some.inj h)
    exact .here fun _ k _ => hliteral (u ++ k)

/-- The first character of a text, if it is not the parenthesis, is the same with any end. Where
there is none in front of the end, neither end has it. -/
theorem Varies.head?_iff {a b : List Char} (h : Varies a b) {c : Char} (hc : c ≠ ')') :
    b.head? = some c ↔ a.head? = some c := by
  obtain ⟨v, s, k, hk, rfl, rfl⟩ := h
  cases v with
  | nil => cases hk <;> simp [hc.symm]
  | cons d v => simp

/-- The blanks at the start of a text are the same with any end. They stop at a parenthesis and at
the end of the text. -/
theorem Varies.dropBlanks {a b : List Char} (h : Varies a b) :
    Varies (a.dropWhile Unicode.isBlank) (b.dropWhile Unicode.isBlank) := by
  obtain ⟨v, s, k, hk, rfl, rfl⟩ := h
  induction v with
  | nil =>
    refine ⟨[], s, k, hk, List.dropWhile_cons_of_neg (by simp [isBlank_closing]), ?_⟩
    cases hk with
    | nil => rfl
    | closing rest => exact List.dropWhile_cons_of_neg (by simp [isBlank_closing])
  | cons c v ih =>
    simp only [List.cons_append, List.dropWhile_cons]
    split
    · exact ih
    · exact ⟨c :: v, s, k, hk, rfl, rfl⟩

/-- What stands behind a hyphen, where blanks and comments are skipped: blanks are passed over, also
behind a hash. The look ahead does not skip a comment to the end of its line as `Flags.skip` does,
so it is described by itself. -/
theorem Flags.peek_eq_some_iff (hverbose : flags.verbose = true) {c : Char}
    (hblank : ¬ Unicode.isBlank c) (hhash : c ≠ '#') :
    flags.peek text = some c ↔ (text.dropWhile Unicode.isBlank).head? = some c ∨
      ∃ comment, text.dropWhile Unicode.isBlank = '#' :: comment ∧
        (comment.dropWhile Unicode.isBlank).head? = some c := by
  have hfirst : text.head? = some c → text.dropWhile Unicode.isBlank = text := by
    intro h
    obtain ⟨rest, rfl⟩ := List.head?_eq_some_iff.mp h
    exact List.dropWhile_cons_of_neg hblank
  simp only [Flags.peek, hverbose, if_true]
  split
  case h_1 comment hcomment =>
    -- a hash behind the blanks
    have hother : text.head? ≠ some c := by
      intro h
      rw [hfirst h] at hcomment
      rw [hcomment] at h
      exact hhash (Option.some.inj h).symm
    cases hnext : (comment.dropWhile Unicode.isBlank).head? with
    | none => simp [hcomment, hnext, hother, hhash.symm]
    | some d => simp [hcomment, hnext, hhash.symm]
  case h_2 d rest hne hd =>
    -- another character behind the blanks
    rw [hd]
    simp only [List.head?_cons, List.cons.injEq]
    constructor
    · exact .inl
    · rintro (h | ⟨comment, ⟨rfl, -⟩, -⟩)
      · exact h
      · exact (hne rfl).elim
  case h_3 hnil =>
    -- blanks only
    have hother : text.head? ≠ some c := by
      intro h
      rw [← hfirst h, hnil] at h
      exact nomatch h
    simp [hnil, hother]

/-- Whether a hyphen denotes a range is decided in front of the parenthesis. The look ahead passes
over blanks and a hash only, and a parenthesis is not what it looks for. -/
theorem Varies.peek_iff {a b : List Char} (h : Varies a b) {c : Char} (hc : c ≠ ')')
    (hblank : ¬ Unicode.isBlank c) (hhash : c ≠ '#') :
    flags.peek b = some c ↔ flags.peek a = some c := by
  cases hverbose : flags.verbose with
  | false => simpa [Flags.peek, hverbose] using h.head?_iff hc
  | true =>
    have hbare := h.dropBlanks
    rw [Flags.peek_eq_some_iff hverbose hblank hhash, Flags.peek_eq_some_iff hverbose hblank hhash,
      hbare.head?_iff hc]
    refine or_congr_right ⟨fun ⟨comment, hb, hd⟩ => ?_, fun ⟨comment, ha, hd⟩ => ?_⟩
    · have hhead := (hbare.head?_iff (c := '#') (by decide)).mp (by rw [hb]; rfl)
      obtain ⟨comment', ha⟩ := List.head?_eq_some_iff.mp hhead
      rw [ha] at hbare
      obtain ⟨_, hb', hvaries⟩ := hbare.eq_cons (by decide)
      obtain ⟨-, rfl⟩ := List.cons.inj (hb.symm.trans hb')
      exact ⟨comment', ha, (hvaries.dropBlanks.head?_iff hc).mp hd⟩
    · rw [ha] at hbare
      obtain ⟨comment', hb, hvaries⟩ := hbare.eq_cons (by decide)
      exact ⟨comment', hb, (hvaries.dropBlanks.head?_iff hc).mpr hd⟩

/-- A hyphen denotes a range with any end, or with none. The two characters that it is asked about
are no parentheses. -/
theorem Varies.lone_iff {a b : List Char} (h : Varies a b) :
    (flags.peek b = some ']' ∨ flags.peek b = some '-') ↔
      (flags.peek a = some ']' ∨ flags.peek a = some '-') := by
  rw [h.peek_iff (by decide) (by decide) (by decide), h.peek_iff (by decide) (by decide) (by decide)]

/-- An atom that is a member as a set is no assertion, so `memberAtom?_reads` applies to it. -/
theorem not_assert_of_memberSet? {x : Atom} {members : CharSet}
    (h : memberSet? flags x = some members) (a : Assertion) : x ≠ .assert a := by
  rintro rfl
  exact nomatch h

/-- An atom that is a character is no assertion. The ends of a range are such atoms. -/
theorem not_assert_of_memberChar? {x : Atom} {c : Char}
    (h : memberChar? flags x = some c) (a : Assertion) : x ≠ .assert a := by
  rintro rfl
  exact nomatch h

/-- A range of a bracket expression. The proof takes its parts from the last one on: the second
atom, the hyphen with the blanks around it, and the first atom. -/
theorem range_reads {c low high : Char} {first last : Atom} {mid after : List Char}
    (hfirst : memberAtom? flags (c :: rest) = some (first, mid))
    (hskip : flags.skip mid = '-' :: after)
    (hnext : ¬ (flags.peek after = some ']' ∨ flags.peek after = some '-'))
    (hlast : memberAtom? flags (flags.skip after) = some (last, u ++ ')' :: s))
    (hlow : memberChar? flags first = some low) (hhigh : memberChar? flags last = some high)
    (hle : low ≤ high) :
    Reads (fun t => member? flags (c :: t)) rest (fun r => some (.range low high, r)) u s := by
  cases hafter : flags.skip after with
  | nil =>
    rw [hafter] at hlast
    exact nomatch hlast
  | cons d rest' =>
    rw [hafter] at hlast
    -- from the last character back to the first one
    obtain ⟨v₁, rfl, hv₁, hlast'⟩ :=
      (memberAtom?_reads (not_assert_of_memberChar? hhigh) hlast).exists
    obtain ⟨v₂, rfl, hv₂, hafter'⟩ := (Flags.skip_reads (u := d :: v₁) hafter).exists
    obtain ⟨v₃, rfl, hv₃, hskip'⟩ := (Flags.skip_reads (u := '-' :: v₂) hskip).exists
    obtain ⟨w, rfl, hw, hatom⟩ :=
      (memberAtom?_reads (not_assert_of_memberChar? hlow) hfirst).exists
    simp only [List.length_cons] at hv₂ hv₃
    refine ⟨w, rfl, by omega, fun _ k _ hk => ?_⟩
    rw [← (hk.varies v₂ s).lone_iff] at hnext
    have hafter'' : flags.skip (v₂ ++ k) = d :: (v₁ ++ k) := hafter' k hk
    simp [member?, hatom k hk, hskip' k hk, hnext, hafter'', hlast' k hk, hlow, hhigh, hle]

/-- A member of a bracket expression. The expression goes on behind it, so something is left in
front of the parenthesis. If nothing were left, a parenthesis would be read as the next member and
the end of the text would be refused. -/
theorem member?_reads {c : Char} {members : CharSet} (hu : u ≠ [])
    (h : member? flags (c :: rest) = some (members, u ++ ')' :: s)) :
    Reads (fun t => member? flags (c :: t)) rest (fun r => some (members, r)) u s := by
  simp only [member?] at h
  obtain ⟨⟨first, mid⟩, hfirst, h⟩ := Option.bind_eq_some_iff.mp h
  simp only at h
  split at h
  case h_1 => exact nomatch h
  case h_2 after hskip =>
    split at h
    case isTrue hnext =>
      obtain ⟨_, hset, h⟩ := Option.bind_eq_some_iff.mp h
      obtain ⟨rfl, hafter⟩ := Prod.mk.inj (Option.some.inj h)
      obtain ⟨u, rfl, rfl⟩ := cons_eq_append (by decide) hafter
      obtain ⟨v, rfl, hv, hskipped⟩ := (Flags.skip_reads (u := '-' :: u) hskip).exists
      obtain ⟨w, rfl, hw, hatom⟩ :=
        (memberAtom?_reads (not_assert_of_memberSet? hset) hfirst).exists
      refine ⟨w, rfl, Nat.le_trans hv hw, fun _ k _ hk => ?_⟩
      rw [← (hk.varies u s).lone_iff] at hnext
      simp [member?, hatom k hk, hskipped k hk, hnext, hset]
    case isFalse hnext =>
      obtain ⟨⟨last, _⟩, hlast, h⟩ := Option.bind_eq_some_iff.mp h
      obtain ⟨low, hlow, h⟩ := Option.bind_eq_some_iff.mp h
      obtain ⟨high, hhigh, h⟩ := Option.bind_eq_some_iff.mp h
      obtain ⟨_, hguard, h⟩ := Option.bind_eq_some_iff.mp h
      obtain ⟨rfl, rfl⟩ := Prod.mk.inj (Option.some.inj h)
      exact range_reads hfirst hskip hnext hlast hlow hhigh (by simpa [guard] using hguard)
  case h_3 hnil hhyphen =>
    obtain ⟨_, hset, h⟩ := Option.bind_eq_some_iff.mp h
    obtain ⟨rfl, hmid⟩ := Prod.mk.inj (Option.some.inj h)
    obtain ⟨v, rfl, hv, hskipped⟩ := (Flags.skip_reads hmid).exists
    obtain ⟨w, rfl, hw, hatom⟩ :=
      (memberAtom?_reads (not_assert_of_memberSet? hset) hfirst).exists
    refine ⟨w, rfl, Nat.le_trans hv hw, fun _ k _ hk => ?_⟩
    -- what is left starts in front of the parenthesis, and with no hyphen
    obtain ⟨d, u, rfl⟩ := List.exists_cons_of_ne_nil hu
    have hd : d ≠ '-' := fun hd => hhyphen (u ++ ')' :: s) (by rw [hmid, hd]; rfl)
    have hskipped' : flags.skip (v ++ k) = d :: (u ++ k) := hskipped k hk
    simp [member?, hatom k hk, hskipped', hset, hd]

/-- Hyphens at the start of a bracket expression end in front of the parenthesis. The members so far
are carried along, and they do not depend on the end. -/
theorem leadingHyphens_reads {fuel : Nat} {m m' : Members} (hfuel : text.length < fuel)
    (h : leadingHyphens flags fuel m text = (m', u ++ ')' :: s)) :
    ReadsWithin (fun fuel => leadingHyphens flags fuel m) text (fun r => (m', r)) u s := by
  fun_induction leadingHyphens flags fuel m text with
  | case1 fuel m rest ih =>
    have hle := flags.length_skip_le rest
    simp only [List.length_cons] at hfuel
    refine (ih (by omega) h).skip.cons '-' fun _ t r ht => ?_
    rw [leadingHyphens]
    exact ht
  | case2 fuel m text hother =>
    obtain ⟨rfl, rfl⟩ := Prod.mk.inj h
    obtain ⟨fuel, rfl⟩ : ∃ f, fuel = f + 1 := ⟨fuel - 1, by omega⟩
    refine .here fun n k hk => ?_
    have hhyphen := (hk.varies u s).not_cons (by decide) fun r => hother fuel r rfl
    exact leadingHyphens.eq_2 flags n m (u ++ k) fun _ r _ hr => hhyphen r hr

/-- Whether a bracket expression starts with a circumflex, and the text behind it. -/
def setSign (flags : Flags) (text : List Char) : Bool × List Char :=
  match flags.skip text with
  | '^' :: rest => (true, flags.skip rest)
  | text => (false, text)

/-- A closing bracket in front of all members is one of them. -/
def setFirst (flags : Flags) (m : Members) (text : List Char) : Members × List Char :=
  match text with
  | ']' :: rest => if m.count = 0 then (m.push (.single ']') 0, flags.skip rest) else (m, text)
  | text => (m, text)

/-- The start of a bracket expression in its steps. Each of them is a reader, and is shown to be
local by itself. -/
theorem setStart?_eq (flags : Flags) (text : List Char) :
    setStart? flags text =
      let signed := setSign flags text
      let hyphened := leadingHyphens flags (signed.2.length + 1) {} signed.2
      let first := setFirst flags hyphened.1 hyphened.2
      (guard (!first.2.isEmpty) : Option Unit).bind fun _ =>
        some (signed.1, first.1, first.2) := rfl

/-- The circumflex of a complement is read locally. It is looked for behind blanks, and blanks are
skipped behind it. -/
theorem setSign_reads {negated : Bool} (h : setSign flags text = (negated, u ++ ')' :: s)) :
    Reads (setSign flags) text (fun r => (negated, r)) u s := by
  unfold setSign at h
  split at h
  case h_1 rest hskip =>
    obtain ⟨hnegated, hrest⟩ := Prod.mk.inj h
    refine (Flags.skip_reads hrest).skipCons hskip fun _ t m r _ ht hr => ?_
    have hr' : flags.skip m = r := hr
    simp only [setSign, ht, hr', hnegated]
  case h_2 hsign =>
    obtain ⟨hnegated, hskip⟩ := Prod.mk.inj h
    refine (reads_rest _ _).skipTo hskip
      fun _ t m r hm ht hr => ?_
    have hsign' := (hskip ▸ hm).not_cons (by decide) hsign
    obtain rfl : m = r := hr
    simp only [setSign, ht, hnegated]

/-- A closing bracket in front of all members is read locally. Whether it is one is decided by its
character and by the members so far. -/
theorem setFirst_reads {m m' : Members} (h : setFirst flags m text = (m', u ++ ')' :: s)) :
    Reads (setFirst flags m) text (fun r => (m', r)) u s := by
  unfold setFirst at h
  split at h
  case h_1 rest =>
    split at h
    case isTrue hcount =>
      -- a bracket in front of all members
      obtain ⟨hm, hrest⟩ := Prod.mk.inj h
      refine (Flags.skip_reads hrest).cons ']' fun _ t r ht => ?_
      have ht' : flags.skip t = r := ht
      simp only [setFirst, hcount, if_true, hm, ht']
    case isFalse hcount =>
      obtain ⟨rfl, hrest⟩ := Prod.mk.inj h
      rw [hrest]
      refine .here fun _ k _ => ?_
      unfold setFirst
      split
      · rw [if_neg hcount]
      · rfl
  case h_2 hbracket =>
    obtain ⟨rfl, rfl⟩ := Prod.mk.inj h
    refine .here fun _ k hk => ?_
    have hbracket' := (hk.varies u s).not_cons (by decide) hbracket
    simp only [setFirst]

/-- The start of a bracket expression, in which something follows it. The steps are put together
from the last one on. The start fails if nothing follows, so there has to be something in front of
the end. -/
theorem setStart?_reads {negated : Bool} {m : Members} (hu : u ≠ [])
    (h : setStart? flags text = some (negated, m, u ++ ')' :: s)) :
    Reads (setStart? flags) text (fun r => some (negated, m, r)) u s := by
  obtain ⟨⟨_, t₁⟩, hsign⟩ : ∃ signed, setSign flags text = signed := ⟨_, rfl⟩
  obtain ⟨⟨m₂, t₂⟩, hhyphens⟩ :
    ∃ hyphened, leadingHyphens flags (t₁.length + 1) {} t₁ = hyphened := ⟨_, rfl⟩
  obtain ⟨⟨m₃, t₃⟩, hfirst⟩ : ∃ first, setFirst flags m₂ t₂ = first := ⟨_, rfl⟩
  simp only [setStart?_eq, hsign, hhyphens, hfirst] at h
  obtain ⟨_, -, h⟩ := Option.bind_eq_some_iff.mp h
  cases h
  -- from the last step back to the first one
  obtain ⟨v₂, rfl, hv₂, hfirst'⟩ := (setFirst_reads hfirst).exists
  obtain ⟨v₁, rfl, hv₁, hhyphens'⟩ :=
    (leadingHyphens_reads (Nat.lt_succ_self _) hhyphens).fuelled.exists
  obtain ⟨v, rfl, hv, hsign'⟩ := (setSign_reads hsign).exists
  refine ⟨v, rfl, by omega, fun _ k _ hk => ?_⟩
  simp only [setStart?_eq, hsign' k hk, hhyphens' k hk, hfirst' k hk]
  simp [guard, hu]

/-- The names of ASCII classes are written in small letters. There is a case for each name. -/
theorem asciiClass?_isLower {name : String} {members : CharSet}
    (h : CharSet.asciiClass? name = some members) : name.toList.all Char.isLower = true := by
  unfold CharSet.asciiClass? at h
  split at h <;> first | rfl | exact nomatch h

/-- The name of an ASCII class up to its closing bracket, behind the sign of its complement. -/
def className? (flags : Flags) (negated : Bool) (text : List Char) :
    Option (Bool × CharSet × List Char) :=
  match text.dropWhile (· != ':') with
  | ':' :: ']' :: rest => do
    let named ← CharSet.asciiClass? (String.ofList (text.takeWhile (· != ':')))
    return (negated, flags.fold named, rest)
  | _ => none

/-- The name of a class is written in lower-case letters, so it has no parenthesis. What is read is
then the same with any text behind it, not only with a parenthesis or the end. -/
theorem className?_cases {negated : Bool} {named : Bool × CharSet × List Char}
    (h : className? flags negated text = some named) :
    ∃ w, ')' ∉ w ∧ text = w ++ named.2.2 ∧
      ∀ t, className? flags negated (w ++ t) = some (named.1, named.2.1, t) := by
  unfold className? at h
  split at h
  case h_2 => exact nomatch h
  case h_1 after hafter =>
    obtain ⟨members, hmembers, h⟩ := Option.bind_eq_some_iff.mp h
    obtain rfl := Option.some.inj h
    generalize hname : text.takeWhile (· != ':') = name at hmembers
    -- all names are tried once; after that only their letters matter
    have hlower : ∀ c ∈ name, c.isLower = true := by simpa using asciiClass?_isLower hmembers
    have hcolon : ∀ c ∈ name, (c != ':') = true := by
      intro c hc
      refine bne_iff_ne.mpr ?_
      rintro rfl
      exact nomatch hlower _ hc
    refine ⟨name ++ [':', ']'], ?_, ?_, fun t => ?_⟩
    · intro hclosing
      have hmem : ')' ∈ name := by simpa using hclosing
      exact nomatch hlower _ hmem
    · rw [List.append_assoc, ← hname]
      exact (List.takeWhile_append_dropWhile.symm).trans (by rw [hafter]; rfl)
    · rw [className?, List.append_assoc, List.dropWhile_append_of_pos hcolon,
        List.takeWhile_append_of_pos hcolon]
      simp [hmembers]

/-- A class without a circumflex is read by its name. This is the second branch of the match on the
sign. -/
theorem namedClass?_of_not_negated (h : ∀ r, text = '^' :: r → False) :
    namedClass? flags (':' :: text) = className? flags false text := by
  cases text with
  | nil => rfl
  | cons c rest =>
    have hc : c ≠ '^' := fun hc => h rest (by rw [hc])
    simp only [namedClass?]
    rfl

/-- A named class has no parenthesis. Neither have the colons and the circumflex around its name. -/
theorem namedClass?_cases {named : Bool × CharSet × List Char}
    (h : namedClass? flags text = some named) :
    ∃ w, ')' ∉ w ∧ text = w ++ named.2.2 ∧
      ∀ t, namedClass? flags (w ++ t) = some (named.1, named.2.1, t) := by
  have hcolon : ∃ rest, text = ':' :: rest := by
    unfold namedClass? at h
    split at h
    · exact ⟨_, rfl⟩
    · exact nomatch h
  obtain ⟨text, rfl⟩ := hcolon
  by_cases hsign : ∃ rest, text = '^' :: rest
  · obtain ⟨rest, rfl⟩ := hsign
    have hnamed : className? flags true rest = some named := h
    obtain ⟨w, hw, rfl, hclass⟩ := className?_cases hnamed
    exact ⟨':' :: '^' :: w, by simp [hw], rfl, hclass⟩
  · rw [namedClass?_of_not_negated fun r hr => hsign ⟨r, hr⟩] at h
    obtain ⟨w, hw, rfl, hclass⟩ := className?_cases h
    cases w with
    -- an empty text is no class
    | nil => exact nomatch hclass []
    | cons c w =>
      refine ⟨':' :: c :: w, by simpa using hw, rfl, fun t => ?_⟩
      rw [← hclass t]
      refine namedClass?_of_not_negated fun r hr => hsign ⟨w ++ named.2.2, ?_⟩
      obtain ⟨rfl, -⟩ := List.cons.inj hr
      rfl

/-- A named class is read locally. -/
theorem namedClass?_reads {negated : Bool} {members : CharSet}
    (h : namedClass? flags text = some (negated, members, u ++ ')' :: s)) :
    Reads (namedClass? flags) text (fun r => some (negated, members, r)) u s := by
  obtain ⟨w, -, rfl, hclass⟩ := namedClass?_cases h
  refine ⟨w ++ u, by simp, by simp, fun _ k _ _ => ?_⟩
  rw [List.append_assoc]
  exact hclass (u ++ k)

/-- Whether a bracket starts a named class is decided in front of the parenthesis. A class that is
read with one end has no parenthesis, so it is in front of it and is read with the other end as
well. -/
theorem Varies.namedClass?_eq_none {a b : List Char} (h : Varies a b)
    (ha : namedClass? flags a = none) : namedClass? flags b = none := by
  obtain ⟨v, s, k, hk, rfl, rfl⟩ := h
  cases hb : namedClass? flags (v ++ k) with
  | none => rfl
  | some named =>
    obtain ⟨w, hw, hprefix, hclass⟩ := namedClass?_cases hb
    obtain ⟨t, ht⟩ := (hk.prefix_iff w v hw).mp ⟨_, hprefix.symm⟩
    rw [← ht, hclass t] at ha
    exact nomatch ha

/-- A bracket that is not closed is refused at the end of the text. -/
theorem setBody?_nil (fuel : Nat) (o : OpenSet) (around : List OpenSet) (m : Members) :
    setBody? flags fuel o around m [] = none := by
  have hskip : flags.skip [] = [] := by simp [Flags.skip, skipBlanks]
  cases fuel with
  | zero => rfl
  | succ fuel => rw [setBody?, hskip]

/-- The rest of a bracket expression. The induction is on the fuel, with a case for each kind of
member, for the operators and for the closing bracket. A bracket inside goes on with the one around
it, so the stack of open brackets is general in the induction. -/
theorem setBody?_reads {fuel depth : Nat} {o : OpenSet} {around : List OpenSet} {m : Members}
    {members : CharSet}
    (h : setBody? flags fuel o around m text = some (members, depth, u ++ ')' :: s)) :
    ReadsWithin (fun fuel => setBody? flags fuel o around m) text
      (fun r => some (members, depth, r)) u s := by
  induction fuel generalizing o around m text with
  | zero => exact nomatch h
  | succ fuel ih =>
    -- what is left behind a part cannot be empty: the expression would not be closed
    have hnil : ∀ (o : OpenSet) (around : List OpenSet) (m : Members) (n : Nat),
        setBody? flags n o around m [] ≠ some (members, depth, []) := fun o around m n => by
      rw [setBody?_nil]
      exact fun h => nomatch h
    simp only [setBody?] at h
    split at h
    case h_1 => exact nomatch h
    -- a bracket starts a named class or an expression inside
    case h_2 rest hskip =>
      split at h
      case h_1 negated named rest' hnamed =>
        obtain ⟨member, hmember, h⟩ := Option.bind_eq_some_iff.mp h
        refine (ih h).token (w := ['[']) (fun v hv => namedClass?_reads (hv ▸ hnamed)) hskip
          (List.cons_ne_nil _ _) fun n t m m' r _ ht hr hf => ?_
        simpa [setBody?, ht, hr, hmember] using hf
      case h_2 hnamed =>
        obtain ⟨⟨negated, inner, rest'⟩, hstart, h⟩ := Option.bind_eq_some_iff.mp h
        simp only at h
        refine (ih h).token (w := ['[']) (fun v hv => setStart?_reads
          ((hv ▸ ih h).ne_nil (hnil _ _ _)) (hv ▸ hstart)) hskip
          (List.cons_ne_nil _ _) fun n t m m' r hm ht hr hf => ?_
        simpa [setBody?, ht, hr, hm.namedClass?_eq_none hnamed] using hf
    -- a closing bracket ends all of it, or an expression inside
    case h_3 rest hskip =>
      obtain ⟨closed, hclosed, h⟩ := Option.bind_eq_some_iff.mp h
      split at h
      case h_1 =>
        cases h
        refine (reads_rest _ _).skipCons hskip
          fun n t m r _ ht hr => ?_
        obtain rfl : m = r := hr
        simp [setBody?, ht, hclosed]
      case h_2 =>
        refine (ih h).skipCons hskip fun n t m r _ ht hr => ?_
        simpa [setBody?, ht, hclosed] using hr
    -- an operator is two characters
    case h_4 rest hskip | h_5 rest hskip | h_6 rest hskip =>
      refine (ih h).skipTake [_, _] (List.cons_ne_nil _ _) hskip fun n t m r _ ht hr => ?_
      simpa [setBody?, ht] using hr
    case h_7 hnil' hopen hclose hinter hdiff hsymm =>
      obtain ⟨⟨member, rest⟩, hmember, h⟩ := Option.bind_eq_some_iff.mp h
      simp only at h
      cases hskip : flags.skip text with
      | nil => exact (hnil' hskip).elim
      | cons c tail =>
        rw [hskip] at hmember hopen hclose hinter hdiff hsymm
        refine (ih h).token (w := [c]) (fun v hv => member?_reads
          ((hv ▸ ih h).ne_nil (hnil _ _ _)) (hv ▸ hmember)) hskip
          (List.cons_ne_nil _ _) fun n t m m' r hm ht hr hf => ?_
        -- with another end the text still starts with a member
        have hopen' := (hm.cons c).not_cons (by decide) hopen
        have hclose' := (hm.cons c).not_cons (by decide) hclose
        have hinter' := (hm.cons c).not_cons_cons (by decide) (by decide) hinter
        have hdiff' := (hm.cons c).not_cons_cons (by decide) (by decide) hdiff
        have hsymm' := (hm.cons c).not_cons_cons (by decide) (by decide) hsymm
        simp only [setBody?, ht, List.singleton_append]
        simp [hr, hf]

/-- A bracket expression is read locally. Its start is followed by its members or its closing
bracket, as an unclosed one is refused, so `setStart?_reads` applies. -/
theorem set?_reads {members : CharSet} {depth : Nat}
    (h : set? flags text = some (members, depth, u ++ ')' :: s)) :
    Reads (set? flags) text (fun r => some (members, depth, r)) u s := by
  obtain ⟨⟨negated, m, rest⟩, hstart, h⟩ := Option.bind_eq_some_iff.mp h
  have hbody := (setBody?_reads h).fuelled
  have hnil : setBody? flags 1 ⟨{}, negated, none⟩ [] m [] ≠ some (members, depth, []) := by
    rw [setBody?_nil]
    exact fun h => nomatch h
  refine hbody.after (fun v hv => setStart?_reads ((hv ▸ hbody).ne_nil fun _ => hnil)
    (hv ▸ hstart)) fun _ t r r' _ ht hr => ?_
  simpa [set?, ht] using hr

/-! ### Groups and flags -/

/-- The flags of a group are read locally. They end with a colon or a parenthesis of their own,
which the reader takes. -/
theorem flagItems?_reads {seen items : List (Option Char)} {stop : Char}
    (h : flagItems? seen text = some (items, stop, u ++ ')' :: s)) :
    Reads (flagItems? seen) text (fun r => some (items, stop, r)) u s := by
  induction text generalizing seen with
  | nil => exact nomatch h
  | cons c rest ih =>
    rw [flagItems?] at h
    split at h
    case isTrue hstop =>
      split at h
      · exact nomatch h
      case isFalse hseen =>
        simp only [Option.some.injEq, Prod.mk.injEq] at h
        obtain ⟨rfl, rfl, rfl⟩ := h
        refine (reads_rest _ _).cons c fun _ t r ht => ?_
        obtain rfl : t = r := ht
        rw [flagItems?, if_pos hstop, if_neg hseen]
    case isFalse hstop =>
      simp only at h
      generalize hitem : (if c = '-' then none else some c) = item at h
      split at h
      · exact nomatch h
      case isFalse hseen =>
        split at h
        case isTrue hflag =>
          -- a flag, and the others behind it
          refine (ih h).cons c fun _ t r ht => ?_
          simp only [flagItems?, if_neg hstop, hitem, if_neg hseen, if_pos hflag]
          exact ht
        · exact nomatch h

/-- The name of a group is read locally. It ends with its angle bracket. -/
theorem groupName?_reads {done : List Char} {name : String}
    (h : groupName? done text = some (name, u ++ ')' :: s)) :
    Reads (groupName? done) text (fun r => some (name, r)) u s := by
  induction text generalizing done with
  | nil => exact nomatch h
  | cons c rest ih =>
    rw [groupName?] at h
    split at h
    case isTrue hstop =>
      split at h
      · exact nomatch h
      case isFalse hdone =>
        cases h
        refine (reads_rest _ _).cons c fun _ t r ht => ?_
        obtain rfl : t = r := ht
        rw [groupName?, if_pos hstop, if_neg hdone]
    case isFalse hstop =>
      split at h
      case isTrue hname =>
        refine (ih h).cons c fun _ t r ht => ?_
        rw [groupName?, if_neg hstop, if_pos hname]
        exact ht
      · exact nomatch h

/-- What follows an opening parenthesis. The kinds of groups are told apart by the characters behind
the question mark, and look-around is refused before anything else. -/
theorem opening?_reads {opened : Opening}
    (h : opening? flags text = some (opened, u ++ ')' :: s)) :
    Reads (opening? flags) text (fun r => some (opened, r)) u s := by
  unfold opening? at h
  split at h
  case h_1 | h_2 | h_3 | h_4 => exact nomatch h
  -- a name, in either spelling
  case h_5 rest hskip =>
    obtain ⟨⟨name, _⟩, hname, h⟩ := Option.map_eq_some_iff.mp h
    cases h
    refine (groupName?_reads hname).skipTake ['?', 'P', '<'] (List.cons_ne_nil _ _) hskip
      fun _ t m r hm ht hr => ?_
    simp [opening?, ht, hr]
  case h_6 rest hlook hlook' hskip =>
    obtain ⟨⟨name, _⟩, hname, h⟩ := Option.map_eq_some_iff.mp h
    cases h
    refine (groupName?_reads hname).skipTake ['?', '<'] (List.cons_ne_nil _ _) hskip
      fun _ t m r hm ht hr => ?_
    have hlook₁ := hm.not_cons (by decide) hlook
    have hlook₂ := hm.not_cons (by decide) hlook'
    simp only [opening?, ht, List.cons_append, List.nil_append]
    simp [hr]
  -- flags, up to the colon of a group or the parenthesis of a directive
  case h_7 rest h₁ h₂ h₃ h₄ h₅ h₆ hskip =>
    obtain ⟨⟨items, stop, rest'⟩, hitems, h⟩ := Option.bind_eq_some_iff.mp h
    simp only at h
    have hrest : rest' = u ++ ')' :: s ∧ ∀ r : List Char, (if stop = ')' then
        if items.isEmpty then none else some (.directive (flags.apply true items), r)
        else some (Opening.group (flags.apply true items) false, r)) = some (opened, r) := by
      split at h
      · split at h
        · exact nomatch h
        · obtain ⟨rfl, rfl⟩ := Prod.mk.inj (Option.some.inj h)
          simp_all
      · obtain ⟨rfl, rfl⟩ := Prod.mk.inj (Option.some.inj h)
        simp_all
    obtain ⟨rfl, hopened⟩ := hrest
    refine (flagItems?_reads hitems).skipCons hskip fun _ t m r hm ht hr => ?_
    have h₁' := hm.not_cons (by decide) h₁
    have h₂' := hm.not_cons (by decide) h₂
    have h₃' := hm.not_cons_cons (by decide) (by decide) h₃
    have h₄' := hm.not_cons_cons (by decide) (by decide) h₄
    have h₅' := hm.not_cons_cons (by decide) (by decide) h₅
    have h₆' := hm.not_cons (by decide) h₆
    simp only [opening?, ht]
    simpa [hr] using hopened r
  -- no question mark: the group starts at once
  case h_8 h₁ h₂ h₃ h₄ h₅ h₆ hmark =>
    obtain ⟨rfl, hskip⟩ := Prod.mk.inj (Option.some.inj h)
    refine (reads_rest _ _).skipTo hskip
      fun _ t m r hm ht hr => ?_
    have hmark' := (hskip ▸ hm).not_cons (by decide) hmark
    obtain rfl : m = r := hr
    cases m with
    | nil => simp [opening?, ht]
    | cons c m =>
      have hc : c ≠ '?' := fun hc => hmark' m (by rw [hc])
      simp [opening?, ht, hc]

/-! ### Repetition -/

/-- The mark of a lazy repetition is read locally. A parenthesis and the end of the text both stand
for a greedy one. -/
theorem laziness_reads {greedy : Bool} (h : laziness text = (greedy, u ++ ')' :: s)) :
    Reads laziness text (fun r => (greedy, r)) u s := by
  unfold laziness at h
  split at h
  case h_1 rest =>
    obtain ⟨rfl, rfl⟩ := Prod.mk.inj h
    exact (reads_rest _ _).cons '?' fun _ t r ht => by
      obtain rfl : t = r := ht
      rfl
  case h_2 hmark =>
    obtain ⟨rfl, rfl⟩ := Prod.mk.inj h
    refine .here fun _ k hk => ?_
    have hmark' := (hk.varies u s).not_cons (by decide) hmark
    simp only [laziness]

/-- The greatest count of a repetition, behind its least one. -/
def greatest? (flags : Flags) (least : Nat) (text : List Char) : Option (Option Nat × List Char) :=
  match text with
  | ',' :: rest =>
    match flags.skip rest with
    | '\x7d' :: rest => some (none, '\x7d' :: rest)
    | rest => (count? flags rest).bind fun read => read.1.map fun most => (some most, read.2)
  | rest => some (some least, rest)

/-- The end of a counted repetition, from its closing brace on. -/
def repetition? (flags : Flags) (least : Nat) (most : Option Nat) (text : List Char) :
    Option (Repetition × List Char) :=
  match text with
  | '\x7d' :: rest => do
    guard (most.all (least ≤ ·))
    let (greedy, rest) := laziness (flags.skip rest)
    return (⟨least, most, greedy⟩, rest)
  | _ => none

/-- A counted repetition in its steps. The least count, the greatest count and the closing brace are
read one after the other, and each can fail. -/
theorem counted?_eq (flags : Flags) (text : List Char) :
    counted? flags text = (count? flags (flags.skip text)).bind fun read =>
      read.1.bind fun least => (greatest? flags least read.2).bind fun read' =>
        repetition? flags least read'.1 read'.2 := by
  simp only [counted?]
  congr 1
  funext ⟨value, rest⟩
  congr 1
  funext least
  unfold greatest?
  dsimp only
  split
  · split
    case h_1 => simp [*, repetition?]
    case h_2 hbrace =>
      simp only [repetition?]
      rcases count? flags (flags.skip _) with _ | ⟨_ | _, _⟩ <;> rfl
  · simp only [repetition?]
    rfl

/-- The greatest count is read locally: it is behind a comma, or left out there, or the same as the
least one where no comma is. -/
theorem greatest?_reads {least : Nat} {most : Option Nat}
    (h : greatest? flags least text = some (most, u ++ ')' :: s)) :
    Reads (greatest? flags least) text (fun r => some (most, r)) u s := by
  unfold greatest? at h
  split at h
  case h_1 rest =>
    have hafter : Reads (fun t => greatest? flags least (',' :: t)) rest
        (fun r => some (most, r)) u s := by
      split at h
      case h_1 rest' hskip =>
        -- no greatest count
        obtain ⟨hmost, hu⟩ := Prod.mk.inj (Option.some.inj h)
        refine (reads_rest _ _).skipTo (hskip.trans hu)
          fun _ t m r hm ht hr => ?_
        obtain ⟨m, rfl, -⟩ := (hu ▸ hm).eq_cons (by decide)
        obtain rfl : '\x7d' :: m = r := hr
        simp [greatest?, ht, hmost]
      case h_2 hbrace =>
        -- one behind the comma
        obtain ⟨⟨_, _⟩, hread, h⟩ := Option.bind_eq_some_iff.mp h
        obtain ⟨count, rfl, h⟩ := Option.map_eq_some_iff.mp h
        obtain ⟨rfl, rfl⟩ := Prod.mk.inj h
        refine (count?_reads hread).skipTo rfl fun _ t m r hm ht hr => ?_
        have hbrace' := hm.not_cons (by decide) hbrace
        simp only [greatest?, ht]
        simp [hr]
    exact hafter.cons ',' fun _ t r ht => ht
  case h_2 hcomma =>
    -- no comma, so the least count is the greatest one too
    obtain ⟨rfl, rfl⟩ := Prod.mk.inj (Option.some.inj h)
    refine .here fun _ k hk => ?_
    have hcomma' := (hk.varies u s).not_cons (by decide) hcomma
    simp only [greatest?]

/-- The closing brace of a counted repetition is read locally, with the mark of a lazy one. The two
counts are compared here, and they do not depend on the end. -/
theorem repetition?_reads {least : Nat} {most : Option Nat} {r : Repetition}
    (h : repetition? flags least most text = some (r, u ++ ')' :: s)) :
    Reads (repetition? flags least most) text (fun t => some (r, t)) u s := by
  unfold repetition? at h
  split at h
  case h_2 => exact nomatch h
  case h_1 rest =>
    obtain ⟨_, hguard, h⟩ := Option.bind_eq_some_iff.mp h
    obtain ⟨⟨greedy, rest'⟩, hlazy⟩ : ∃ read, laziness (flags.skip rest) = read := ⟨_, rfl⟩
    rw [hlazy] at h
    obtain ⟨hr, rfl⟩ := Prod.mk.inj (Option.some.inj h)
    refine (laziness_reads hlazy).skip.cons '\x7d' fun _ t r' ht => ?_
    simp only [repetition?, hguard, ht, hr]
    rfl

/-- A counted repetition, after its opening brace. The three steps are put together from the last
one to the first one. -/
theorem counted?_reads {r : Repetition} (h : counted? flags text = some (r, u ++ ')' :: s)) :
    Reads (counted? flags) text (fun t => some (r, t)) u s := by
  rw [counted?_eq] at h
  obtain ⟨⟨_, rest⟩, hleast, h⟩ := Option.bind_eq_some_iff.mp h
  obtain ⟨least, rfl, h⟩ := Option.bind_eq_some_iff.mp h
  obtain ⟨⟨most, rest'⟩, hmost, h⟩ := Option.bind_eq_some_iff.mp h
  obtain ⟨v₁, rfl, hv₁, hrepetition⟩ := (repetition?_reads h).exists
  obtain ⟨v₂, rfl, hv₂, hmost'⟩ := (greatest?_reads hmost).exists
  obtain ⟨v₃, rfl, hv₃, hleast'⟩ := (count?_reads hleast).skip.exists
  refine ⟨v₃, rfl, by omega, fun _ k _ hk => ?_⟩
  simp [counted?_eq, hleast' k hk, hmost' k hk, hrepetition k hk]

/-- What is counted stands in front of the parenthesis. At least the closing brace does, so a brace
that counts is never cut off. -/
theorem counted?_filled {r : Repetition} (h : counted? flags text = some (r, u ++ ')' :: s)) :
    ∃ c v, flags.skip text = c :: (v ++ ')' :: s) := by
  rw [counted?_eq] at h
  obtain ⟨⟨_, rest⟩, hleast, h⟩ := Option.bind_eq_some_iff.mp h
  obtain ⟨least, rfl, h⟩ := Option.bind_eq_some_iff.mp h
  obtain ⟨⟨most, rest'⟩, hmost, h⟩ := Option.bind_eq_some_iff.mp h
  obtain ⟨v₁, rfl, -, -⟩ := (repetition?_reads h).exists
  obtain ⟨v₂, rfl, -, -⟩ := (greatest?_reads hmost).exists
  have hcount := count?_reads hleast
  obtain ⟨v, hskip, -⟩ := hcount.exists
  rw [hskip] at hcount ⊢
  have hnone : count? flags [] ≠ some (some least, []) := by
    simp [count?, decimalDigits]
  obtain ⟨c, v, rfl⟩ := List.exists_cons_of_ne_nil (hcount.ne_nil fun _ => hnone)
  exact ⟨c, v, rfl⟩

/-! ### Items -/

/-- A part of a sequence that is no group, branch or repetition. By its first character it is a
bracket expression, an escape, the dot, an assertion or a literal. Only an escape looks at a brace
behind it. -/
theorem item?_reads {c : Char} {item : Item} (hfilled : BraceFilled flags u s)
    (h : item? flags (c :: rest) = some (item, u ++ ')' :: s)) :
    Reads (fun t => item? flags (c :: t)) rest (fun r => some (item, r)) u s := by
  unfold item? at h
  split at h
  case h_1 hnil => exact nomatch hnil
  case h_2 rest' heq =>
    -- a bracket expression
    obtain ⟨rfl, rfl⟩ := List.cons.inj heq
    obtain ⟨⟨members, depth, _⟩, hset, h⟩ := Option.bind_eq_some_iff.mp h
    cases h
    exact (set?_reads hset).imp fun _ t r ht => by simp [item?, ht]
  case h_3 rest' heq =>
    -- an escape, which may look at a brace behind it
    obtain ⟨rfl, rfl⟩ := List.cons.inj heq
    obtain ⟨⟨atom, _⟩, hatom, h⟩ := Option.bind_eq_some_iff.mp h
    obtain ⟨r, hr, h⟩ := Option.bind_eq_some_iff.mp h
    cases h
    cases rest with
    | nil => exact nomatch hatom
    | cons d rest =>
      exact (escape?_reads (fun _ _ => hfilled) hatom).cons d fun _ t r' ht => by
        simp [item?, ht, hr]
  case h_4 rest' heq =>
    -- the dot
    obtain ⟨rfl, rfl⟩ := List.cons.inj heq
    obtain ⟨members, hdot, h⟩ := Option.bind_eq_some_iff.mp h
    cases h
    exact .here fun _ k _ => by simp [item?, hdot]
  case h_5 rest' heq | h_6 rest' heq =>
    -- an assertion of a line
    obtain ⟨rfl, rfl⟩ := List.cons.inj heq
    cases h
    exact .here fun _ k _ => by simp [item?]
  case h_7 d rest' h₁ h₂ h₃ h₄ h₅ heq =>
    -- a literal
    obtain ⟨rfl, rfl⟩ := List.cons.inj heq
    obtain ⟨r, hr, h⟩ := Option.bind_eq_some_iff.mp h
    cases h
    exact .here fun _ k _ => by simp [item?, hr]

end

end Polyglot.Regex
