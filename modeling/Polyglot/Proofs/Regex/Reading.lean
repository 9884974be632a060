import Mathlib
import Polyglot.Regex.Parser

/-!
# `Polyglot.Proofs.Regex.Reading`: the parts of a pattern are read locally

The parser of patterns is a row of readers: each takes its part from the start of a text and hands
on the rest. Most of them look ahead, so what a reader does could depend on text that it leaves
alone. It does not depend on it where a group may end: if a reader stops at or in front of a
parenthesis, it stops there with the same result when the text ends in place of the parenthesis, or
when other text follows it (`Reads`, `ReadsWithin`).

The statement goes backwards: from where a reader stops to where it started. So readers in a row
are taken from the last one to the first one, and the text in front of the parenthesis grows by
what each of them has read. `ReadsWithin.cons`, `ReadsWithin.after` and `ReadsWithin.token` are the
ways in which readers are put together. A reader that chooses by the next characters chooses the
same with any end, since a parenthesis is none of the characters that it looks for (`Varies`).

This module has blanks, numbers and escapes. The one exception is a word boundary, which looks for
a name in a brace behind it without taking the brace (`BraceFilled`).
-/

set_option autoImplicit false

namespace Polyglot.Regex

/-- What may stand behind a complete part of a pattern: nothing, or a closing parenthesis. -/
inductive Ends : List Char → Prop where
  /-- The end of the pattern. -/
  | nil : Ends []
  /-- The end of a group. -/
  | closing (rest : List Char) : Ends (')' :: rest)

/-- On `text`, a reader stops at `u` in front of a parenthesis that `s` follows, with the answer
`out` for what is left; and it does the same when anything that `Ends` takes the place of the
parenthesis, with any fuel that lasts to there. -/
def ReadsWithin {β : Type} (f : Nat → List Char → β) (text : List Char) (out : List Char → β)
    (u s : List Char) : Prop :=
  ∃ v, text = v ++ ')' :: s ∧ u.length ≤ v.length ∧
    ∀ n k, v.length < n → Ends k → f n (v ++ k) = out (u ++ k)

/-- The same for a reader that takes no fuel. -/
abbrev Reads {β : Type} (f : List Char → β) (text : List Char) (out : List Char → β)
    (u s : List Char) : Prop :=
  ReadsWithin (fun _ => f) text out u s

section
variable {β γ δ : Type} {u s k text rest : List Char} {flags : Flags}

/-! ### Texts with another end -/

/-- Whether a text starts with given characters does not depend on how it ends, if there is no
parenthesis among them. The characters are used up in front of the end, or the end decides against
them in both texts. -/
theorem Ends.prefix_iff (hk : Ends k) : ∀ (w u : List Char), ')' ∉ w →
    (w <+: u ++ k ↔ w <+: u ++ ')' :: s)
  | [], u, _ => by simp
  | c :: w, [], hw => by
    have hc : c ≠ ')' := fun h => hw (h ▸ List.mem_cons_self)
    cases hk with
    | nil => simp [hc]
    | closing rest => simp [List.cons_prefix_cons, hc]
  | c :: w, d :: u, hw => by
    have hw' : ')' ∉ w := fun h => hw (List.mem_cons_of_mem c h)
    simp only [List.cons_append, List.cons_prefix_cons]
    rw [Ends.prefix_iff hk w u hw']

/-- A first character other than the parenthesis stands in front of it. What a reader has taken at
the start then belongs to the part that is kept. -/
theorem cons_eq_append {c : Char} (hc : c ≠ ')') (h : c :: rest = u ++ ')' :: s) :
    ∃ v, u = c :: v ∧ rest = v ++ ')' :: s := by
  cases u with
  | nil => exact absurd (List.cons.inj h).1 hc
  | cons d v =>
    obtain ⟨rfl, hrest⟩ := List.cons.inj h
    exact ⟨v, rfl, hrest⟩

/-- A text and the same text with another end: they agree in front of some parenthesis. -/
def Varies (a b : List Char) : Prop := ∃ v s k, Ends k ∧ a = v ++ ')' :: s ∧ b = v ++ k

/-- A text in front of a parenthesis varies to the same text with any end. -/
theorem Ends.varies (hk : Ends k) (u s : List Char) : Varies (u ++ ')' :: s) (u ++ k) :=
  ⟨u, s, k, hk, rfl, rfl⟩

/-- A text starts with a character with any end or with none. This is stated in the negative, as the
patterns of a reader leave a hypothesis of this form behind where they do not match. -/
theorem Varies.not_cons {a b : List Char} (h : Varies a b) {c : Char} (hc : c ≠ ')')
    (ha : ∀ r, a = c :: r → False) (r : List Char) (hb : b = c :: r) : False := by
  obtain ⟨v, s, k, hk, rfl, rfl⟩ := h
  have hp : [c] <+: v ++ ')' :: s := (hk.prefix_iff [c] v (by simpa using hc.symm)).mp ⟨r, hb.symm⟩
  obtain ⟨t, ht⟩ := hp
  exact ha t ht.symm

/-- A first character other than the parenthesis is the same with any end. What is behind it varies
again. -/
theorem Varies.eq_cons {a b : List Char} {c : Char} (h : Varies (c :: a) b) (hc : c ≠ ')') :
    ∃ b', b = c :: b' ∧ Varies a b' := by
  obtain ⟨v, s, k, hk, hv, rfl⟩ := h
  obtain ⟨w, rfl, rfl⟩ := cons_eq_append hc hv
  exact ⟨w ++ k, rfl, w, s, k, hk, rfl, rfl⟩

/-- A character in front of two texts that agree. This undoes `Varies.eq_cons`. -/
theorem Varies.cons {a b : List Char} (h : Varies a b) (c : Char) : Varies (c :: a) (c :: b) := by
  obtain ⟨v, s, k, hk, rfl, rfl⟩ := h
  exact ⟨c :: v, s, k, hk, rfl, rfl⟩

/-- A text starts with two characters with any end or with none. Set operators are looked for in
this way. -/
theorem Varies.not_cons_cons {a b : List Char} (h : Varies a b) {c d : Char} (hc : c ≠ ')')
    (hd : d ≠ ')') (ha : ∀ r, a = c :: d :: r → False) (r : List Char) (hb : b = c :: d :: r) :
    False := by
  obtain ⟨v, s, k, hk, rfl, rfl⟩ := h
  have hp : [c, d] <+: v ++ ')' :: s :=
    (hk.prefix_iff [c, d] v (by simp [hc.symm, hd.symm])).mp ⟨r, hb.symm⟩
  obtain ⟨t, ht⟩ := hp
  exact ha t ht.symm

/-! ### Readers put together -/

/-- A reader that leaves all of its text. Readers that find nothing for themselves at the start do
this. -/
theorem ReadsWithin.here {f : Nat → List Char → β} {out : List Char → β}
    (h : ∀ n k, Ends k → f n (u ++ k) = out (u ++ k)) :
    ReadsWithin f (u ++ ')' :: s) out u s :=
  ⟨u, rfl, Nat.le_refl _, fun n k _ hk => h n k hk⟩

/-- A reader that stops at the first character that it does not take, and takes no parenthesis. At
the end of the text it has to stop with the same answer. Runs of digits and names end in this way.
-/
theorem ReadsWithin.stop {f : Nat → List Char → β} {out : List Char → β} (takes : Char → Prop)
    {c : Char} (hc : ¬ takes c) (htext : c :: rest = u ++ ')' :: s) (hclosing : ¬ takes ')')
    (hnil : ∀ n, f n [] = out []) (hcons : ∀ n d r, ¬ takes d → f n (d :: r) = out (d :: r)) :
    ReadsWithin f (c :: rest) out u s := by
  rw [htext]
  refine .here fun n k hk => ?_
  cases u with
  | nil =>
    cases hk with
    | nil => exact hnil n
    | closing rest => exact hcons n ')' rest hclosing
  | cons d v =>
    obtain ⟨rfl, -⟩ := List.cons.inj htext
    exact hcons n c (v ++ k) hc

/-- What a reader that takes no fuel does in front of any end. The fuel in the definition is chosen
here once and for all. -/
theorem ReadsWithin.exists {f : List Char → β} {out : List Char → β} (h : Reads f text out u s) :
    ∃ v, text = v ++ ')' :: s ∧ u.length ≤ v.length ∧ ∀ k, Ends k → f (v ++ k) = out (u ++ k) := by
  obtain ⟨v, hv, hlength, hf⟩ := h
  exact ⟨v, hv, hlength, fun k hk => hf (v.length + 1) k (Nat.lt_succ_self _) hk⟩

/-- A reader that does as another one. The other answer may be of another type, so this also renames
results. -/
theorem ReadsWithin.imp {f : Nat → List Char → β} {out : List Char → β}
    {g : Nat → List Char → γ} {out' : List Char → γ} (h : ReadsWithin f text out u s)
    (hg : ∀ n t r, f n t = out r → g n t = out' r) : ReadsWithin g text out' u s := by
  obtain ⟨v, hv, hlength, hf⟩ := h
  exact ⟨v, hv, hlength, fun n k hn hk => hg n (v ++ k) (u ++ k) (hf n k hn hk)⟩

/-- A reader that does as another one and takes the next character too. That character was among
what the other one left. -/
theorem ReadsWithin.tail {c : Char} {f : Nat → List Char → β} {out : List Char → β}
    {g : Nat → List Char → γ} {out' : List Char → γ} (h : ReadsWithin f text out (c :: u) s)
    (hg : ∀ n t r, f n t = out (c :: r) → g n t = out' r) : ReadsWithin g text out' u s := by
  obtain ⟨v, hv, hlength, hf⟩ := h
  exact ⟨v, hv, Nat.le_of_succ_le hlength, fun n k hn hk => hg n (v ++ k) (u ++ k) (hf n k hn hk)⟩

/-- What is left of a text. This is the reader at the end of every row. -/
theorem reads_rest (u s : List Char) : Reads id (u ++ ')' :: s) id u s := .here fun _ _ _ => rfl

/-- A reader that takes one character and then does as another one. The character costs one unit of
fuel, which it pays for by its length. -/
theorem ReadsWithin.cons {f : Nat → List Char → β} {out : List Char → β}
    {g : Nat → List Char → γ} {out' : List Char → γ} (h : ReadsWithin f rest out u s) (c : Char)
    (hg : ∀ n t r, f n t = out r → g (n + 1) (c :: t) = out' r) :
    ReadsWithin g (c :: rest) out' u s := by
  obtain ⟨v, rfl, hv, hf⟩ := h
  refine ⟨c :: v, rfl, Nat.le_succ_of_le hv, fun n k hn hk => ?_⟩
  obtain ⟨n, rfl⟩ : ∃ m, n = m + 1 := ⟨n - 1, by simp at hn; omega⟩
  exact hg n (v ++ k) (u ++ k) (hf n k (by simpa using hn) hk)

/-- A reader that reads on where another one stops. Of the two, the later one is given first: it
says where the text in front of the parenthesis ends, and the earlier one is asked to stop in front
of it. The text in between varies with the end, which is handed on to what has to be shown of the
row. -/
theorem ReadsWithin.after {mid : List Char} {p : Nat → List Char → β} {q : List Char → β}
    {f : Nat → List Char → γ} {out : List Char → γ} {g : Nat → List Char → δ}
    {out' : List Char → δ} (h : ReadsWithin f mid out u s)
    (hp : ∀ v, mid = v ++ ')' :: s → ReadsWithin p text q v s)
    (hg : ∀ n t m r, Varies mid m → p n t = q m → f n m = out r → g n t = out' r) :
    ReadsWithin g text out' u s := by
  obtain ⟨v, hmid, hv, hf⟩ := h
  obtain ⟨w, rfl, hw, hr⟩ := hp v hmid
  refine ⟨w, rfl, Nat.le_trans hv hw, fun n k hn hk => ?_⟩
  exact hg n (w ++ k) (v ++ k) (u ++ k) ⟨v, s, k, hk, hmid, rfl⟩ (hr n k hn hk)
    (hf n k (by omega) hk)

/-- A reader that needs a character does not stop in front of all of its text. With nothing in front
of the end it would have to give its answer on the empty text. -/
theorem ReadsWithin.ne_nil {v : List Char} {f : Nat → List Char → β} {out : List Char → β}
    (h : ReadsWithin f (v ++ ')' :: s) out u s) (hf : ∀ n, f n [] ≠ out []) : v ≠ [] := by
  rintro rfl
  obtain ⟨v, hv, hlength, hread⟩ := h
  obtain rfl : [] = v := List.append_cancel_right hv
  obtain rfl := List.eq_nil_of_length_eq_zero (Nat.le_zero.mp hlength)
  exact hf 1 (hread 1 [] Nat.one_pos .nil)

/-- A reader with more fuel than its text has characters. Readers with fuel are called like this,
and the fuel then changes with the end of the text. -/
theorem ReadsWithin.fuelled {f : Nat → List Char → β} {out : List Char → β}
    (h : ReadsWithin f text out u s) : Reads (fun t => f (t.length + 1) t) text out u s := by
  obtain ⟨v, rfl, hv, hf⟩ := h
  refine ⟨v, rfl, hv, fun n k _ hk => hf ((v ++ k).length + 1) k ?_ hk⟩
  simp only [List.length_append]
  omega

/-! ### Blanks -/

/-- A parenthesis is no blank, so blanks are skipped up to it at most. -/
theorem isBlank_closing : Unicode.isBlank ')' = false := by decide

/-- Skipping leaves no more than there was. -/
theorem length_skipBlanks_le (inComment : Bool) (text : List Char) :
    (skipBlanks inComment text).length ≤ text.length := by
  fun_induction skipBlanks inComment text with
  | case1 => exact Nat.le_refl _
  | case2 _ _ ih => exact Nat.le_succ_of_le ih
  | case3 _ _ _ _ _ ih => exact Nat.le_succ_of_le ih
  | case4 _ _ _ _ ih => exact Nat.le_succ_of_le ih
  | case5 => exact Nat.le_refl _

/-- Skipping leaves no more than there was, whatever the flags. Fuel that lasted before lasts behind
it. -/
theorem Flags.length_skip_le (flags : Flags) (text : List Char) :
    (flags.skip text).length ≤ text.length := by
  unfold Flags.skip
  split
  · exact length_skipBlanks_le false text
  · exact Nat.le_refl _

/-- Blanks and comments end in front of the first character that is neither. A comment runs over
parentheses, but the one that counts stands where skipping stops or behind it, and no comment is
open there. -/
theorem skipBlanks_reads {inComment : Bool} (h : skipBlanks inComment text = u ++ ')' :: s) :
    Reads (skipBlanks inComment) text id u s := by
  fun_induction skipBlanks inComment text with
  | case1 => simp at h
  | case2 c rest ih => exact (ih h).cons c fun _ t r ht => ht
  | case3 inComment c rest hcomment hblank ih =>
    refine (ih h).cons c fun _ t r ht => ?_
    rw [skipBlanks, if_neg hcomment, if_pos hblank]
    exact ht
  | case4 inComment rest hcomment hblank ih =>
    refine (ih h).cons '#' fun _ t r ht => ?_
    rw [skipBlanks, if_neg hcomment, if_neg hblank, if_pos rfl]
    exact ht
  | case5 inComment c rest hcomment hblank hhash =>
    have hother : ¬ (Unicode.isBlank c ∨ c = '#') := not_or.mpr ⟨hblank, hhash⟩
    refine .stop (fun d => Unicode.isBlank d ∨ d = '#') hother h (by decide) (fun _ => rfl)
      fun _ d r hd => ?_
    rw [skipBlanks, if_neg hcomment, if_neg fun hb => hd (.inl hb), if_neg fun hh => hd (.inr hh)]
    rfl

/-- What is skipped is skipped whatever follows. With the flag for blanks off, nothing is. -/
theorem Flags.skip_reads (h : flags.skip text = u ++ ')' :: s) :
    Reads flags.skip text id u s := by
  unfold Flags.skip at h ⊢
  cases hverbose : flags.verbose with
  | false =>
    rw [hverbose] at h
    rw [show text = u ++ ')' :: s from h]
    exact .here fun _ _ _ => rfl
  | true =>
    rw [hverbose] at h
    exact skipBlanks_reads h

/-- A reader that skips and then does as another one. Blanks are skipped between all parts, so most
readers in a row are put together by this lemma or one of those below. -/
theorem ReadsWithin.skipTo {mid : List Char} {f : Nat → List Char → β} {out : List Char → β}
    {g : Nat → List Char → γ} {out' : List Char → γ} (h : ReadsWithin f mid out u s)
    (hskip : flags.skip text = mid)
    (hg : ∀ n t m r, Varies mid m → flags.skip t = m → f n m = out r → g n t = out' r) :
    ReadsWithin g text out' u s :=
  h.after (fun _ hmid => Flags.skip_reads (hskip.trans hmid)) fun n t m r hm ht hr =>
    hg n t m r hm ht hr

/-- The same, without more. Nothing has to be known about the text behind the blanks. -/
theorem ReadsWithin.skip {f : Nat → List Char → β} {out : List Char → β}
    (h : ReadsWithin f (flags.skip text) out u s) :
    ReadsWithin (fun n t => f n (flags.skip t)) text out u s :=
  h.skipTo rfl fun n t m r _ ht hr => by
    show f n (flags.skip t) = out r
    rw [ht]
    exact hr

/-- A reader that skips, takes the characters `w`, and reads on as two other readers. A bracket
inside a bracket is read like this: first its start, and then its members with those of the bracket
around it. -/
theorem ReadsWithin.token {mid w : List Char} {p : Nat → List Char → β} {q : List Char → β}
    {f : Nat → List Char → γ} {out : List Char → γ} {g : Nat → List Char → δ}
    {out' : List Char → δ} (h : ReadsWithin f mid out u s)
    (hp : ∀ v, mid = v ++ ')' :: s → ReadsWithin p rest q v s)
    (hskip : flags.skip text = w ++ rest) (hw : w ≠ [])
    (hg : ∀ n t m m' r, Varies rest m → flags.skip t = w ++ m → p n m = q m' → f n m' = out r →
      g (n + 1) t = out' r) :
    ReadsWithin g text out' u s := by
  obtain ⟨v, hmid, hv, hf⟩ := h
  obtain ⟨v', rfl, hv', hread⟩ := hp v hmid
  rw [← List.append_assoc] at hskip
  obtain ⟨z, rfl, hz, hskipped⟩ := (Flags.skip_reads hskip).exists
  -- the characters of `w` pay for the unit of fuel
  have hlength := List.length_pos_iff.mpr hw
  rw [List.length_append] at hz
  refine ⟨z, rfl, by omega, fun n k hn hk => ?_⟩
  obtain ⟨n, rfl⟩ : ∃ m, n = m + 1 := ⟨n - 1, by omega⟩
  have hskip' := hskipped k hk
  rw [List.append_assoc] at hskip'
  exact hg n (z ++ k) (v' ++ k) (v ++ k) (u ++ k) ⟨v', s, k, hk, rfl, rfl⟩ hskip'
    (hread n k (by omega) hk) (hf n k (by omega) hk)

/-- A reader that skips, takes the characters `w` and then does as another one. It has at least one
character to take, so a unit of fuel is paid for. -/
theorem ReadsWithin.skipTake {f : Nat → List Char → β} {out : List Char → β}
    {g : Nat → List Char → γ} {out' : List Char → γ} (h : ReadsWithin f rest out u s)
    (w : List Char) (hw : w ≠ []) (hskip : flags.skip text = w ++ rest)
    (hg : ∀ n t m r, Varies rest m → flags.skip t = w ++ m → f n m = out r →
      g (n + 1) t = out' r) :
    ReadsWithin g text out' u s :=
  h.token (p := fun _ => id) (q := id) (fun _ hrest => hrest ▸ .here fun _ _ _ => rfl) hskip hw
    fun n t m m' r hm ht hr hf => by
      obtain rfl : m = m' := hr
      exact hg n t m r hm ht hf

/-- A reader that skips, takes one character and then does as another one. This is the common case
of `ReadsWithin.skipTake`. -/
theorem ReadsWithin.skipCons {c : Char} {f : Nat → List Char → β} {out : List Char → β}
    {g : Nat → List Char → γ} {out' : List Char → γ} (h : ReadsWithin f rest out u s)
    (hskip : flags.skip text = c :: rest)
    (hg : ∀ n t m r, Varies rest m → flags.skip t = c :: m → f n m = out r →
      g (n + 1) t = out' r) :
    ReadsWithin g text out' u s :=
  h.skipTake [c] (List.cons_ne_nil c []) hskip hg

/-- Blanks in a count are dropped whatever follows. They are dropped also where the flags do not ask
for it, so this is not a case of `skipBlanks_reads`. -/
theorem dropBlanks_reads (h : text.dropWhile Unicode.isBlank = u ++ ')' :: s) :
    Reads (List.dropWhile Unicode.isBlank) text id u s := by
  induction text with
  | nil => simp at h
  | cons c rest ih =>
    cases hc : Unicode.isBlank c with
    | true =>
      rw [List.dropWhile_cons_of_pos hc] at h
      refine (ih h).cons c fun _ t r ht => ?_
      rw [List.dropWhile_cons_of_pos hc]
      exact ht
    | false =>
      have hblank : ¬ Unicode.isBlank c = true := by simp [hc]
      rw [List.dropWhile_cons_of_neg hblank] at h
      refine .stop (fun d => Unicode.isBlank d) hblank h (by decide) (fun _ => rfl) ?_
      exact fun _ _ _ hd => List.dropWhile_cons_of_neg hd

/-! ### Numbers -/

/-- A fixed number of hexadecimal digits is read locally. The induction is on the digits that are
still to come, and a parenthesis is none of them. -/
theorem hexDigits?_reads {count value n : Nat}
    (h : hexDigits? flags count value text = some (n, u ++ ')' :: s)) :
    Reads (hexDigits? flags count value) text (fun r => some (n, r)) u s := by
  fun_induction hexDigits? flags count value text with
  | case1 value text =>
    obtain ⟨rfl, rfl⟩ := h
    exact .here fun _ _ _ => rfl
  | case2 => simp at h
  | case3 value count c rest ih =>
    obtain ⟨d, hd, h⟩ := Option.bind_eq_some_iff.mp h
    refine (ih d h).skip.cons c fun _ t r ht => ?_
    simpa [hexDigits?, hd] using ht

/-- Hexadecimal digits in braces are read locally. They end with the brace, so the reader never
looks at what is behind it but for blanks. -/
theorem hexBraced?_reads {fuel n : Nat} {value : Option Nat}
    (h : hexBraced? flags fuel value text = some (n, u ++ ')' :: s)) :
    ReadsWithin (fun fuel => hexBraced? flags fuel value) text (fun r => some (n, r)) u s := by
  fun_induction hexBraced? flags fuel value text with
  | case1 => simp at h
  | case2 => simp at h
  | case3 fuel value rest =>
    obtain ⟨m, rfl, hm⟩ := Option.map_eq_some_iff.mp h
    obtain ⟨rfl, hskip⟩ := Prod.mk.inj hm
    refine (Flags.skip_reads hskip).cons '\x7d' fun _ t r ht => ?_
    simpa [hexBraced?] using ht
  | case4 fuel value c rest hc ih =>
    obtain ⟨d, hd, h⟩ := Option.bind_eq_some_iff.mp h
    refine (ih d h).skip.cons c fun _ t r ht => ?_
    simpa [hexBraced?, hc, hd] using ht

/-- A text that starts with no brace has another first character, if it has one. The reader matches
on the brace and its caller compares the first character; this connects the two. -/
theorem head?_ne_brace (h : ∀ r, text = '\x7b' :: r → False) :
    (text.head? != some '\x7b') = true := by
  cases text with
  | nil => rfl
  | cons c rest =>
    have hc : c ≠ '\x7b' := fun hc => h rest (by rw [hc])
    simp [hc]

/-- Whether the number stands in braces is told together with the character, since it counts for
what the character means. Both are decided by what follows the letter, in front of any parenthesis.
-/
theorem hexChar?_reads {count : Nat} {c : Char}
    (h : hexChar? flags count text = some (c, u ++ ')' :: s)) :
    Reads (fun t => ((flags.skip t).head? != some '\x7b', hexChar? flags count t)) text
      (fun r => ((flags.skip text).head? != some '\x7b', some (c, r))) u s := by
  simp only [hexChar?] at h
  split at h
  case h_1 rest hskip =>
    obtain ⟨⟨n, _⟩, hn, h⟩ := Option.bind_eq_some_iff.mp h
    obtain ⟨d, hd, h⟩ := Option.bind_eq_some_iff.mp h
    obtain ⟨rfl, rfl⟩ := Prod.mk.inj (Option.some.inj h)
    refine (hexBraced?_reads hn).skip.fuelled.skipCons hskip fun _ t m r _ ht hr => ?_
    simp [hexChar?, hskip, ht, hr, hd]
  case h_2 hbrace =>
    obtain ⟨⟨n, _⟩, hn, h⟩ := Option.bind_eq_some_iff.mp h
    obtain ⟨d, hd, h⟩ := Option.bind_eq_some_iff.mp h
    obtain ⟨rfl, rfl⟩ := Prod.mk.inj (Option.some.inj h)
    refine (hexDigits?_reads hn).skipTo rfl fun _ t m r hm ht hr => ?_
    have hbrace' := hm.not_cons (by decide) hbrace
    rw [ht, head?_ne_brace hbrace, head?_ne_brace hbrace']
    simp [hexChar?, ht, hr, hd]

/-- Digits end in front of a parenthesis. They may end at the end of the text as well, and the
number is the same. -/
theorem decimalDigits_reads {fuel : Nat} {value n : Option Nat} (hfuel : text.length < fuel)
    (h : decimalDigits flags fuel value text = (n, u ++ ')' :: s)) :
    ReadsWithin (fun fuel => decimalDigits flags fuel value) text (fun r => (n, r)) u s := by
  fun_induction decimalDigits flags fuel value text with
  | case1 => simp at hfuel
  | case2 => simp at h
  | case3 fuel value c rest hc ih =>
    have hle := flags.length_skip_le rest
    simp only [List.length_cons] at hfuel
    refine (ih (by omega) h).skip.cons c fun _ t r ht => ?_
    rw [decimalDigits, if_pos hc]
    exact ht
  | case4 fuel value c rest hc =>
    obtain ⟨rfl, hu⟩ := Prod.mk.inj h
    refine .stop (fun d => d.isDigit) hc hu (by decide) (fun n => by cases n <;> rfl)
      fun n d r hd => ?_
    cases n with
    | zero => rfl
    | succ n => exact if_neg hd

/-- A count is read locally, with the blanks around it. Blanks are dropped in front, digits are
read, and blanks are dropped and skipped behind them; the four readers are put together from the
last one on. -/
theorem count?_reads {n : Option Nat} (h : count? flags text = some (n, u ++ ')' :: s)) :
    Reads (count? flags) text (fun r => some (n, r)) u s := by
  obtain ⟨⟨value, rest⟩, hdigits⟩ : ∃ digits, decimalDigits flags
      ((text.dropWhile Unicode.isBlank).length + 1) none (text.dropWhile Unicode.isBlank) =
        digits := ⟨_, rfl⟩
  simp only [count?, hdigits] at h
  split at h
  · exact nomatch h
  rename_i hsmall
  obtain ⟨rfl, hskip⟩ := Prod.mk.inj (Option.some.inj h)
  -- blanks, digits, blanks, and what the flags skip: read from the end to the start
  obtain ⟨v₁, h₁, hv₁, hskipped⟩ := (Flags.skip_reads hskip).exists
  obtain ⟨v₂, rfl, hv₂, hblanks⟩ := (dropBlanks_reads h₁).exists
  obtain ⟨v₃, h₃, hv₃, hnumber⟩ :=
    (decimalDigits_reads (Nat.lt_succ_self _) hdigits).fuelled.exists
  obtain ⟨v₄, rfl, hv₄, hblanks'⟩ := (dropBlanks_reads h₃).exists
  refine ⟨v₄, rfl, by omega, fun n k _ hk => ?_⟩
  simp only [id] at hskipped hblanks hblanks'
  simp only [count?, hblanks' k hk, hnumber k hk, if_neg hsmall, hblanks k hk, hskipped k hk]

/-! ### Escapes -/

/-- A text in braces does not end at a parenthesis. It goes on to its brace, which is in front of
what the reader has left. -/
theorem braced?_reads {fuel : Nat} {done name : List Char}
    (h : braced? flags fuel done text = some (name, u ++ ')' :: s)) :
    ReadsWithin (fun fuel => braced? flags fuel done) text (fun r => some (name, r)) u s := by
  fun_induction braced? flags fuel done text with
  | case1 => simp at h
  | case2 => simp at h
  | case3 fuel done rest =>
    obtain ⟨rfl, rfl⟩ := Prod.mk.inj (Option.some.inj h)
    exact (reads_rest u s).cons '\x7d' fun _ t r ht => by simpa [braced?] using ht
  | case4 fuel done c rest hc ih =>
    refine (ih h).skip.cons c fun _ t r ht => ?_
    simpa [braced?, hc] using ht

/-- A property is read locally. Its name stands in braces or is one character, and both are taken as
a whole, so the parenthesis that counts is behind the name. -/
theorem property?_reads {negated : Bool} {members : CharSet}
    (h : property? flags negated text = some (members, u ++ ')' :: s)) :
    Reads (property? flags negated) text (fun r => some (members, r)) u s := by
  simp only [property?] at h
  obtain ⟨_, hguard, h⟩ := Option.bind_eq_some_iff.mp h
  have hunicode : flags.unicode = true := by simpa [guard] using hguard
  split at h
  case h_1 => exact nomatch h
  case h_2 => exact nomatch h
  case h_3 rest hskip =>
    obtain ⟨⟨name, _⟩, hname, h⟩ := Option.bind_eq_some_iff.mp h
    obtain ⟨named, hnamed, h⟩ := Option.bind_eq_some_iff.mp h
    obtain ⟨_, hmembers, h⟩ := Option.bind_eq_some_iff.mp h
    obtain ⟨rfl, rfl⟩ := Prod.mk.inj (Option.some.inj h)
    refine (braced?_reads hname).skip.fuelled.skipCons hskip fun _ t m r _ ht hr => ?_
    simp [property?, guard, hunicode, ht, hr, hnamed, hmembers]
  case h_4 c rest hslash hbrace hskip =>
    obtain ⟨⟨name, _⟩, hname, h⟩ := Option.bind_eq_some_iff.mp h
    obtain ⟨named, hnamed, h⟩ := Option.bind_eq_some_iff.mp h
    obtain ⟨_, hmembers, h⟩ := Option.bind_eq_some_iff.mp h
    obtain ⟨rfl, rfl⟩ := Prod.mk.inj (Option.some.inj h)
    obtain ⟨rfl, hrest⟩ := Prod.mk.inj (Option.some.inj hname)
    refine (Flags.skip_reads hrest).skipCons hskip fun _ t m r _ ht hr => ?_
    simp [property?, guard, hunicode, ht, hr, hnamed, hmembers]

/-- The name of a word assertion ends in front of a parenthesis. Only letters and hyphens belong to
it. -/
theorem wordName_reads {fuel : Nat} {done name : List Char} (hfuel : text.length < fuel)
    (h : wordName flags fuel done text = (name, u ++ ')' :: s)) :
    ReadsWithin (fun fuel => wordName flags fuel done) text (fun r => (name, r)) u s := by
  fun_induction wordName flags fuel done text with
  | case1 => simp at hfuel
  | case2 => simp at h
  | case3 fuel done c rest hc ih =>
    have hle := flags.length_skip_le rest
    simp only [List.length_cons] at hfuel
    refine (ih (by omega) h).skip.cons c fun _ t r ht => ?_
    rw [wordName, if_pos hc]
    exact ht
  | case4 fuel done c rest hc =>
    obtain ⟨rfl, hu⟩ := Prod.mk.inj h
    refine .stop (fun d => d.isAlpha || d == '-') hc hu (by decide)
      (fun n => by cases n <;> rfl) fun n d r hd => ?_
    cases n with
    | zero => rfl
    | succ n => exact if_neg hd

/-- If `u` starts with a brace, something that is not skipped stands between the brace and the
parenthesis. -/
def BraceFilled (flags : Flags) (u s : List Char) : Prop :=
  ∀ inner, u = '\x7b' :: inner →
    ∃ c v, flags.skip (inner ++ ')' :: s) = c :: (v ++ ')' :: s)

/-- A word boundary looks for a name in a brace behind it, so such a brace must not be cut off. If
it is not a name, the brace is left to count a repetition, and the first character behind it decides
this. -/
theorem wordBoundary?_reads {a : Assertion} (hfilled : BraceFilled flags u s)
    (h : wordBoundary? flags text = some (a, u ++ ')' :: s)) :
    Reads (wordBoundary? flags) text (fun r => some (a, r)) u s := by
  simp only [wordBoundary?] at h
  split at h
  case h_1 inner =>
    split at h
    case h_1 => cases h
    case h_2 c rest hskip =>
      split at h
      case isTrue hc =>
        -- a name starts here, and a brace that does not close it is an error
        have hclosing : c ≠ ')' := by rintro rfl; simp at hc
        obtain ⟨⟨name, after⟩, hname⟩ : ∃ read, wordName flags (rest.length + 2) [] (c :: rest) =
          read := ⟨_, rfl⟩
        rw [hname] at h
        simp only at h
        split at h
        case h_1 rest' hn | h_2 rest' hn | h_3 rest' hn | h_4 rest' hn =>
          obtain ⟨ha, rfl⟩ := Prod.mk.inj (Option.some.inj h)
          have hnamed := (wordName_reads (u := '\x7d' :: u) (by simp) hname).fuelled
          have hinner : Reads (fun t => wordBoundary? flags ('\x7b' :: t)) inner
              (fun r => some (a, r)) u s := by
            refine (hnamed.tail fun _ t r ht => ht).skipTo hskip fun _ t m r hm ht hr => ?_
            obtain ⟨m, rfl, -⟩ := hm.eq_cons hclosing
            simp only [List.length_cons] at hr
            simp [wordBoundary?, ht, hc, hr, hn, ha]
          exact hinner.cons '\x7b' fun _ t r ht => ht
        case h_5 => cases h
      case isFalse hc =>
        -- the brace is left; what stands behind it is no name with any end
        obtain ⟨ha, hu⟩ := Prod.mk.inj (Option.some.inj h)
        obtain ⟨u', rfl, rfl⟩ := cons_eq_append (by decide) hu
        obtain ⟨d, v, hfill⟩ := hfilled u' rfl
        obtain ⟨rfl, -⟩ := List.cons.inj (hskip.symm.trans hfill)
        obtain ⟨w, hw, -, hskipped⟩ := (Flags.skip_reads (u := c :: v) hfill).exists
        obtain rfl := List.append_cancel_right hw
        refine ReadsWithin.here (u := '\x7b' :: u') fun _ k hk => ?_
        have hskip' : flags.skip (u' ++ k) = c :: (v ++ k) := hskipped k hk
        simp [wordBoundary?, hskip', hc, ha]
  case h_2 hbrace =>
    obtain ⟨ha, rfl⟩ := Prod.mk.inj (Option.some.inj h)
    refine .here fun _ k hk => ?_
    have hbrace' := (hk.varies u s).not_cons (by decide) hbrace
    simp [wordBoundary?, ha]

/-- What follows a backslash. -/
theorem escape?_reads {c : Char} {x : Atom}
    (hfilled : ∀ a, x = .assert a → BraceFilled flags u s)
    (h : escape? flags (c :: rest) = some (x, u ++ ')' :: s)) :
    Reads (fun t => escape? flags (c :: t)) rest (fun r => some (x, r)) u s := by
  simp only [escape?] at h
  split at h
  · cases h
  rename_i hdigit
  split at h
  case isTrue hescapable =>
    -- a sign that stands for itself
    obtain ⟨rfl, rfl⟩ := Prod.mk.inj (Option.some.inj h)
    exact .here fun _ _ _ => by simp [escape?, hdigit, hescapable]
  case isFalse hescapable =>
    split at h
    case h_1 =>
      -- `x`, for which it counts whether its number stands in braces
      obtain ⟨⟨d, _⟩, hd, hx⟩ := Option.map_eq_some_iff.mp h
      obtain ⟨rfl, rfl⟩ := Prod.mk.inj hx
      refine (hexChar?_reads hd).imp fun _ t r ht => ?_
      obtain ⟨hbyte, ht⟩ := Prod.mk.inj ht
      simp only [escape?, hdigit, hescapable, hbyte, ht]
      rfl
    case h_2 | h_3 =>
      -- `u` and `U`
      obtain ⟨⟨d, _⟩, hd, hx⟩ := Option.map_eq_some_iff.mp h
      obtain ⟨rfl, rfl⟩ := Prod.mk.inj hx
      refine (hexChar?_reads hd).imp fun _ t r ht => ?_
      simp [escape?, hdigit, hescapable, (Prod.mk.inj ht).2]
    case h_4 | h_5 =>
      -- `p` and `P`
      obtain ⟨⟨d, _⟩, hd, hx⟩ := Option.map_eq_some_iff.mp h
      obtain ⟨rfl, rfl⟩ := Prod.mk.inj hx
      exact (property?_reads hd).imp fun _ t r ht => by simp [escape?, hdigit, hescapable, ht]
    case h_14 =>
      -- `b`, the only escape that looks at a brace without taking it
      obtain ⟨⟨a, _⟩, ha, hx⟩ := Option.map_eq_some_iff.mp h
      obtain ⟨rfl, rfl⟩ := Prod.mk.inj hx
      exact (wordBoundary?_reads (hfilled a rfl) ha).imp fun _ t r ht => by
        simp [escape?, hdigit, hescapable, ht]
    case h_18 =>
      -- a letter for a set
      obtain ⟨letters, hset, hx⟩ := Option.map_eq_some_iff.mp h
      obtain ⟨rfl, rfl⟩ := Prod.mk.inj hx
      exact .here fun _ _ _ => by simp [escape?, hdigit, hescapable, hset]
    -- the other letters read nothing behind them
    all_goals
      obtain ⟨rfl, rfl⟩ := Prod.mk.inj (Option.some.inj h)
      exact .here fun _ _ _ => by simp [escape?, hdigit, hescapable]

end

end Polyglot.Regex
