import Mathlib.Order.Bounds.Basic
import Polyglot.Symbol.Extent

/-!
# `Polyglot.Proofs.Symbol.Scan`: looking for the token that ends a declaration

The end of a statement and the end of an indented body are looked for in the same way. A scan walks
over the tokens behind token `last` until it comes to one that ends the declaration, and keeps as
its end so far the last token that it did not pass over. This module says what comes of that for
any condition that ends a declaration: the scan stops at the first token with that condition
(`Extent.FirstOrSize`), and its end is the last token in front of it that is not passed over
(`Extent.LastKept`).

`Extent.Scan` is what holds in the middle of a scan. It holds at the start (`scan_start`), a token
that does not end the declaration keeps it (`Scan.next`), and it gives the limit where the scan
comes to a token that does (`Scan.firstOrSize`) or runs out of tokens (`Scan.finish`).
-/

set_option autoImplicit false

namespace Polyglot

namespace Extent

/-- A token that is not passed over stands at an index. -/
def Kept (x : Extent) (index : Nat) : Prop :=
  ∃ token, x.tokens[index]? = some token ∧ x.isSkipped token = false

/-- The first index that meets a condition, or the number of tokens if none does. -/
def FirstOrSize (x : Extent) (ends : Nat → Prop) (limit : Nat) : Prop :=
  IsLeast {index | ends index} limit ∨ limit = x.tokens.size ∧ ∀ index, ¬ ends index

/-- The last token that is not passed over, of those behind token `last` and in front of a limit;
`last` itself if there is none. -/
def LastKept (x : Extent) (last limit stop : Nat) : Prop :=
  IsGreatest (insert last {index | last < index ∧ index < limit ∧ x.Kept index}) stop

/-- A scan in its middle: `index` is the next token to look at and `rest` are the tokens from there
on; `stop` is the end so far, and no token in front of `index` ends the declaration. -/
structure Scan (x : Extent) (ends : Nat → Prop) (last stop index : Nat) (rest : List Token) :
    Prop where
  /-- The rest are the tokens from the index on. -/
  rest_eq : x.tokens.toList.drop index = rest
  /-- The scan is behind the token that it started from. -/
  last_lt : last < index
  /-- The end so far is the last token so far that is not passed over. -/
  lastKept : x.LastKept last index stop
  /-- The scan has not come to a token that ends the declaration. -/
  not_ends : ∀ i < index, ¬ ends i

variable {x : Extent} {ends : Nat → Prop} {last limit stop index : Nat} {token : Token}
  {rest : List Token}

/-! ### Limits -/

/-- A limit that is a token meets the condition. The other kind of limit, the number of tokens, is
behind all of them. -/
theorem FirstOrSize.holds (h : x.FirstOrSize ends limit) (hlimit : limit < x.tokens.size) :
    ends limit := by
  rcases h with hleast | ⟨rfl, -⟩
  · exact hleast.1
  · exact absurd hlimit (Nat.lt_irrefl _)

/-- No index in front of a limit meets the condition. -/
theorem FirstOrSize.le (h : x.FirstOrSize ends limit) (hends : ends index) : limit ≤ index := by
  rcases h with hleast | ⟨-, hnone⟩
  · exact hleast.2 hends
  · exact absurd hends (hnone index)

/-! ### Tokens that are not passed over -/

/-- A token that is not passed over is there. -/
theorem Kept.lt_size (h : x.Kept index) : index < x.tokens.size := by
  obtain ⟨token, htoken, -⟩ := h
  exact (Array.getElem?_eq_some_iff.mp htoken).1

/-- A token at an index is not passed over just if the index is kept. `Kept` says that there is a
token, and here it is known which one. -/
theorem kept_iff (htoken : x.tokens[index]? = some token) :
    x.Kept index ↔ x.isSkipped token = false := by
  simp [Kept, htoken]

/-- Directly behind token `last` there is nothing in front of the limit. -/
theorem lastKept_self (x : Extent) (last : Nat) : x.LastKept last (last + 1) last := by
  refine ⟨.inl rfl, ?_⟩
  rintro index (rfl | ⟨hbehind, hbefore, -⟩)
  · exact Nat.le_refl _
  · omega

/-- One more token in front of the limit is the new end, unless it is passed over. This is what both
scans do with their end when they go on behind a token. -/
theorem LastKept.succ (h : x.LastKept last index stop) (hlast : last < index)
    (htoken : x.tokens[index]? = some token) :
    x.LastKept last (index + 1) (if x.isSkipped token then stop else index) := by
  obtain ⟨hmem, hgreatest⟩ := h
  split
  · rename_i hskipped
    constructor
    · refine hmem.imp_right ?_
      rintro ⟨hbehind, hbefore, hkept⟩
      exact ⟨hbehind, by omega, hkept⟩
    · rintro i (hi | ⟨hbehind, hbefore, hkept⟩)
      · exact hgreatest (.inl hi)
      · -- the token that was added is passed over, so the other one is in front of it
        have hne : i ≠ index := by
          rintro rfl
          rw [kept_iff htoken, hskipped] at hkept
          cases hkept
        exact hgreatest (.inr ⟨hbehind, by omega, hkept⟩)
  · rename_i hkept
    rw [Bool.not_eq_true] at hkept
    constructor
    · exact .inr ⟨hlast, Nat.lt_succ_self index, (kept_iff htoken).mpr hkept⟩
    · rintro i (rfl | ⟨-, hbefore, -⟩)
      · exact Nat.le_of_lt hlast
      · exact Nat.le_of_lt_succ hbefore

/-- Behind the last token there is nothing more to find, so the limit may be moved back to the
number of tokens. -/
theorem LastKept.of_size_le (h : x.LastKept last index stop) (hsize : x.tokens.size ≤ index) :
    x.LastKept last x.tokens.size stop := by
  obtain ⟨hmem, hgreatest⟩ := h
  constructor
  · refine hmem.imp_right ?_
    rintro ⟨hbehind, -, hkept⟩
    exact ⟨hbehind, hkept.lt_size, hkept⟩
  · rintro i (hi | ⟨hbehind, hbefore, hkept⟩)
    · exact hgreatest (.inl hi)
    · exact hgreatest (.inr ⟨hbehind, by omega, hkept⟩)

/-- The end is token `last`, or behind it and in front of the limit. -/
theorem LastKept.cases (h : x.LastKept last limit stop) :
    stop = last ∨ last < stop ∧ stop < limit ∧ x.Kept stop := h.1

/-! ### Scans -/

/-- A scan starts directly behind a token, if that one and those in front of it end nothing. For
both kinds of ends this is part of the condition, which asks for a token behind `last`. -/
theorem scan_start (hends : ∀ i, ends i → last < i) :
    x.Scan ends last last (last + 1) (x.tokens.toList.drop (last + 1)) where
  rest_eq := rfl
  last_lt := Nat.lt_succ_self last
  lastKept := lastKept_self x last
  not_ends := by
    intro i hi hend
    have hbehind := hends i hend
    omega

namespace Scan

/-- The first token of the rest stands at the index. -/
theorem token_eq (h : x.Scan ends last stop index (token :: rest)) :
    x.tokens[index]? = some token := by
  have hhead := congrArg (·[0]?) h.rest_eq
  simpa using hhead

/-- A token that does not end the declaration leads on to the next one. This is the step of both
scans. What else they carry, a count of brackets or a line, is added to it where they are looked at.
-/
theorem next (h : x.Scan ends last stop index (token :: rest)) (hnot : ¬ ends index) :
    x.Scan ends last (if x.isSkipped token then stop else index) (index + 1) rest where
  rest_eq := by rw [← List.tail_drop, h.rest_eq, List.tail_cons]
  last_lt := Nat.lt_succ_of_lt h.last_lt
  lastKept := h.lastKept.succ h.last_lt h.token_eq
  not_ends := by
    intro i hi
    rcases Nat.lt_succ_iff_lt_or_eq.mp hi with hi | rfl
    · exact h.not_ends i hi
    · exact hnot

/-- The first token that ends the declaration is the limit of the scan. The scan has come past all
tokens in front of it, so none of them ends it. -/
theorem firstOrSize (h : x.Scan ends last stop index rest) (hends : ends index) :
    x.FirstOrSize ends index := by
  refine .inl ⟨hends, fun i hi => ?_⟩
  by_contra hlt
  exact h.not_ends i (by omega) hi

/-- Where no tokens are left, the scan is behind all of them. -/
theorem size_le (h : x.Scan ends last stop index []) : x.tokens.size ≤ index := by
  have hdrop := List.drop_eq_nil_iff.mp h.rest_eq
  rwa [Array.length_toList] at hdrop

/-- If no token ends the declaration, the number of tokens is the limit of the scan. The scan knows
this only of the tokens that it has passed, so the condition has to say that what ends is a token.
-/
theorem finish (h : x.Scan ends last stop index []) (hends : ∀ i, ends i → i < x.tokens.size) :
    x.FirstOrSize ends x.tokens.size ∧ x.LastKept last x.tokens.size stop := by
  refine ⟨.inr ⟨rfl, fun i hi => ?_⟩, h.lastKept.of_size_le h.size_le⟩
  have hsize := hends i hi
  exact h.not_ends i (Nat.lt_of_lt_of_le hsize h.size_le) hi

end Scan

end Extent

end Polyglot
