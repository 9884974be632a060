import Mathlib.Order.Fin.Basic
import Mathlib.Order.Monotone.Basic

/-!
# `Polyglot.Proofs.Support.Bisection`: looking up by bisection

Bisection of an increasing array finds just the items of the array (`binSearchContains_iff`). The
induction is on the steps of the search, for any two places between which it searches: the item
in the middle says on which side of it the one that is sought can be.
-/

set_option autoImplicit false

namespace Polyglot

variable {α : Type} [LinearOrder α] {items : Array α}

/-- In an increasing array, the smaller item comes first. The search compares items and moves
places, so this is what each of its steps rests on. -/
theorem lt_of_item_lt (h : StrictMono fun i : Fin items.size => items[i]) {i j : Nat}
    (hi : i < items.size) (hj : j < items.size) (hlt : items[i] < items[j]) : i < j :=
  h.lt_iff_lt.mp
    (show items[(⟨i, hi⟩ : Fin items.size)] < items[(⟨j, hj⟩ : Fin items.size)] from hlt)

/-- Bisection between two places of an increasing array finds the items there. The induction follows
the search. Where the middle is not the item that is sought, the half that is left out does not have
it. -/
theorem binSearchAux_iff (h : StrictMono fun i : Fin items.size => items[i]) (a : α)
    (lo : Fin (items.size + 1)) (hi : Fin items.size) (hle : lo.1 ≤ hi.1) :
    Array.binSearchAux (fun x y => decide (x < y)) Option.isSome items a lo hi hle = true ↔
      ∃ i, ∃ _ : i < items.size, lo.1 ≤ i ∧ i ≤ hi.1 ∧ items[i] = a := by
  fun_induction Array.binSearchAux with
  | case1 lo hi hle m x hx hnext _ ih =>
    -- the middle is too small, and places are left behind it
    have hm : m < items.size := by omega
    rw [ih]
    constructor
    · rintro ⟨i, hsize, hlo, hhi, heq⟩
      simp only at hlo
      exact ⟨i, hsize, by omega, hhi, heq⟩
    · rintro ⟨i, hsize, hlo, hhi, rfl⟩
      have hlt : m < i := lt_of_item_lt h hm hsize (of_decide_eq_true hx)
      exact ⟨i, hsize, hlt, hhi, rfl⟩
  | case2 lo hi hle m x hx hnext _ =>
    -- the middle is too small and the last place
    have hm : m < items.size := by omega
    simp only [Option.isSome_none, Bool.false_eq_true, false_iff]
    rintro ⟨i, hsize, hlo, hhi, rfl⟩
    have hlt : m < i := lt_of_item_lt h hm hsize (of_decide_eq_true hx)
    omega
  | case3 lo hi hle m x _ hx hnext _ =>
    -- the middle is too great and the first place
    have hm : m < items.size := by omega
    simp only [Option.isSome_none, Bool.false_eq_true, false_iff]
    rintro ⟨i, hsize, hlo, hhi, rfl⟩
    have hlt : i < m := lt_of_item_lt h hsize hm (of_decide_eq_true hx)
    omega
  | case4 lo hi hle m x _ hx hnext _ ih =>
    -- the middle is too great, and places are left in front of it
    have hm : m < items.size := by omega
    rw [ih]
    constructor
    · rintro ⟨i, hsize, hlo, hhi, heq⟩
      simp only at hhi
      exact ⟨i, hsize, hlo, by omega, heq⟩
    · rintro ⟨i, hsize, hlo, hhi, rfl⟩
      have hlt : i < m := lt_of_item_lt h hsize hm (of_decide_eq_true hx)
      exact ⟨i, hsize, hlo, Nat.le_sub_one_of_lt hlt, rfl⟩
  | case5 lo hi hle m x hx hx' _ =>
    -- the middle is neither, so it is the item
    have hm : m < items.size := by omega
    have hge : items[m] ≤ a := not_lt.mp (by simpa using hx')
    have hle : a ≤ items[m] := not_lt.mp (by simpa using hx)
    simp only [Option.isSome_some, true_iff]
    exact ⟨m, hm, by omega, by omega, le_antisymm hge hle⟩

/-- Bisection of an increasing array finds its items. The search starts with all places, and an
empty array has none. -/
theorem binSearchContains_iff (h : StrictMono fun i : Fin items.size => items[i]) {a : α} :
    items.binSearchContains a (· < ·) = true ↔ a ∈ items := by
  rw [Array.mem_iff_getElem]
  unfold Array.binSearchContains
  by_cases hsize : 0 < items.size
  · have hlast : items.size - 1 < items.size := by omega
    simp only [hsize, hlast, if_true, dif_pos, Nat.zero_le]
    rw [binSearchAux_iff h]
    constructor
    · rintro ⟨i, hi, _, _, heq⟩
      exact ⟨i, hi, heq⟩
    · rintro ⟨i, hi, heq⟩
      exact ⟨i, hi, Nat.zero_le i, Nat.le_sub_one_of_lt hi, heq⟩
  · -- an empty array is not searched
    simp only [hsize, dif_neg, not_false_eq_true, Bool.false_eq_true, false_iff]
    rintro ⟨i, hi, _⟩
    omega

end Polyglot
