import Mathlib.Data.List.Perm.Basic

/-!
# `Polyglot.Proofs.Support.Option`: steps that may give no result

A step for every element of a list gives a result just if it does for each element
(`option_mapM_eq_some_iff`), and every result is that of an element
(`exists_mem_of_option_mapM`). Steps that agree on the elements have the same results
(`option_mapM_congr`), which come in the order of the elements (`exists_option_mapM_perm`).
-/

set_option autoImplicit false

namespace Polyglot

universe u v

variable {α : Type u} {β : Type v}

/-- Steps on all elements of a list give results if those are the results of the elements. This is
`mapM_eq_ok_iff` for steps that give no reason when they fail. -/
theorem option_mapM_eq_some_iff {f : α → Option β} {xs : List α} {ys : List β} :
    xs.mapM f = some ys ↔ List.Forall₂ (fun a b => f a = some b) xs ys := by
  induction xs generalizing ys with
  | nil =>
    rw [List.mapM_nil, List.forall₂_nil_left_iff]
    exact ⟨fun h => (Option.some.inj h).symm, fun h => congrArg some h.symm⟩
  | cons a rest ih =>
    rw [List.mapM_cons, Option.bind_eq_bind, Option.bind_eq_some_iff, List.forall₂_cons_left_iff]
    constructor
    · rintro ⟨b, hb, h⟩
      obtain ⟨bs, hbs, h⟩ := Option.bind_eq_some_iff.mp h
      obtain rfl := Option.some.inj h
      exact ⟨b, bs, hb, ih.mp hbs, rfl⟩
    · rintro ⟨b, bs, hb, hbs, rfl⟩
      exact ⟨b, hb, Option.bind_eq_some_iff.mpr ⟨bs, ih.mpr hbs, rfl⟩⟩

/-- Every result of steps on a list is that of an element. So a property of all results may be shown
for one step. -/
theorem exists_mem_of_option_mapM {f : α → Option β} {xs : List α} {ys : List β}
    (h : xs.mapM f = some ys) {b : β} (hb : b ∈ ys) : ∃ a ∈ xs, f a = some b := by
  have hall := option_mapM_eq_some_iff.mp h
  clear h
  induction hall with
  | nil => exact nomatch hb
  | @cons a b' xs ys hhead htail ih =>
    rcases List.mem_cons.mp hb with rfl | hb
    · exact ⟨a, List.mem_cons_self, hhead⟩
    · obtain ⟨a', ha', hstep⟩ := ih hb
      exact ⟨a', List.mem_cons_of_mem _ ha', hstep⟩

/-- Steps that agree on the elements of a list have the same results. They may differ elsewhere, for
example on values that the list cannot have. -/
theorem option_mapM_congr {f g : α → Option β} {xs : List α} (h : ∀ a ∈ xs, f a = g a) :
    xs.mapM f = xs.mapM g := by
  induction xs with
  | nil => rfl
  | cons a rest ih =>
    rw [List.mapM_cons, List.mapM_cons, h a List.mem_cons_self,
      ih fun b hb => h b (List.mem_cons_of_mem _ hb)]

/-- In another order of the elements, the steps have the same results in another order. Each result
belongs to its element and moves with it. -/
theorem exists_option_mapM_perm {f : α → Option β} {xs xs' : List α} {ys : List β}
    (hperm : xs'.Perm xs) (h : xs.mapM f = some ys) :
    ∃ ys', xs'.mapM f = some ys' ∧ ys'.Perm ys := by
  obtain ⟨ys', hys', hperm'⟩ := List.perm_comp_forall₂ hperm (option_mapM_eq_some_iff.mp h)
  exact ⟨ys', option_mapM_eq_some_iff.mpr hys', hperm'⟩

end Polyglot
