import Mathlib.Data.List.Basic

/-!
# `Polyglot.Proofs.Support.Sort`: sorting by a key

Declarations are answered by their start line, in a sort that leaves those on one line as they
were. Such a sort puts an element in front of those of its key or greater, and leaves the order of
the others alone (`mergeSort_key_cons`). Two things follow. The elements of one key keep their
order (`filter_mergeSort_key`), and elements that are added anywhere do not disturb the order of
those that were there (`sublist_mergeSort_key`).
-/

set_option autoImplicit false

namespace Polyglot

universe u

variable {α : Type u} (key : α → Nat)

/-- The order of keys is transitive. The library asks for this in the form of the comparison that
sorting uses, which is a Boolean. -/
theorem key_le_trans (a b c : α) (hab : decide (key a ≤ key b) = true)
    (hbc : decide (key b ≤ key c) = true) : decide (key a ≤ key c) = true := by
  simp only [decide_eq_true_eq] at hab hbc ⊢
  omega

/-- The order of keys is total. With `key_le_trans` this is all that the library asks of a
comparison; two elements may have the same key. -/
theorem key_le_total (a b : α) :
    (decide (key a ≤ key b) || decide (key b ≤ key a)) = true := by
  simp only [Bool.or_eq_true, decide_eq_true_eq]
  omega

/-- The keys of a sorted list increase. Equal keys may stand side by side. -/
theorem pairwise_mergeSort_key (l : List α) :
    (l.mergeSort fun a b => key a ≤ key b).Pairwise fun a b => key a ≤ key b :=
  (List.pairwise_mergeSort (key_le_trans key) (key_le_total key) l).imp of_decide_eq_true

/-- Sorting leaves the elements of one key in their order. They are sorted already, and a sorted
sublist survives the sort as it is. -/
theorem filter_mergeSort_key (l : List α) (k : Nat) :
    (l.mergeSort fun a b => key a ≤ key b).filter (key · = k) = l.filter (key · = k) := by
  -- elements of one key are sorted already
  have hsorted : (l.filter (key · = k)).Pairwise fun a b => decide (key a ≤ key b) = true := by
    refine List.pairwise_of_forall_mem_list fun a ha b hb => ?_
    have hka := of_decide_eq_true (List.mem_filter.mp ha).2
    have hkb := of_decide_eq_true (List.mem_filter.mp hb).2
    exact decide_eq_true (Nat.le_of_eq (hka.trans hkb.symm))
  have hsublist := List.sublist_mergeSort (key_le_trans key) (key_le_total key) hsorted
    List.filter_sublist
  have hkept := hsublist.filter (key · = k)
  simp only [List.filter_filter, Bool.and_self] at hkept
  -- and there are as many of them before and after
  have hperm := (List.mergeSort_perm l fun a b => key a ≤ key b).filter (key · = k)
  exact (hkept.eq_of_length hperm.length_eq.symm).symm

/-- An element is put behind those of smaller keys and in front of all others. It comes first in the
list, so it stays in front of those with its own key. This is the step of the inductions on the list
that is sorted. -/
theorem mergeSort_key_cons (a : α) (l : List α) :
    ((a :: l).mergeSort fun a b => key a ≤ key b) =
      (l.mergeSort fun a b => key a ≤ key b).filter (key · < key a) ++
        a :: (l.mergeSort fun a b => key a ≤ key b).filter (key a ≤ key ·) := by
  obtain ⟨front, back, hcons, hl, hfront⟩ :=
    List.mergeSort_cons (key_le_trans key) (key_le_total key) a l
  have hless : ∀ b ∈ front, key b < key a := by
    -- the sort of the rest falls into the same two parts
    intro b hb
    simpa using hfront b hb
  have hmore : ∀ b ∈ back, key a ≤ key b := by
    have hsorted := pairwise_mergeSort_key key (a :: l)
    rw [hcons] at hsorted
    exact (List.pairwise_cons.mp (List.pairwise_append.mp hsorted).2.1).1
  have hfrontLess : front.filter (key · < key a) = front :=
    List.filter_eq_self.mpr fun b hb => decide_eq_true (hless b hb)
  have hbackLess : back.filter (key · < key a) = [] := by
    refine List.filter_eq_nil_iff.mpr fun b hb => ?_
    have hb := hmore b hb
    simp only [decide_eq_true_eq]
    omega
  have hfrontMore : front.filter (key a ≤ key ·) = [] := by
    refine List.filter_eq_nil_iff.mpr fun b hb => ?_
    have hb := hless b hb
    simp only [decide_eq_true_eq]
    omega
  have hbackMore : back.filter (key a ≤ key ·) = back :=
    List.filter_eq_self.mpr fun b hb => decide_eq_true (hmore b hb)
  rw [hcons, hl, List.filter_append, List.filter_append, hfrontLess, hbackLess, hfrontMore,
    hbackMore, List.append_nil, List.nil_append]

/-- A sorted sublist is a sublist of the sorted list. The induction is on the sublist. An element of
both is put at the same place between smaller and other keys, and one of the longer list only is put
somewhere. -/
theorem sublist_mergeSort_key {part whole : List α} (h : part.Sublist whole) :
    (part.mergeSort fun a b => key a ≤ key b).Sublist
      (whole.mergeSort fun a b => key a ≤ key b) := by
  induction h with
  | slnil => exact List.Sublist.refl _
  | @cons part whole a _ ih =>
    obtain ⟨front, back, hcons, hwhole, -⟩ :=
      List.mergeSort_cons (key_le_trans key) (key_le_total key) a whole
    rw [hcons]
    rw [hwhole] at ih
    exact ih.middle a
  | cons_cons a _ ih =>
    rw [mergeSort_key_cons, mergeSort_key_cons]
    exact (ih.filter _).append ((ih.filter _).cons_cons a)

end Polyglot
