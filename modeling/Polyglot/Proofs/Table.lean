import Mathlib.Data.List.Dedup
import Polyglot.Table

/-!
# `Polyglot.Proofs.Table`: what is in a table

The keys of a table strictly increase, so no key is there twice (`Table.nodup_keys`) and
looking a key up finds the entry that is there (`Table.find?_eq_some_iff`). One value may be
put under several keys at once (`Table.find?_foldl_insert`). In one table over another, a key is
looked up in the upper one first (`Table.find?_overlay`), so of three tables it makes no
difference which two are put over each other first (`Table.overlay_assoc`).

Entries with different keys may come in any order: sorting rearranges them
(`foldl_insertSorted_perm_self`), and there is one sorted order (`foldl_insertSorted_of_perm`), so
they make one table (`Table.ofList_of_perm`).
-/

set_option autoImplicit false

namespace Polyglot.Table

universe u

variable {α : Type u}

/-- No key is in a table twice. This is part of what a table is: its keys increase strictly. -/
theorem nodup_keys (t : Table α) : t.keys.Nodup := by
  unfold keys List.Nodup
  rw [List.pairwise_map]
  refine t.sorted.imp ?_
  intro a b hlt heq
  rw [heq] at hlt
  exact String.lt_irrefl _ hlt

/-- Looking a key up finds a value just if they are an entry. The lookup stops at the first entry
with the key, and there is no other one. -/
theorem find?_eq_some_iff {t : Table α} {key : String} {value : α} :
    t.find? key = some value ↔ (key, value) ∈ t.entries := by
  have hdistinct := t.nodup_keys
  unfold keys at hdistinct
  unfold find?
  -- the induction is on the entries, of which only the distinct keys are needed
  generalize t.entries = entries at hdistinct
  induction entries with
  | nil => exact ⟨(nomatch ·), (nomatch ·)⟩
  | cons head tail ih =>
    obtain ⟨headKey, headValue⟩ := head
    rw [List.map_cons, List.nodup_cons] at hdistinct
    rw [List.find?_cons, List.mem_cons]
    by_cases hkey : headKey = key
    · subst hkey
      simp only [beq_self_eq_true, Option.map_some, Option.some.injEq]
      constructor
      · rintro rfl
        exact .inl rfl
      · rintro (h | hmem)
        · exact (Prod.mk.inj h).2.symm
        · exact absurd (List.mem_map_of_mem hmem) hdistinct.1
    · have hbeq : (headKey == key) = false := by simpa using hkey
      simp only [hbeq]
      refine (ih hdistinct.2).trans ⟨.inr, ?_⟩
      rintro (h | hmem)
      · exact absurd (Prod.mk.inj h).1.symm hkey
      · exact hmem

/-- A table has no entry just if it is the empty one. -/
theorem isEmpty_iff {t : Table α} : t.isEmpty = true ↔ t = ∅ := by
  obtain ⟨entries, hsorted⟩ := t
  cases entries with
  | nil => exact ⟨fun _ => rfl, fun _ => rfl⟩
  | cons entry rest => exact ⟨(nomatch ·), fun h => nomatch congrArg Table.entries h⟩

/-- A value is found under a key just if the key is there. -/
theorem isSome_find?_iff {t : Table α} {key : String} :
    (t.find? key).isSome ↔ key ∈ t.keys := by
  unfold keys
  rw [Option.isSome_iff_exists, List.mem_map]
  constructor
  · rintro ⟨value, h⟩
    exact ⟨(key, value), find?_eq_some_iff.mp h, rfl⟩
  · rintro ⟨⟨_, value⟩, h, rfl⟩
    exact ⟨value, find?_eq_some_iff.mpr h⟩

/-- The number of entries is the number of different keys. Both sides list the same names without
repetition, in different orders. -/
theorem size_eq_of_mem_keys_iff {t : Table α} {names : List String}
    (h : ∀ key, key ∈ t.keys ↔ key ∈ names) : t.size = names.dedup.length := by
  have hperm : t.keys.Perm names.dedup := by
    rw [List.perm_ext_iff_of_nodup t.nodup_keys names.nodup_dedup]
    intro key
    rw [h key, List.mem_dedup]
  rw [← hperm.length_eq, keys, List.length_map, size]

/-- Inserting one value under several keys. It does not matter if a key is inserted twice, since the
value is the same. -/
theorem find?_foldl_insert (keys : List String) (value : α) (t : Table α) (other : String) :
    (keys.foldl (fun t key => t.insert key value) t).find? other =
      if other ∈ keys then some value else t.find? other := by
  induction keys generalizing t with
  | nil => rfl
  | cons key rest ih =>
    rw [List.foldl_cons, ih, find?_insert]
    by_cases hrest : other ∈ rest
    · rw [if_pos hrest, if_pos (List.mem_cons_of_mem _ hrest)]
    · rw [if_neg hrest]
      by_cases hkey : other = key
      · rw [if_pos hkey, if_pos (hkey ▸ List.mem_cons_self)]
      · rw [if_neg hkey, if_neg fun h => (List.mem_cons.mp h).elim hkey hrest]

/-- Inserting entries of which no two have the same key. With two entries of one key, the last one
would be found and not the first. -/
theorem find?_insertAll {entries : List (String × α)} (h : (entries.map (·.1)).Nodup)
    (t : Table α) (key : String) :
    (t.insertAll entries).find? key =
      ((entries.find? (·.1 == key)).map (·.2)).or (t.find? key) := by
  induction entries generalizing t with
  | nil => rfl
  | cons head tail ih =>
    rw [List.map_cons, List.nodup_cons] at h
    have hstep : t.insertAll (head :: tail) = (t.insert head.1 head.2).insertAll tail := rfl
    rw [hstep, ih h.2, find?_insert, List.find?_cons]
    by_cases hkey : key = head.1
    · -- no later entry has the key, so the inserted value stays
      have htail : tail.find? (·.1 == key) = none := by
        rw [List.find?_eq_none]
        intro entry hentry heq
        have hsame : entry.1 = head.1 := (beq_iff_eq.mp heq).trans hkey
        exact h.1 (hsame ▸ List.mem_map_of_mem hentry)
      have hbeq : (head.1 == key) = true := beq_iff_eq.mpr hkey.symm
      rw [htail, if_pos hkey, hbeq]
      rfl
    · have hbeq : (head.1 == key) = false := beq_eq_false_iff_ne.mpr (Ne.symm hkey)
      rw [if_neg hkey, hbeq]

/-- In one table over another, a key is looked up in the upper one first. The entries of the upper
table are inserted into the lower one. -/
theorem find?_overlay (upper lower : Table α) (key : String) :
    (upper.overlay lower).find? key = (upper.find? key).or (lower.find? key) :=
  find?_insertAll upper.nodup_keys lower key

/-- Entries in the order of their keys have no other such order. So a table does not depend on the
order in which its entries were inserted. -/
theorem entries_eq_of_perm {entries sorted : List (String × α)} (hperm : entries.Perm sorted)
    (hentries : entries.Pairwise (fun a b => a.1 < b.1))
    (hsorted : sorted.Pairwise (fun a b => a.1 < b.1)) : entries = sorted := by
  have hanti : ∀ a b : String × α, a.1 < b.1 → b.1 < a.1 → a = b := fun a b hab hba =>
    absurd (String.lt_trans hab hba) (String.lt_irrefl _)
  exact List.Perm.eq_of_pairwise (fun a b _ _ => hanti a b) hentries hsorted hperm

/-- Tables in which the same is found under every key are the same. They have the same entries, and
there is one order for these. -/
theorem ext_of_find? {t u : Table α} (h : ∀ key, t.find? key = u.find? key) : t = u := by
  have hmem : ∀ entry, entry ∈ t.entries ↔ entry ∈ u.entries := by
    intro entry
    rw [← find?_eq_some_iff, ← find?_eq_some_iff, h]
  have hnodup : ∀ t : Table α, t.entries.Nodup := fun t => List.Nodup.of_map _ t.nodup_keys
  have hperm := (List.perm_ext_iff_of_nodup (hnodup t) (hnodup u)).mpr hmem
  have hentries := entries_eq_of_perm hperm t.sorted u.sorted
  cases t
  cases u
  cases hentries
  rfl

/-- It makes no difference which two of three tables are put over each other first. Under every key
the first of the three that has an entry is found. -/
theorem overlay_assoc (a b c : Table α) : (a.overlay b).overlay c = a.overlay (b.overlay c) := by
  refine ext_of_find? fun key => ?_
  simp only [find?_overlay, Option.or_assoc]

end Polyglot.Table

namespace Polyglot

universe u

variable {α : Type u}

/-! ### Entries in any order -/

/-- Putting a new key in only adds its entry. If the key were there, its entry would be replaced and
not added. -/
theorem insertSorted_perm {key : String} (value : α) {entries : List (String × α)}
    (h : key ∉ entries.map (·.1)) :
    (insertSorted key value entries).Perm ((key, value) :: entries) := by
  induction entries with
  | nil => exact List.Perm.refl _
  | cons head tail ih =>
    rw [List.map_cons, List.mem_cons, not_or] at h
    rw [insertSorted, if_neg h.1]
    split
    · exact List.Perm.refl _
    · exact ((ih h.2).cons head).trans (List.Perm.swap _ _ _)

/-- Putting entries with different new keys in only adds them. The induction is on the entries, for
any that are there already. -/
theorem foldl_insertSorted_perm {entries done : List (String × α)}
    (h : ((entries ++ done).map (·.1)).Nodup) :
    (entries.foldl (fun done e => insertSorted e.1 e.2 done) done).Perm (entries ++ done) := by
  induction entries generalizing done with
  | nil => exact List.Perm.refl _
  | cons head tail ih =>
    rw [List.cons_append, List.map_cons, List.nodup_cons] at h
    have hnew : head.1 ∉ done.map (·.1) := fun hmem =>
      h.1 (by rw [List.map_append]; exact List.mem_append_right _ hmem)
    -- where the head is put makes no difference to which keys are there
    have hperm : (tail ++ insertSorted head.1 head.2 done).Perm (head :: (tail ++ done)) :=
      ((insertSorted_perm head.2 hnew).append_left tail).trans List.perm_middle
    have hnodup : ((tail ++ insertSorted head.1 head.2 done).map (·.1)).Nodup :=
      ((hperm.map _).nodup_iff).mpr (List.nodup_cons.mpr h)
    exact (ih hnodup).trans hperm

/-- Entries are sorted by being put in one after the other. -/
theorem pairwise_foldl_insertSorted (entries : List (String × α)) {done : List (String × α)}
    (h : done.Pairwise (fun a b => a.1 < b.1)) :
    (entries.foldl (fun done e => insertSorted e.1 e.2 done) done).Pairwise
      (fun a b => a.1 < b.1) := by
  induction entries generalizing done with
  | nil => exact h
  | cons head tail ih => exact ih (pairwise_insertSorted head.1 head.2 h)

/-- No two entries have the same key if the keys increase. -/
theorem nodup_of_pairwise_lt {entries : List (String × α)}
    (h : entries.Pairwise (fun a b => a.1 < b.1)) : (entries.map (·.1)).Nodup :=
  Table.nodup_keys ⟨entries, h⟩

/-- Entries with different keys are only rearranged by being sorted. -/
theorem foldl_insertSorted_perm_self {entries : List (String × α)}
    (h : (entries.map (·.1)).Nodup) :
    (entries.foldl (fun done e => insertSorted e.1 e.2 done) []).Perm entries := by
  have hperm := foldl_insertSorted_perm (by rw [List.append_nil]; exact h)
  rwa [List.append_nil] at hperm

/-- A rearrangement of entries with increasing keys is sorted into them. This is what makes it
possible to read an object back from its members in any order. -/
theorem foldl_insertSorted_of_perm {entries sorted : List (String × α)}
    (hperm : entries.Perm sorted) (h : sorted.Pairwise (fun a b => a.1 < b.1)) :
    entries.foldl (fun done e => insertSorted e.1 e.2 done) [] = sorted := by
  have hnodup : (entries.map (·.1)).Nodup := ((hperm.map _).nodup_iff).mpr (nodup_of_pairwise_lt h)
  have hself := foldl_insertSorted_perm_self hnodup
  exact Table.entries_eq_of_perm (hself.trans hperm) (pairwise_foldl_insertSorted entries .nil) h

/-- Every entry after a sorting was there before. The converse fails where two entries have the same
key. -/
theorem mem_of_mem_foldl_insertSorted {entries done : List (String × α)} {entry : String × α}
    (h : entry ∈ entries.foldl (fun done e => insertSorted e.1 e.2 done) done) :
    entry ∈ entries ∨ entry ∈ done := by
  induction entries generalizing done with
  | nil => exact .inr h
  | cons head tail ih =>
    rcases ih h with h | h
    · exact .inl (List.mem_cons_of_mem _ h)
    · rcases mem_insertSorted h with rfl | h
      · exact .inl List.mem_cons_self
      · exact .inr h

namespace Table

/-- A table is made of entries by sorting them. On this side lists are easier to follow than tables,
which carry their order with them. -/
theorem entries_insertAll (t : Table α) (entries : List (String × α)) :
    (t.insertAll entries).entries =
      entries.foldl (fun done e => insertSorted e.1 e.2 done) t.entries := by
  induction entries generalizing t with
  | nil => rfl
  | cons head tail ih => exact ih (t.insert head.1 head.2)

/-- Every entry of a table is one of those it was made of. -/
theorem mem_of_mem_entries_ofList {entries : List (String × α)} {entry : String × α}
    (h : entry ∈ (ofList entries).entries) : entry ∈ entries := by
  rw [ofList, entries_insertAll] at h
  exact (mem_of_mem_foldl_insertSorted h).resolve_right (fun h => nomatch h)

/-- A table is made of its entries in any order. -/
theorem ofList_of_perm {entries : List (String × α)} {t : Table α}
    (h : entries.Perm t.entries) : ofList entries = t := by
  have hentries : (ofList entries).entries = t.entries := by
    rw [ofList, entries_insertAll]
    exact foldl_insertSorted_of_perm h t.sorted
  cases t
  cases hmade : ofList entries
  rw [hmade] at hentries
  cases hentries
  rfl

end Table

end Polyglot
