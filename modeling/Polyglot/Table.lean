/-!
# `Polyglot.Table`: finite maps from names to values

A profile names its character classes, token types and states, and a registry names its
profiles. Each of these is a `Table`: an association list whose keys strictly increase in
code point order. The order is part of the type, so two tables with the same entries are
equal, the keys come out sorted, and the index of a key is a function of the set of keys.

* `Table.find?` looks a name up, `Table.insert` adds or replaces one entry.
* `Table.overlay` puts one table over another: the upper entries win.
* `Table.ofList` reads a list of entries, of which the last with a given key counts.

The work is done by `insertSorted` on plain lists; the lemmas here say that it keeps the
keys sorted, which keys it leaves in the list, and what is found afterwards
(`Table.find?_insert`).
-/

set_option autoImplicit false

namespace Polyglot

universe u v

/-- Put `key ↦ value` into an association list with increasing keys, in place of the entry
that has the key already, if there is one. -/
def insertSorted {α : Type u} (key : String) (value : α) : List (String × α) → List (String × α)
  | [] => [(key, value)]
  | entry :: rest =>
    if key < entry.1 then (key, value) :: entry :: rest
    else if key = entry.1 then (key, value) :: rest
    else entry :: insertSorted key value rest

/-- Every key after an insertion is the new one or was there before. -/
theorem mem_insertSorted {α : Type u} {key : String} {value : α} {entries : List (String × α)}
    {entry : String × α} (h : entry ∈ insertSorted key value entries) :
    entry = (key, value) ∨ entry ∈ entries := by
  induction entries with
  | nil => simpa [insertSorted] using h
  | cons head tail ih =>
    simp only [insertSorted] at h
    split at h
    · simpa using h
    · split at h
      · rcases List.mem_cons.mp h with h | h
        · exact .inl h
        · exact .inr (List.mem_cons_of_mem _ h)
      · rcases List.mem_cons.mp h with h | h
        · exact .inr (h ▸ List.mem_cons_self)
        · exact (ih h).imp id (List.mem_cons_of_mem _)

/-- Insertion keeps the keys strictly increasing. -/
theorem pairwise_insertSorted {α : Type u} (key : String) (value : α)
    {entries : List (String × α)} (h : entries.Pairwise (fun a b => a.1 < b.1)) :
    (insertSorted key value entries).Pairwise (fun a b => a.1 < b.1) := by
  induction entries with
  | nil => simp [insertSorted]
  | cons head tail ih =>
    obtain ⟨hhead, htail⟩ := List.pairwise_cons.mp h
    simp only [insertSorted]
    split
    · rename_i hlt
      refine List.pairwise_cons.mpr ⟨fun e he => ?_, h⟩
      rcases List.mem_cons.mp he with he | he
      · exact he ▸ hlt
      · exact String.lt_trans hlt (hhead e he)
    · rename_i hlt
      split
      · rename_i heq
        exact List.pairwise_cons.mpr ⟨fun e he => heq ▸ hhead e he, htail⟩
      · rename_i hne
        refine List.pairwise_cons.mpr ⟨fun e he => ?_, ih htail⟩
        rcases mem_insertSorted he with he | he
        · -- neither smaller nor equal, so the new key comes after the head
          subst he
          exact String.not_le.mp fun hle => hlt
            (Std.lt_of_le_of_ne hle hne)
        · exact hhead e he

/-- Looking a name up after an insertion: the new value under the new key, and what was there
under any other. -/
theorem find?_insertSorted {α : Type u} (key : String) (value : α) (entries : List (String × α))
    (other : String) :
    ((insertSorted key value entries).find? (·.1 == other)).map (·.2) =
      if other = key then some value else (entries.find? (·.1 == other)).map (·.2) := by
  induction entries with
  | nil =>
    by_cases h : other = key
    · simp [insertSorted, h]
    · simp [insertSorted, h, Ne.symm h]
  | cons head tail ih =>
    simp only [insertSorted]
    split
    · by_cases h : other = key
      · simp [h]
      · simp [h, Ne.symm h, List.find?_cons]
    · split
      · rename_i heq
        by_cases h : other = key
        · simp [h]
        · have hhead : ¬ head.1 = other := fun e => h (e ▸ heq.symm)
          simp [h, Ne.symm h, hhead]
      · rename_i hne
        by_cases hhead : head.1 = other
        · have h : ¬ other = key := fun e => hne (e ▸ hhead.symm)
          simp [hhead, h]
        · have hstep : (head.1 == other) = false := by simpa using hhead
          simp only [List.find?_cons, hstep]
          exact ih

/-- A finite map from names to values, its keys strictly increasing. -/
structure Table (α : Type u) where
  /-- The entries in key order. -/
  entries : List (String × α)
  /-- Each key is smaller than all keys after it. -/
  sorted : entries.Pairwise (fun a b => a.1 < b.1)

namespace Table

variable {α : Type u} {β : Type v}

/-- The table without entries. -/
def empty : Table α := ⟨[], List.Pairwise.nil⟩

instance : EmptyCollection (Table α) := ⟨empty⟩

instance : Inhabited (Table α) := ⟨empty⟩

/-- The value of a name. -/
def find? (t : Table α) (key : String) : Option α :=
  (t.entries.find? (·.1 == key)).map (·.2)

/-- Add `key ↦ value`, replacing an earlier value of the name. -/
def insert (t : Table α) (key : String) (value : α) : Table α :=
  ⟨insertSorted key value t.entries, pairwise_insertSorted key value t.sorted⟩

/-- Insert entries one after the other, so the last value of a name counts. -/
def insertAll (t : Table α) (entries : List (String × α)) : Table α :=
  entries.foldl (fun t e => t.insert e.1 e.2) t

/-- The table of a list of entries, of which the last with a given name counts. -/
def ofList (entries : List (String × α)) : Table α :=
  empty.insertAll entries

/-- `upper` over `lower`: every entry of `upper`, and those of `lower` under other names. -/
def overlay (upper lower : Table α) : Table α :=
  lower.insertAll upper.entries

/-- Nothing is found in the empty table. -/
@[simp] theorem find?_empty (key : String) : (empty : Table α).find? key = none := rfl

/-- An insertion is found under its key and changes nothing under others. -/
theorem find?_insert (t : Table α) (key : String) (value : α) (other : String) :
    (t.insert key value).find? other = if other = key then some value else t.find? other :=
  find?_insertSorted key value t.entries other

/-- The names in increasing order. -/
def keys (t : Table α) : List String := t.entries.map (·.1)

/-- The number of entries. -/
def size (t : Table α) : Nat := t.entries.length

/-- Whether the table has no entry. -/
def isEmpty (t : Table α) : Bool := t.entries.isEmpty

end Table

end Polyglot
