import Polyglot.Json.Decode
import Polyglot.Proofs.Json.Parsing
import Polyglot.Proofs.Support.Option
import Polyglot.Proofs.Table

/-!
# `Polyglot.Proofs.Json.Stating`: the documents that state a value

A value can be written in many ways: the members of an object may come in any order.
`Json.Raw.States` says of a document that it is one of them. `Json.raw` is one
(`Writable.states_raw`), and so is what any other writer makes of the value that keeps to its
names. Every one of them has the value (`Raw.States.value?`).

Conversely a value that was read from a document can be written, with no more depth than the
document has, if its numbers are integers (`writable_of_value?`).

The fields of an object are sorted by `Json.object`, which rearranges fields with different names
(`exists_object_eq`).
-/

set_option autoImplicit false

namespace Polyglot.Json

/-- A document that states a value, the members of objects in any order; `document` gives the
document under each name. -/
inductive Raw.States : Raw → Json → Prop where
  /-- The word `null`. -/
  | null : States .null .null
  /-- A truth value. -/
  | bool (b : Bool) : States (.bool b) (.bool b)
  /-- A number. -/
  | num (n : Number) : States (.num n) (.num n)
  /-- A string. -/
  | str (s : String) : States (.str s) (.str s)
  /-- The empty list. -/
  | nil : States (.arr []) (.arr [])
  /-- A list with a first item. -/
  | cons {item : Raw} {value : Json} {items : List Raw} {values : List Json}
      (h : States item value) (hrest : States (.arr items) (.arr values)) :
      States (.arr (item :: items)) (.arr (value :: values))
  /-- An object. -/
  | obj {members : List (String × Raw)} {fields : List (String × Json)}
      (document : String → Raw) (hsorted : fields.Pairwise (fun a b => a.1 < b.1))
      (hmembers : members.Perm (fields.map fun f => (f.1, document f.1)))
      (h : ∀ field ∈ fields, States (document field.1) field.2) :
      States (.obj members) (.obj fields)

namespace Raw.States

/-- The items of a list that states a list state its items. Lists keep their order, other than
objects. -/
theorem forall₂ {items : List Raw} {values : List Json} (h : (arr items).States (.arr values)) :
    List.Forall₂ States items values := by
  induction items generalizing values with
  | nil =>
    cases h
    exact .nil
  | cons item items ih =>
    cases h with
    | cons h hrest => exact .cons h (ih hrest)

/-- Only a list states a list. -/
theorem exists_items {r : Raw} {values : List Json} (h : r.States (.arr values)) :
    ∃ items, r = .arr items ∧ List.Forall₂ States items values := by
  cases r with
  | arr items => exact ⟨items, rfl, h.forall₂⟩
  | _ => cases h

/-- The word `null` states `null` only. -/
theorem eq_null {j : Json} (h : Raw.null.States j) : j = .null := by
  cases h
  rfl

/-- Only a string states a string. -/
theorem eq_str {r : Raw} {s : String} (h : r.States (.str s)) : r = .str s := by
  cases h
  rfl

/-- Only a truth value states a truth value. -/
theorem eq_bool {r : Raw} {b : Bool} (h : r.States (.bool b)) : r = .bool b := by
  cases h
  rfl

/-- Only a number states a number. -/
theorem eq_num {r : Raw} {n : Number} (h : r.States (.num n)) : r = .num n := by
  cases h
  rfl

end Raw.States

/-- A value is stated by the document that is made for it. There are others, with members in another
order or with numbers written in another way. -/
theorem Writable.states_raw {depth : Nat} {j : Json} (h : j.Writable depth) : j.raw.States j := by
  induction h with
  | null => exact .null
  | bool b => exact .bool b
  | num h => exact .num _
  | str s => exact .str s
  | @arr depth items h ih =>
    rw [raw, rawItems_eq_map]
    clear h
    induction items with
    | nil => exact .nil
    | cons item items ihrest =>
      exact .cons (ih item List.mem_cons_self)
        (ihrest fun item hitem => ih item (List.mem_cons_of_mem _ hitem))
  | @obj depth fields hsorted h ih =>
    -- a name has one field, so it has one document
    let t : Table Json := ⟨fields, hsorted⟩
    have hdocument : ∀ field ∈ fields, ((t.find? field.1).map raw).getD .unread = field.2.raw :=
      fun field hfield => by rw [Table.find?_eq_some_iff.mpr hfield]; rfl
    refine .obj (fun name => ((t.find? name).map raw).getD .unread) hsorted ?_
      fun field hfield => ?_
    · rw [rawFields_eq_map]
      refine List.Perm.of_eq (List.map_congr_left fun field hfield => ?_)
      rw [hdocument field hfield]
    · rw [hdocument field hfield]
      exact ih field hfield

/-! ### The value of a document -/

/-- The items of a list have values if each of them has one. -/
theorem Raw.itemValues?_eq_mapM (items : List Raw) :
    Raw.itemValues? items = items.mapM Raw.value? := by
  induction items with
  | nil => rfl
  | cons item items ih =>
    rw [itemValues?, List.mapM_cons, ih]

/-- The members of an object have values if each of them has one. -/
theorem Raw.memberValues?_eq_mapM (members : List (String × Raw)) :
    Raw.memberValues? members = members.mapM fun m => m.2.value?.map fun v => (m.1, v) := by
  induction members with
  | nil => rfl
  | cons member members ih =>
    rw [memberValues?, List.mapM_cons, ih]
    cases member.2.value? <;> rfl

/-- A document that states a value has the value. The value of an object is made by sorting its
members, so their order in the document is lost. -/
theorem Raw.States.value? {r : Raw} {j : Json} (h : r.States j) : r.value? = some j := by
  induction h with
  | null | bool | num | str | nil => rfl
  | @cons item value items values h hrest ih ihrest =>
    obtain ⟨values', hvalues', heq⟩ := Option.map_eq_some_iff.mp ihrest
    cases heq
    rw [Raw.value?, Raw.itemValues?, ih, hvalues']
    rfl
  | @obj members fields document hsorted hmembers h ih =>
    have hfields : (fields.map fun f => (f.1, document f.1)).mapM
        (fun m => m.2.value?.map fun v => (m.1, v)) = some fields := by
      rw [option_mapM_eq_some_iff, List.forall₂_map_left_iff, List.forall₂_same]
      intro field hfield
      rw [ih field hfield]
      rfl
    obtain ⟨fields', hfields', hperm⟩ := exists_option_mapM_perm hmembers hfields
    rw [Raw.value?, Raw.memberValues?_eq_mapM, hfields', Option.map_some, object,
      foldl_insertSorted_of_perm hperm hsorted]

/-- Every part of a document that states a value has a value. Numbers and strings that cannot be
read state nothing. -/
theorem Raw.States.isRead {r : Raw} {j : Json} (h : r.States j) : r.isRead = true := by
  rw [Raw.isRead, h.value?]
  rfl

/-! ### Values that were read -/

mutual

/-- The numbers in a value. -/
def numbers : Json → List Number
  | .num n => [n]
  | .arr items => itemNumbers items
  | .obj fields => fieldNumbers fields
  | _ => []

/-- The numbers in the items of a list. -/
def itemNumbers : List Json → List Number
  | [] => []
  | item :: rest => numbers item ++ itemNumbers rest

/-- The numbers in the fields of an object. -/
def fieldNumbers : List (String × Json) → List Number
  | [] => []
  | (_, field) :: rest => numbers field ++ fieldNumbers rest

end

/-- The numbers in a list are those in its items. -/
theorem mem_itemNumbers_iff {items : List Json} {n : Number} :
    n ∈ itemNumbers items ↔ ∃ item ∈ items, n ∈ item.numbers := by
  induction items with
  | nil => simp [itemNumbers]
  | cons item items ih => rw [itemNumbers, List.mem_append, ih, List.exists_mem_cons_iff]

/-- The numbers in an object are those in its fields. -/
theorem mem_fieldNumbers_iff {fields : List (String × Json)} {n : Number} :
    n ∈ fieldNumbers fields ↔ ∃ field ∈ fields, n ∈ field.2.numbers := by
  induction fields with
  | nil => simp [fieldNumbers]
  | cons field fields ih => rw [fieldNumbers, List.mem_append, ih, List.exists_mem_cons_iff]

/-- An object can be written if its fields can. They are sorted when the object is made of them. -/
theorem Writable.object {depth : Nat} {fields : List (String × Json)}
    (h : ∀ field ∈ fields, field.2.Writable depth) :
    (Json.object fields).Writable (depth + 1) := by
  refine .obj (pairwise_foldl_insertSorted fields .nil) fun field hfield => ?_
  exact h field ((mem_of_mem_foldl_insertSorted hfield).resolve_right fun h => nomatch h)

/-- A value that was read can be written if its numbers are integers. The induction is on the room
for the document. The value nests no deeper than the document does. -/
theorem writable_of_value? {r : Raw} {j : Json} {room : Nat} (h : r.value? = some j)
    (hnumbers : ∀ n ∈ j.numbers, n.Whole) (hdepth : r.depth ≤ room) : j.Writable room := by
  induction room generalizing r j with
  | zero =>
    cases r with
    | null | bool | str =>
      cases h
      constructor
    | num n =>
      cases h
      exact .num (hnumbers n List.mem_cons_self)
    | arr | obj => exact absurd hdepth (Nat.not_succ_le_zero _)
    | unread => cases h
  | succ room ih =>
    cases r with
    | null | bool | str =>
      cases h
      constructor
    | num n =>
      cases h
      exact .num (hnumbers n List.mem_cons_self)
    | arr items =>
      obtain ⟨values, hvalues, rfl⟩ := Option.map_eq_some_iff.mp h
      rw [Raw.itemValues?_eq_mapM] at hvalues
      have hitems := Raw.itemsDepth_le_iff.mp (Nat.le_of_succ_le_succ hdepth)
      refine .arr fun value hvalue => ?_
      obtain ⟨item, hitem, hread⟩ := exists_mem_of_option_mapM hvalues hvalue
      exact ih hread (fun n hn => hnumbers n (mem_itemNumbers_iff.mpr ⟨value, hvalue, hn⟩))
        (hitems item hitem)
    | obj members =>
      obtain ⟨fields, hfields, rfl⟩ := Option.map_eq_some_iff.mp h
      rw [Raw.memberValues?_eq_mapM] at hfields
      have hmembers := Raw.membersDepth_le_iff.mp (Nat.le_of_succ_le_succ hdepth)
      refine .obj (pairwise_foldl_insertSorted fields .nil) fun field hfield => ?_
      -- of the members with one name the last is left, and that is one of them
      obtain ⟨member, hmember, hread⟩ := exists_mem_of_option_mapM hfields
        ((mem_of_mem_foldl_insertSorted hfield).resolve_right fun h => nomatch h)
      obtain ⟨value, hvalue, rfl⟩ := Option.map_eq_some_iff.mp hread
      exact ih hvalue (fun n hn => hnumbers n (mem_fieldNumbers_iff.mpr ⟨_, hfield, hn⟩))
        (hmembers member hmember)
    | unread => cases h

/-- Fields with different names make an object with the same fields in increasing order. With equal
names the later field would take the place of the earlier one. -/
theorem exists_object_eq {fields : List (String × Json)} (h : (fields.map (·.1)).Nodup) :
    ∃ sorted, object fields = .obj sorted ∧ sorted.Perm fields :=
  ⟨_, rfl, foldl_insertSorted_perm_self h⟩

end Polyglot.Json
