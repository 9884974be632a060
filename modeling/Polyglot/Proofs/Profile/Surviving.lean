import Polyglot.Profile.Read
import Polyglot.Proofs.Profile.Fields

/-!
# `Polyglot.Proofs.Profile.Surviving`: what reading and writing keep

A value survives (`Survives`) if, once it was read from a document, it can be written with no more
depth than the document may have, and is read again from every document that states what was
written. That it was read at first matters in two ways: a number is in the range of its type, and
the depth of the document bounds the depth of what is written.

The rules by which documents state data each have a lemma. A field of a record survives
(`FieldSurvives`) if it is required, optional or has a default; fields survive together
(`FieldsSurvive`) if each does, as a tuple of their values; and a record survives
(`RecordSurvives`) with the fields it is made of (`FieldsSurvive.record`). A tagged alternative is
a record with one more field (`RecordSurvives.tagged`).
-/

set_option autoImplicit false

namespace Polyglot

open Json (Raw)
open Json.Raw (fields? required withDefault optional string? bool? word? char? list? table?
  choice? tagged? tag?)

variable {α β τ : Type} {depth : Nat}

/-- A value that was read from a document can be written as `j`, and is read from every document
that states `j`. -/
def Survives (depth : Nat) (read : Raw → Option α) (x : α) (j : Json) : Prop :=
  ∀ r : Raw, read r = some x → r.depth ≤ depth →
    j.Writable depth ∧ ∀ r' : Raw, r'.States j → read r' = some x

/-- The same for a field of a record, which may be absent from the document and from what is
written. -/
def FieldSurvives (depth : Nat) (read : Option Raw → Option α) (x : α) (j : Option Json) : Prop :=
  ∀ out : Option Raw, read out = some x → (∀ r ∈ out, r.depth ≤ depth) →
    (∀ value ∈ j, value.Writable depth) ∧
      ∀ out' : Option Raw, Option.Rel Raw.States out' j → read out' = some x

/-- The same for all fields of a record, which are written under their names. -/
def FieldsSurvive (depth : Nat) (read : List (Option Raw) → Option τ) (t : τ)
    (values : List (String × Option Json)) : Prop :=
  ∀ outs : List (Option Raw), read outs = some t → (∀ out ∈ outs, ∀ r ∈ out, r.depth ≤ depth) →
    (∀ value ∈ values, ∀ j ∈ value.2, j.Writable depth) ∧
      ∀ outs', List.Forall₂ (Option.Rel Raw.States) outs' (values.map (·.2)) → read outs' = some t

/-- The same for a record, of which the fields that are present are written. -/
structure RecordSurvives (depth : Nat) (read : Raw → Option α) (x : α)
    (fields : List (String × Json)) : Prop where
  /-- No two fields have the same name. -/
  nodup : (fields.map (·.1)).Nodup
  /-- The record can be written, and is read from every object with its fields. -/
  survives : ∀ r : Raw, read r = some x → r.depth ≤ depth →
    (∃ d, depth = d + 1 ∧ ∀ field ∈ fields, field.2.Writable d) ∧
      ∀ r' : Raw, r'.HasFields fields → read r' = some x

/-- What was read from a container leaves room for the parts inside. The depth of documents is
bounded, and a container has used up one level of it. -/
theorem exists_room {r : Raw} (hdepth : r.depth ≤ depth) (hpos : 0 < r.depth) :
    ∃ d, depth = d + 1 :=
  Nat.exists_eq_add_one.mpr (Nat.lt_of_lt_of_le hpos hdepth)

/-! ### Plain values -/

namespace Survives

/-- A string survives. -/
theorem string {s : String} : Survives depth string? s (.str s) := by
  intro r hread hdepth
  refine ⟨.str s, fun r' hr' => ?_⟩
  rw [hr'.eq_str]
  rfl

/-- A truth value survives. -/
theorem bool {b : Bool} : Survives depth bool? b (.bool b) := by
  intro r hread hdepth
  refine ⟨.bool b, fun r' hr' => ?_⟩
  rw [hr'.eq_bool]
  rfl

/-- A number of at most 64 binary digits survives. -/
theorem word (bits : Nat) {n : Nat} (hbits : bits ≤ 64) :
    Survives depth (word? bits) n (.nat n) := by
  intro r hread hdepth
  have hn : n < Nat.pow 2 bits := by
    unfold word? at hread
    split at hread
    · split at hread
      · rename_i h
        cases hread
        exact h.2
      · cases hread
    · cases hread
  have hrange : n < 2 ^ 64 := Nat.lt_of_lt_of_le hn (Nat.pow_le_pow_right (by decide) hbits)
  refine ⟨.num (Json.Number.whole_iff.mpr ⟨by omega, by omega⟩), fun r' hr' => ?_⟩
  rw [hr'.eq_num, word?, if_pos ⟨Int.natCast_nonneg n, hn⟩]
  rfl

/-- A character survives. It is written as a string of one character, and no other string is read as
a character. -/
theorem char {c : Char} : Survives depth char? c (Matcher.charJson c) := by
  intro r hread hdepth
  refine ⟨.str _, fun r' hr' => ?_⟩
  rw [hr'.eq_str, char?, String.toList_singleton]

/-- A plain alternative survives as its name. -/
theorem choice {inner : Bool} {alternative : String → Option α} {name : String} {x : α}
    (h : alternative name = some x) : Survives depth (choice? inner alternative) x (.str name) := by
  intro r hread hdepth
  refine ⟨.str name, fun r' hr' => ?_⟩
  rw [hr'.eq_str]
  exact h

/-- A list survives if its items do. The items have one level of nesting less than the list, so they
need to survive in the room that is left. -/
theorem list {read : Raw → Option α} {write : α → Json} {xs : List α}
    (h : ∀ d, depth = d + 1 → ∀ x ∈ xs, Survives d read x (write x)) :
    Survives depth (list? read) xs (.arr (xs.map write)) := by
  intro r hread hdepth
  cases r with
  | arr items =>
    -- the items have one level less
    obtain ⟨d, rfl⟩ := exists_room hdepth (Nat.succ_pos _)
    have hitems := Json.Raw.itemsDepth_le_iff.mp (Nat.le_of_succ_le_succ hdepth)
    have hkept : ∀ x ∈ xs, (write x).Writable d ∧
        ∀ r' : Raw, r'.States (write x) → read r' = some x := by
      intro x hx
      obtain ⟨item, hitem, hread⟩ := exists_mem_of_option_mapM hread hx
      exact h d rfl x hx item hread (hitems item hitem)
    refine ⟨.arr (List.forall_mem_map.mpr fun x hx => (hkept x hx).1), fun r' hr' => ?_⟩
    obtain ⟨items', rfl, hstates⟩ := hr'.exists_items
    rw [List.forall₂_map_right_iff, List.forall₂_iff_zip] at hstates
    rw [list?, option_mapM_eq_some_iff, List.forall₂_iff_zip]
    refine ⟨hstates.1, fun {item x} hmem => ?_⟩
    exact (hkept x (List.of_mem_zip hmem).2).2 item (hstates.2 hmem)
  | _ => cases hread

/-- A list of strings survives. -/
theorem strings {xs : List String} : Survives depth (list? string?) xs (.strings xs) :=
  list fun _ _ _ _ => string

/-- A table survives if its values do. Its entries are written in the order of their keys, and read
back from any order, since inserting them sorts them again. -/
theorem table {read : Raw → Option α} {write : α → Json} {t : Table α}
    (h : ∀ d, depth = d + 1 → ∀ entry ∈ t.entries, Survives d read entry.2 (write entry.2)) :
    Survives depth (table? read) t (t.json write) := by
  intro r hread hdepth
  cases r with
  | obj members =>
    obtain ⟨d, rfl⟩ := exists_room hdepth (Nat.succ_pos _)
    have hmembers := Json.Raw.membersDepth_le_iff.mp (Nat.le_of_succ_le_succ hdepth)
    obtain ⟨entries, hentries, rfl⟩ := Option.map_eq_some_iff.mp hread
    have hkept : ∀ entry ∈ (Table.ofList entries).entries, (write entry.2).Writable d ∧
        ∀ r' : Raw, r'.States (write entry.2) → read r' = some entry.2 := by
      intro entry hentry
      obtain ⟨member, hmember, hstep⟩ :=
        exists_mem_of_option_mapM hentries (Table.mem_of_mem_entries_ofList hentry)
      obtain ⟨value, hvalue, rfl⟩ := Option.map_eq_some_iff.mp hstep
      exact h d rfl _ hentry member.2 hvalue (hmembers member hmember)
    generalize Table.ofList entries = t at hkept
    refine ⟨.obj (List.pairwise_map.mpr t.sorted) (List.forall_mem_map.mpr fun entry hentry =>
      (hkept entry hentry).1), fun r' hr' => ?_⟩
    unfold Table.json at hr'
    cases hr' with
    | @obj members' _ document hsorted hmembers' hstates =>
      rw [List.map_map] at hmembers'
      -- in the order of the table each document is read as its entry, and any order will do
      have hown : (t.entries.map ((fun f => (f.1, document f.1)) ∘ fun e => (e.1, write e.2))).mapM
          (fun m => (read m.2).map fun v => (m.1, v)) = some t.entries := by
        rw [option_mapM_eq_some_iff, List.forall₂_map_left_iff, List.forall₂_same]
        intro entry hentry
        have hdocument := hstates (entry.1, write entry.2)
          (List.mem_map.mpr ⟨entry, hentry, rfl⟩)
        show (read (document entry.1)).map _ = _
        rw [(hkept entry hentry).2 _ hdocument]
        rfl
      obtain ⟨entries', hentries', hperm⟩ := exists_option_mapM_perm hmembers' hown
      rw [table?, hentries', Option.map_some, Table.ofList_of_perm hperm]
  | _ => cases hread

/-- What is made of a value survives if the value does. Different values have to be made into
different ones, or else the value that was read would not be known. -/
theorem map {read : Raw → Option β} {b : β} {j : Json} (h : Survives depth read b j) (make : β → α)
    (hmake : Function.Injective make) {read' : Raw → Option α}
    (hread : ∀ r, read' r = (read r).map make) : Survives depth read' (make b) j := by
  intro r hr hdepth
  rw [hread] at hr
  obtain ⟨b', hb', heq⟩ := Option.map_eq_some_iff.mp hr
  obtain rfl := hmake heq
  obtain ⟨hj, hback⟩ := h r hb' hdepth
  refine ⟨hj, fun r' hr' => ?_⟩
  rw [hread, hback r' hr', Option.map_some]

/-- What is read from an object with one name survives if it does from the document under the name.
There is no second field that could come before it. -/
theorem sole {read : Raw → Option α} {x : α} {name : String} {j : Json}
    (h : ∀ d, depth = d + 1 → Survives d (fun body => read (.obj [(name, body)])) x j)
    (hsole : ∀ r, read r = some x → ∃ body, r = .obj [(name, body)]) :
    Survives depth read x (.object [(name, j)]) := by
  intro r hread hdepth
  obtain ⟨body, rfl⟩ := hsole r hread
  obtain ⟨d, rfl⟩ := exists_room hdepth (Nat.succ_pos _)
  have hbody := Json.Raw.membersDepth_le_iff.mp (Nat.le_of_succ_le_succ hdepth)
    (name, body) List.mem_cons_self
  obtain ⟨hj, hback⟩ := h d rfl body hread hbody
  refine ⟨.object (List.forall_mem_singleton.mpr hj), fun r' hr' => ?_⟩
  have hnodup : ([(name, j)].map (·.1)).Nodup := List.nodup_singleton name
  obtain ⟨members, document, rfl, hmembers, hstates⟩ := hr'.hasFields hnodup
  rw [List.perm_singleton.mp hmembers]
  exact hback _ (hstates (name, j) List.mem_cons_self)

/-- What is read only if every part of it has a value survives as if it were always read. A document
that states a value has one in every part. -/
theorem guarded {read : Raw → Option α} {x : α} {j : Json} (h : Survives depth read x j) :
    Survives depth (fun r => do guard r.isRead; read r) x j := by
  have hguard : ∀ {r : Raw} {y : α}, (do guard r.isRead; read r : Option α) = some y ↔
      r.isRead = true ∧ read r = some y := by
    intro r y
    cases r.isRead <;> simp [guard]
  intro r hread hdepth
  obtain ⟨hj, hback⟩ := h r (hguard.mp hread).2 hdepth
  exact ⟨hj, fun r' hr' => hguard.mpr ⟨hr'.isRead, hback r' hr'⟩⟩

end Survives

/-! ### Fields -/

namespace FieldSurvives

/-- A field that is written as `j` survives if its value does. -/
theorem of_some {readField : Option Raw → Option α} {read : Raw → Option α} {x : α} {j : Json}
    (hfield : ∀ r : Raw, r.States j → readField (some r) = read r) (hj : j.Writable depth)
    (hback : ∀ r : Raw, r.States j → read r = some x) :
    (∀ value ∈ some j, value.Writable depth) ∧
      ∀ out : Option Raw, Option.Rel Raw.States out (some j) → readField out = some x := by
  refine ⟨fun value hvalue => Option.some.inj hvalue ▸ hj, fun out hout => ?_⟩
  cases hout with
  | some hstates => exact (hfield _ hstates).trans (hback _ hstates)

/-- A required field survives if its value does. -/
theorem required {read : Raw → Option α} {x : α} {j : Json} (h : Survives depth read x j) :
    FieldSurvives depth (Json.Raw.required read) x (some j) := by
  intro out hread hdepth
  cases out with
  | none => cases hread
  | some r =>
    obtain ⟨hj, hback⟩ := h r hread (hdepth r rfl)
    exact of_some (fun _ _ => rfl) hj hback

/-- A field with a default that is always written survives if its value does and the default could
have been read. If the field was absent, what is known of its value comes from the document that
states the default. -/
theorem withDefault (default : α) (r₀ : Raw) {read : Raw → Option α} {x : α} {j : Json}
    (h : Survives depth read x j) (hdefault : read r₀ = some default)
    (hdepth₀ : r₀.depth ≤ depth) :
    FieldSurvives depth (Json.Raw.withDefault default read) x (some j) := by
  intro out hread hdepth
  -- an absent field has the value of the document that states the default
  obtain ⟨r, hread, hdepth⟩ : ∃ r : Raw, read r = some x ∧ r.depth ≤ depth := by
    cases out with
    | none =>
      cases hread
      exact ⟨r₀, hdefault, hdepth₀⟩
    | some r => exact ⟨r, hread, hdepth r rfl⟩
  obtain ⟨hj, hback⟩ := h r hread hdepth
  exact of_some (fun _ _ => rfl) hj hback

/-- A field that is left out just if it has the default survives if its value does. If it is left
out, reading nothing gives the default again. -/
theorem unlessDefault {read : Raw → Option α} {x default : α} {isDefault : Bool} {j : Json}
    (h : Survives depth read x j) (hdefault : isDefault = true ↔ x = default) :
    FieldSurvives depth (Json.Raw.withDefault default read) x (Json.valueUnless isDefault j) := by
  intro out hread hdepth
  cases isDefault with
  | true =>
    -- the default is left out and comes back
    obtain rfl := hdefault.mp rfl
    refine ⟨(fun value hvalue => nomatch hvalue), fun out' hout' => ?_⟩
    cases hout'
    rfl
  | false =>
    cases out with
    | none =>
      cases hread
      -- a missing field is read as the default, which this value is not
      exact nomatch hdefault.mpr rfl
    | some r =>
      obtain ⟨hj, hback⟩ := h r hread (hdepth r rfl)
      exact of_some (fun _ _ => rfl) hj hback

/-- An optional field reads what is not `null`. -/
theorem optional_some {read : Raw → Option α} {r : Raw} (h : r ≠ .null) :
    Json.Raw.optional read (some r) = (read r).map some := by
  unfold Json.Raw.optional
  split
  · rename_i heq
    exact absurd (Option.some.inj heq) h
  · rename_i heq
    rw [Option.some.inj heq]
  · rename_i heq
    cases heq

/-- An optional field survives if its value does and is not written as `null`. A field that says
`null` is read as one that is absent, and written as absent. -/
theorem optional {read : Raw → Option α} {write : α → Json} {x : Option α}
    (h : ∀ a ∈ x, Survives depth read a (write a))
    (hnull : ∀ a ∈ x, ∀ r : Raw, r ≠ .null → read r = some a → write a ≠ .null) :
    FieldSurvives depth (Json.Raw.optional read) x (x.map write) := by
  intro out hread hdepth
  cases x with
  | none =>
    refine ⟨(fun value hvalue => nomatch hvalue), fun out' hout' => ?_⟩
    cases hout'
    rfl
  | some a =>
    obtain ⟨r, hne, hread, hdepth⟩ : ∃ r : Raw, r ≠ .null ∧ read r = some a ∧ r.depth ≤ depth := by
      cases out with
      | none => cases hread
      | some r =>
        have hne : r ≠ .null := by
          rintro rfl
          cases hread
        rw [optional_some hne, Option.map_eq_some_iff] at hread
        obtain ⟨a', ha', heq⟩ := hread
        cases heq
        exact ⟨r, hne, ha', hdepth r rfl⟩
    obtain ⟨hj, hback⟩ := h a rfl r hread hdepth
    -- a value that is written as null would be read back as none
    have hwritten : write a ≠ .null := hnull a rfl r hne hread
    refine of_some (fun r' hr' => optional_some ?_) hj fun r' hr' => by rw [hback r' hr']; rfl
    rintro rfl
    exact hwritten hr'.eq_null

end FieldSurvives

/-! ### Records -/

/-- Read no field. -/
def readNone : List (Option Raw) → Option Unit
  | [] => some ()
  | _ => none

/-- Read a first field and then the others. -/
def readThen (first : Option Raw → Option α) (rest : List (Option Raw) → Option β) :
    List (Option Raw) → Option (α × β)
  | [] => none
  | out :: outs => do return (← first out, ← rest outs)

/-- What is made of no field. -/
@[simp] theorem map_readNone_nil (make : Unit → α) : (readNone []).map make = some (make ()) := rfl

/-- What is made of a first field and others is made of the first and then of the others. -/
@[simp] theorem map_readThen_cons (first : Option Raw → Option α)
    (rest : List (Option Raw) → Option β) (make : α × β → τ) (out : Option Raw)
    (outs : List (Option Raw)) :
    (readThen first rest (out :: outs)).map make =
      (first out).bind fun a => (rest outs).map fun b => make (a, b) := by
  rw [readThen]
  cases first out with
  | none => rfl
  | some a => cases rest outs <;> rfl

namespace FieldsSurvive

/-- No field survives. -/
theorem nil : FieldsSurvive depth readNone () [] := by
  intro outs hread hdepth
  refine ⟨(fun value hvalue => nomatch hvalue), fun outs' houts' => ?_⟩
  cases houts'
  rfl

/-- A first field and others survive if each does. The fields of a record are read one by one from
what the reader of records found under their names, so they do not depend on each other. -/
theorem cons (name : String) {first : Option Raw → Option α} {rest : List (Option Raw) → Option β}
    {a : α} {b : β} {j : Option Json} {values : List (String × Option Json)}
    (h : FieldSurvives depth first a j) (hrest : FieldsSurvive depth rest b values) :
    FieldsSurvive depth (readThen first rest) (a, b) ((name, j) :: values) := by
  have hread_iff : ∀ {out : Option Raw} {outs : List (Option Raw)},
      readThen first rest (out :: outs) = some (a, b) ↔
        first out = some a ∧ rest outs = some b := by
    intro out outs
    rw [readThen]
    cases first out <;> cases rest outs <;> simp
  intro outs hread hdepth
  cases outs with
  | nil => cases hread
  | cons out outs =>
    obtain ⟨hdepthFirst, hdepthRest⟩ := List.forall_mem_cons.mp hdepth
    obtain ⟨hfirst, hothers⟩ := hread_iff.mp hread
    obtain ⟨hj, hback⟩ := h out hfirst hdepthFirst
    obtain ⟨hjs, hbacks⟩ := hrest outs hothers hdepthRest
    refine ⟨List.forall_mem_cons.mpr ⟨hj, hjs⟩, fun outs' houts' => ?_⟩
    cases houts' with
    | cons hout' houts' => exact hread_iff.mpr ⟨hback _ hout', hbacks _ houts'⟩

/-- A record survives with its fields, if its reader gets them by their names and makes the record
of them. Fields under other names are not looked at, and are not written again. -/
theorem record {readFields : List (Option Raw) → Option τ} {t : τ}
    {values : List (String × Option Json)}
    (h : ∀ d, depth = d + 1 → FieldsSurvive d readFields t values) (read : Raw → Option α)
    (make : τ → α) (hmake : Function.Injective make) (hnodup : (values.map (·.1)).Nodup)
    (hread : ∀ r, read r = (fields? (values.map (·.1)) r).bind fun outs =>
      (readFields outs).map make) :
    RecordSurvives depth read (make t) (Json.present values) := by
  refine ⟨(Json.names_present_sublist values).nodup hnodup, fun r hr hdepth => ?_⟩
  rw [hread] at hr
  obtain ⟨outs, houts, hr⟩ := Option.bind_eq_some_iff.mp hr
  obtain ⟨t', ht', heq⟩ := Option.map_eq_some_iff.mp hr
  -- a record is made of one tuple only, so the fields that were read are those of the record
  obtain rfl := hmake heq
  obtain ⟨d, rfl⟩ := exists_room hdepth (Json.Raw.depth_pos_of_fields? houts)
  obtain ⟨hjs, hback⟩ := h d rfl outs ht' fun out hout part hpart => by
    have hlt := Json.Raw.depth_lt_of_fields? houts out hout part hpart
    omega
  refine ⟨⟨d, rfl, fun field hfield => hjs _ (Json.mem_present_iff.mp hfield) _ rfl⟩,
    fun r' hr' => ?_⟩
  obtain ⟨outs', houts', hstates⟩ := hr'.fields? hnodup
  rw [hread, houts', Option.bind_some, hback outs' hstates, Option.map_some]

end FieldsSurvive

/-- A record of one field survives with it. It is the same as for several fields, but such records
are read without putting values into pairs. -/
theorem FieldSurvives.record {first : Option Raw → Option β} {b : β} {j : Option Json}
    (h : ∀ d, depth = d + 1 → FieldSurvives d first b j) (name : String) (make : β → α)
    (hmake : Function.Injective make) {read : Raw → Option α}
    (hread : ∀ r, read r = (fields? [name] r).bind fun outs =>
      match outs with
      | [out] => (first out).bind fun b => some (make b)
      | _ => none) :
    RecordSurvives depth read (make b) (Json.field? name j) := by
  have hfields : ∀ d, depth = d + 1 →
      FieldsSurvive d (readThen first readNone) (b, ()) [(name, j)] := fun d hd =>
    .cons name (h d hd) .nil
  have hrecord := FieldsSurvive.record hfields read (fun t => make t.1)
    (fun t t' heq => Prod.ext (hmake heq) rfl) (List.nodup_singleton name)
    fun r => (hread r).trans <| Json.Raw.bind_fields?_congr fun
      | [out], _, _ => by
        rw [map_readThen_cons]
        rfl
  rwa [Json.present, List.flatMap_singleton] at hrecord

namespace RecordSurvives

/-- A record survives as the object of its fields. The fields are sorted when the object is made,
and read back in any order. -/
theorem object {read : Raw → Option α} {x : α} {fields : List (String × Json)}
    (h : RecordSurvives depth read x fields) :
    Survives depth read x (Json.object fields) := by
  intro r hread hdepth
  obtain ⟨⟨d, rfl, hfields⟩, hback⟩ := h.survives r hread hdepth
  exact ⟨.object hfields, fun r' hr' => hback r' (hr'.hasFields h.nodup)⟩

/-- What is made of a record survives with its fields. -/
theorem map {read : Raw → Option β} {b : β} {fields : List (String × Json)}
    (h : RecordSurvives depth read b fields) (make : β → α) (hmake : Function.Injective make)
    {read' : Raw → Option α} (hread : ∀ r, read' r = (read r).bind fun b => some (make b)) :
    RecordSurvives depth read' (make b) fields := by
  refine ⟨h.nodup, fun r hr hdepth => ?_⟩
  rw [hread] at hr
  obtain ⟨b', hb', heq⟩ := Option.bind_eq_some_iff.mp hr
  obtain rfl := hmake (Option.some.inj heq)
  obtain ⟨hfields, hback⟩ := h.survives r hb' hdepth
  refine ⟨hfields, fun r' hr' => ?_⟩
  rw [hread, hback r' hr', Option.bind_some]

/-- A tagged alternative survives as the object of its tag and its fields, if the value tells which
alternative it is of. Otherwise it could be written with the tag of another alternative. -/
theorem tagged {readKind : String → Raw → Option α} {x : α} {fields : List (String × Json)}
    {key kind : String} (h : RecordSurvives depth (readKind kind) x fields)
    (hkey : key ∉ fields.map (·.1)) {kinds : List String} (hkind : kind ∈ kinds)
    (hsole : ∀ other body, readKind other body = some x → other = kind)
    {inner : Bool} {read : Raw → Option α}
    (hread : ∀ r, read r = (tagged? key r).bind fun p =>
      (tag? inner kinds p.1).bind fun kind => readKind kind p.2) :
    Survives depth read x (Json.object ((key, .str kind) :: fields)) := by
  intro r hr hdepth
  rw [hread] at hr
  obtain ⟨⟨tag, body⟩, htagged, hr⟩ := Option.bind_eq_some_iff.mp hr
  obtain ⟨other, htag, hr⟩ := Option.bind_eq_some_iff.mp hr
  obtain rfl := hsole other body hr
  -- the tag is a string, so only the other fields need room
  have hbody := (Json.Raw.depth_le_of_tagged? htagged).2
  obtain ⟨⟨d, rfl, hfields⟩, hback⟩ := h.survives body hr (Nat.le_trans hbody hdepth)
  refine ⟨.object (List.forall_mem_cons.mpr ⟨.str _, hfields⟩), fun r' hr' => ?_⟩
  have hnodup : (((key, Json.str other) :: fields).map (·.1)).Nodup :=
    List.nodup_cons.mpr ⟨hkey, h.nodup⟩
  obtain ⟨body', htagged', hbody'⟩ := (hr'.hasFields hnodup).tagged? hkey
  rw [hread, htagged', Option.bind_some, tag?, if_pos (List.contains_iff_mem.mpr hkind),
    Option.bind_some, hback body' hbody']

end RecordSurvives

end Polyglot
