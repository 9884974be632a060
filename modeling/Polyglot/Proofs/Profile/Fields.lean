import Polyglot.Profile.Write
import Polyglot.Proofs.Json.Stating

/-!
# `Polyglot.Proofs.Profile.Fields`: records in documents

A record is written as an object of the fields that are present (`Json.present`), and is read from
an object by the names of its fields. `Json.Raw.HasFields` says that a document is an object with
some fields, whatever their order: it is so for every document that states the object
(`Raw.States.hasFields`). From such a document the reader of records gets just the fields that
were written (`Raw.HasFields.fields?`), and the reader of tagged alternatives gets the tag and an
object with the other fields (`Raw.HasFields.tagged?`).

What is read from a record nests less deeply than the record (`Raw.depth_lt_of_fields?`). So a
reader of alternatives that may hold others of their type has fuel enough, and satisfies the
equation without fuel (`Raw.nested?_eq`).
-/

set_option autoImplicit false

namespace Polyglot.Json

/-- An object with some fields in any order; `document` gives the document under each name. -/
def Raw.HasFields (r : Raw) (fields : List (String × Json)) : Prop :=
  ∃ (members : List (String × Raw)) (document : String → Raw), r = .obj members ∧
    members.Perm (fields.map fun f => (f.1, document f.1)) ∧
    ∀ field ∈ fields, (document field.1).States field.2

/-- Documents that state an object have its fields. The object has its fields in the order of their
names and the document in any order, so this is where the order is given up. -/
theorem Raw.States.hasFields {r : Raw} {fields : List (String × Json)}
    (hnodup : (fields.map (·.1)).Nodup) (h : r.States (object fields)) : r.HasFields fields := by
  obtain ⟨sorted, heq, hperm⟩ := exists_object_eq hnodup
  rw [heq] at h
  cases h with
  | obj document hsorted hmembers h =>
    exact ⟨_, document, rfl, hmembers.trans (hperm.map _), fun field hfield =>
      h field (hperm.mem_iff.mpr hfield)⟩

/-! ### The fields that are present -/

/-- The fields of a record that are present, of all its fields. -/
def present (values : List (String × Option Json)) : List (String × Json) :=
  values.flatMap fun v => field? v.1 v.2

/-- A field with a value is present. -/
@[simp] theorem field?_some (name : String) (value : Json) :
    field? name (some value) = [(name, value)] := rfl

/-- The value of a field unless a condition holds. -/
def valueUnless (isDefault : Bool) (value : Json) : Option Json :=
  if isDefault then none else some value

/-- A field that has a value unless a condition holds is present unless it does. -/
@[simp] theorem field?_valueUnless (name : String) (isDefault : Bool) (value : Json) :
    field? name (valueUnless isDefault value) = fieldUnless name isDefault value := by
  cases isDefault <;> rfl

/-- Of no field, none is present. -/
@[simp] theorem present_nil : present [] = [] := rfl

/-- The fields that are present, one after the other. -/
@[simp] theorem present_cons (value : String × Option Json) (values : List (String × Option Json)) :
    present (value :: values) = field? value.1 value.2 ++ present values := rfl

/-- A field is present if it has a value. A field that is left out, because it has its default, is
not among them. -/
theorem mem_present_iff {values : List (String × Option Json)} {field : String × Json} :
    field ∈ present values ↔ (field.1, some field.2) ∈ values := by
  obtain ⟨name, value⟩ := field
  unfold present field?
  rw [List.mem_flatMap]
  constructor
  · rintro ⟨⟨name', value?⟩, hmem, hfield⟩
    obtain ⟨value', hvalue', heq⟩ := List.mem_map.mp hfield
    cases heq
    obtain rfl : value? = some value := Option.mem_toList.mp hvalue'
    exact hmem
  · intro hmem
    exact ⟨_, hmem, List.mem_map.mpr ⟨value, Option.mem_toList.mpr rfl, rfl⟩⟩

/-- The names of the fields that are present are some of the names. So they are different if all
names are. -/
theorem names_present_sublist (values : List (String × Option Json)) :
    ((present values).map (·.1)).Sublist (values.map (·.1)) := by
  induction values with
  | nil => exact .slnil
  | cons value values ih =>
    obtain ⟨name, _ | value⟩ := value
    · exact ih.cons name
    · exact ih.cons_cons name

/-- A field has its own name and no other. -/
theorem filter_field? (name other : String) (value : Option Json) :
    (field? name value).filter (·.1 == other) = if name = other then field? name value else [] := by
  cases value with
  | none => exact (ite_self _).symm
  | some value =>
    by_cases h : name = other
    · simp [field?, h]
    · simp [field?, h]

/-- The field that is present under a name is the one with that name. It follows that a reader which
looks for the name gets this field, or finds none. -/
theorem filter_present {values : List (String × Option Json)} (hnodup : (values.map (·.1)).Nodup)
    {value : String × Option Json} (h : value ∈ values) :
    (present values).filter (·.1 == value.1) = field? value.1 value.2 := by
  induction values with
  | nil => exact nomatch h
  | cons head tail ih =>
    rw [List.map_cons, List.nodup_cons] at hnodup
    rw [present_cons, List.filter_append, filter_field?]
    rcases List.mem_cons.mp h with rfl | h
    · -- no later field has the name
      have htail : (present tail).filter (·.1 == value.1) = [] :=
        List.filter_eq_nil_iff.mpr fun field hfield heq => hnodup.1 <| beq_iff_eq.mp heq ▸
          (names_present_sublist tail).subset (List.mem_map_of_mem hfield)
      rw [if_pos rfl, htail, List.append_nil]
    · have hne : head.1 ≠ value.1 := fun heq => hnodup.1 (heq ▸ List.mem_map_of_mem h)
      rw [if_neg hne, List.nil_append, ih hnodup.2 h]

/-! ### Reading records -/

namespace Raw

/-- A record gives one answer for each name. This holds for both forms in which a record may be
written, with names or as a list of its values. -/
theorem length_of_fields? {names : List String} {r : Raw} {outs : List (Option Raw)}
    (h : fields? names r = some outs) : outs.length = names.length := by
  unfold fields? at h
  split at h
  · rename_i items
    split at h
    · cases h
      rw [List.length_append, List.length_map, List.length_replicate]
      omega
    · cases h
  · exact (option_mapM_eq_some_iff.mp h).length_eq.symm
  · cases h

/-- A record is a container. -/
theorem depth_pos_of_fields? {names : List String} {r : Raw} {outs : List (Option Raw)}
    (h : fields? names r = some outs) : 0 < r.depth := by
  unfold fields? at h
  split at h
  · exact Nat.succ_pos _
  · exact Nat.succ_pos _
  · cases h

/-- The parts of a record nest less deeply than the record. Readers of nested declarations come to
an end for this reason. -/
theorem depth_lt_of_fields? {names : List String} {r : Raw} {outs : List (Option Raw)}
    (h : fields? names r = some outs) : ∀ out ∈ outs, ∀ part ∈ out, part.depth < r.depth := by
  intro out hout part hpart
  obtain rfl := Option.mem_def.mp hpart
  unfold fields? at h
  split at h
  · -- a list that stands for a record
    rename_i items
    split at h
    · cases h
      have hitem : part ∈ items := by
        rcases List.mem_append.mp hout with hmem | hmem
        · obtain ⟨item, hitem, heq⟩ := List.mem_map.mp hmem
          cases heq
          exact hitem
        · exact nomatch (List.mem_replicate.mp hmem).2
      exact Nat.lt_succ_of_le (itemsDepth_le_iff.mp (Nat.le_refl _) part hitem)
    · cases h
  · -- an object
    rename_i members
    obtain ⟨name, -, hname⟩ := exists_mem_of_option_mapM h hout
    split at hname
    · cases hname
    · rename_i member hfilter
      cases hname
      have hmember : member ∈ members :=
        List.mem_of_mem_filter (hfilter ▸ List.mem_singleton_self member)
      exact Nat.lt_succ_of_le (membersDepth_le_iff.mp (Nat.le_refl _) member hmember)
    · cases hname
  · cases h

/-- Readers of a record agree if they agree on as many less deep parts as there are names. With
this, the reader that is used inside of a record may be exchanged for one with less fuel. -/
theorem bind_fields?_congr {α : Type} {names : List String} {f g : List (Option Raw) → Option α}
    {r : Raw} (h : ∀ outs : List (Option Raw), outs.length = names.length →
      (∀ out ∈ outs, ∀ part ∈ out, part.depth < r.depth) → f outs = g outs) :
    (Raw.fields? names r).bind f = (Raw.fields? names r).bind g := by
  cases hr : Raw.fields? names r with
  | none => rfl
  | some outs => exact h outs (length_of_fields? hr) (depth_lt_of_fields? hr)

/-- The other fields of a tagged alternative nest no deeper than the whole. They need not nest less
deeply, because the tag is taken out of the same object. -/
theorem depth_le_of_tagged? {key : String} {r tag body : Raw}
    (h : tagged? key r = some (tag, body)) : 0 < r.depth ∧ body.depth ≤ r.depth := by
  unfold tagged? at h
  split at h
  · rename_i rest
    cases h
    refine ⟨Nat.succ_pos _, ?_⟩
    rw [depth, depth, itemsDepth, Nat.add_le_add_iff_right]
    exact Nat.le_max_right _ _
  · rename_i members
    split at h
    · cases h
      refine ⟨Nat.succ_pos _, ?_⟩
      rw [depth, depth, Nat.add_le_add_iff_right, membersDepth_le_iff]
      exact fun member hmember =>
        membersDepth_le_iff.mp (Nat.le_refl _) member (List.mem_of_mem_filter hmember)
    · cases h
  · cases h

/-- From an object with the fields that are present, the reader of records gets just those. For a
name that is not there it gets nothing, and for no name does it find two fields. -/
theorem HasFields.fields? {r : Raw} {values : List (String × Option Json)}
    (h : r.HasFields (present values)) (hnodup : (values.map (·.1)).Nodup) :
    ∃ outs, Raw.fields? (values.map (·.1)) r = some outs ∧
      List.Forall₂ (Option.Rel States) outs (values.map (·.2)) := by
  obtain ⟨members, document, rfl, hmembers, hstates⟩ := h
  refine ⟨values.map fun v => v.2.map fun _ => document v.1, ?_, ?_⟩
  · rw [Raw.fields?, option_mapM_eq_some_iff, List.forall₂_map_left_iff, List.forall₂_map_right_iff,
      List.forall₂_same]
    intro value hvalue
    -- under the name of a value stand the members that state it, which are one or none
    have hfilter := hmembers.filter (·.1 == value.1)
    rw [List.filter_map] at hfilter
    have hown : (present values).filter ((·.1 == value.1) ∘ fun f => (f.1, document f.1)) =
        field? value.1 value.2 := filter_present hnodup hvalue
    rw [hown] at hfilter
    obtain ⟨name, _ | v⟩ := value
    · rw [List.perm_nil.mp hfilter]
      rfl
    · rw [List.perm_singleton.mp hfilter]
      rfl
  · rw [List.forall₂_map_left_iff, List.forall₂_map_right_iff, List.forall₂_same]
    rintro ⟨name, _ | v⟩ hvalue
    · exact .none
    · exact .some (hstates (name, v) (mem_present_iff.mpr hvalue))

/-- From an object with a tag and other fields, the reader of tagged alternatives gets both. The tag
may stand anywhere in the object, so the other fields keep their order around it. -/
theorem HasFields.tagged? {r : Raw} {key tag : String} {fields : List (String × Json)}
    (h : r.HasFields ((key, .str tag) :: fields)) (hkey : key ∉ fields.map (·.1)) :
    ∃ body, Raw.tagged? key r = some (.str tag, body) ∧ body.HasFields fields := by
  obtain ⟨members, document, rfl, hmembers, hstates⟩ := h
  have hmembers : members.Perm ((key, document key) :: fields.map fun f => (f.1, document f.1)) :=
    hmembers
  have hne : ∀ member ∈ fields.map fun f => (f.1, document f.1), member.1 ≠ key := by
    intro member hmember heq
    obtain ⟨field, hfield, rfl⟩ := List.mem_map.mp hmember
    exact hkey (heq ▸ List.mem_map_of_mem hfield)
  have htag : members.filter (·.1 == key) = [(key, document key)] := by
    -- the tag is one member, and the others are those of the body
    have hfilter := hmembers.filter (·.1 == key)
    have hother : (fields.map fun f => (f.1, document f.1)).filter (·.1 == key) = [] :=
      List.filter_eq_nil_iff.mpr fun m hm heq => hne m hm (beq_iff_eq.mp heq)
    rw [List.filter_cons, if_pos (beq_self_eq_true key), hother] at hfilter
    exact List.perm_singleton.mp hfilter
  have hrest : (members.filter (·.1 != key)).Perm (fields.map fun f => (f.1, document f.1)) := by
    have hfilter := hmembers.filter (·.1 != key)
    have hother : (fields.map fun f => (f.1, document f.1)).filter (·.1 != key) =
        fields.map fun f => (f.1, document f.1) :=
      List.filter_eq_self.mpr fun m hm => bne_iff_ne.mpr (hne m hm)
    rw [List.filter_cons, if_neg (by simp), hother] at hfilter
    exact hfilter
  have hdocument : document key = .str tag :=
    States.eq_str (hstates (key, .str tag) List.mem_cons_self)
  refine ⟨.obj (members.filter (·.1 != key)), ?_, _, document, rfl, hrest, fun field hfield =>
    hstates field (List.mem_cons_of_mem _ hfield)⟩
  rw [Raw.tagged?, htag, hdocument]

/-! ### Alternatives inside alternatives -/

variable {α : Type}

/-- A reader of alternatives uses the reader it is given only for what is inside the fields. -/
def LooksInside (alternative : (Raw → Option α) → String → Raw → Option α) : Prop :=
  ∀ {nested nested' : Raw → Option α} (name : String) {body : Raw},
    (∀ part : Raw, part.depth < body.depth → nested part = nested' part) →
      alternative nested name body = alternative nested' name body

/-- Readers that agree on what is inside a document agree on the document as a list. A document that
is no list is read by neither. -/
theorem list?_congr {nested nested' : Raw → Option α} {r : Raw}
    (h : ∀ part : Raw, part.depth < r.depth → nested part = nested' part) :
    list? nested r = list? nested' r := by
  cases r with
  | arr items =>
    exact option_mapM_congr fun item hitem =>
      h item (Nat.lt_succ_of_le (itemsDepth_le_iff.mp (Nat.le_refl _) item hitem))
  | _ => rfl

/-- Readers that agree on the document of a required field agree on the field. -/
theorem required_congr {nested nested' : Raw → Option α} {out : Option Raw}
    (h : ∀ part ∈ out, nested part = nested' part) :
    required nested out = required nested' out := by
  cases out with
  | none => rfl
  | some part => exact h part rfl

section Nested

variable {key : String} {names : List String}
  {alternative : (Raw → Option α) → String → Raw → Option α}

/-- More fuel than the depth of a document makes no difference. The induction is on the fuel. Each
level of alternatives takes one unit of it, and what is inside nests less deeply. -/
theorem nestedAt?_congr (hinside : LooksInside alternative) {fuel fuel' : Nat} {inner : Bool}
    {r : Raw} (h : r.depth < fuel) (h' : r.depth < fuel') :
    nestedAt? key names alternative fuel inner r =
      nestedAt? key names alternative fuel' inner r := by
  induction fuel generalizing fuel' inner r with
  | zero => exact absurd h (Nat.not_lt_zero _)
  | succ fuel ih =>
    obtain ⟨fuel', rfl⟩ : ∃ f, fuel' = f + 1 := ⟨fuel' - 1, by omega⟩
    rw [nestedAt?, nestedAt?]
    cases htagged : r.tagged? key with
    | none => rfl
    | some p =>
      obtain ⟨tag, body⟩ := p
      have hbody := (depth_le_of_tagged? htagged).2
      dsimp only [Option.bind_some]
      cases htag : tag? inner names tag with
      | none => rfl
      | some name => exact hinside name fun part hpart => ih (by omega) (by omega)

/-- An alternative is read from its fields, and those inside by the same reader. This is the
equation without fuel, by which the reader is opened below. -/
theorem nested?_eq (hinside : LooksInside alternative) (inner : Bool) (r : Raw) :
    nested? key names alternative inner r = (tagged? key r).bind fun p =>
      (tag? inner names p.1).bind fun name =>
        alternative (nested? key names alternative true) name p.2 := by
  rw [nested?, nestedAt?]
  cases htagged : r.tagged? key with
  | none => rfl
  | some p =>
    obtain ⟨tag, body⟩ := p
    have hbody := (depth_le_of_tagged? htagged).2
    dsimp only [Option.bind_some]
    cases htag : tag? inner names tag with
    | none => rfl
    | some name =>
      exact hinside name fun part hpart => nestedAt?_congr hinside (by omega) (Nat.lt_succ_self _)

end Nested

end Raw

end Polyglot.Json
