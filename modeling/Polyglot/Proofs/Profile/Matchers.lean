import Polyglot.Proofs.Profile.Surviving

/-!
# `Polyglot.Proofs.Profile.Matchers`: declared classes and matchers survive

Character classes and matchers are tagged alternatives that may hold others of their type. A reader
gets the fields of an alternative by its kind, and a value tells its kind
(`CharClass.Spec.kind_eq_of_readKind?`, `Matcher.Spec.kind_eq_of_readKind?`). So a value survives
(`CharClass.Spec.survives`, `Matcher.Spec.survives`) if the fields of its kind do, by induction on
the depth of the document: what is inside comes from less deep documents.
-/

set_option autoImplicit false

namespace Polyglot

open Json (Raw)
open Json.Raw (fields? required withDefault optional string? bool? word? char? list? table?
  choice? tagged? tag?)

/-! ### Character classes -/

namespace CharClass.Spec

/-- The name of the kind of a declared class. -/
def kind : Spec → String
  | .predefined _ => "predefined"
  | .chars _ => "chars"
  | .range _ _ => "range"
  | .union _ => "union"
  | .negate _ => "negate"
  | .ref _ => "ref"

/-- A class that was read is of the kind it was read as. So the tag that is written for it is the
tag under which it was found. -/
theorem kind_eq_of_readKind? {nested : Raw → Option Spec} {name : String} {body : Raw} {k : Spec}
    (h : readKind? nested name body = some k) : name = k.kind := by
  unfold readKind? at h
  split at h
  case h_7 => cases h
  -- a range has two fields to read, every other kind has one
  all_goals
    obtain ⟨outs, -, h⟩ := Option.bind_eq_some_iff.mp h
    split at h
    · obtain ⟨part, -, h⟩ := Option.bind_eq_some_iff.mp h
      first
      | cases h
        rfl
      | obtain ⟨other, -, h⟩ := Option.bind_eq_some_iff.mp h
        cases h
        rfl
    · cases h

/-- The reader of classes uses the reader of those inside only for what is inside. This is the
condition under which the fuel of the reader does not matter. -/
theorem looksInside_readKind? : Raw.LooksInside readKind? := by
  intro nested nested' name body h
  unfold readKind?
  split
  -- only unions and negations hold classes
  case h_4 =>
    refine Json.Raw.bind_fields?_congr fun
      | [classes], _, hparts => ?_
    have hclasses : required (list? nested) classes = required (list? nested') classes :=
      Json.Raw.required_congr fun part hpart => Json.Raw.list?_congr fun k hk =>
        h k (Nat.lt_trans hk (hparts classes List.mem_cons_self part hpart))
    dsimp only
    rw [hclasses]
  case h_5 =>
    refine Json.Raw.bind_fields?_congr fun
      | [k], _, hparts => ?_
    have hk : required nested k = required nested' k :=
      Json.Raw.required_congr fun part hpart => h part (hparts k List.mem_cons_self part hpart)
    dsimp only
    rw [hk]
  all_goals rfl

/-- The kind of a class is one of the kinds. -/
theorem kind_mem_kinds (k : Spec) : k.kind ∈ kinds := by
  cases k <;> simp [kind, kinds]

/-- A class survives if the fields of its kind do. What is left for each kind is to list its fields
and the readers of their values. -/
theorem survives_of_record {depth : Nat} {inner : Bool} {k : Spec} {fields : List (String × Json)}
    (h : RecordSurvives depth (readKind? (readIn? true) k.kind) k fields)
    (hkey : "kind" ∉ fields.map (·.1)) :
    Survives depth (readIn? inner) k (.object (("kind", .str k.kind) :: fields)) :=
  h.tagged hkey k.kind_mem_kinds (fun _ _ => kind_eq_of_readKind?)
    (Json.Raw.nested?_eq looksInside_readKind? inner)

/-- Several classes are written one by one. -/
theorem jsonAll_eq_map (ks : List Spec) : jsonAll ks = ks.map json := by
  induction ks with
  | nil => rfl
  | cons k ks ih => rw [jsonAll, ih, List.map_cons]

/-- The ends of a range survive. -/
theorem range_survives (depth : Nat) (first last : Char) :
    RecordSurvives depth (readKind? (readIn? true) "range") (range first last)
      [("from", Matcher.charJson first), ("to", Matcher.charJson last)] := by
  have hfields : ∀ d, depth = d + 1 → FieldsSurvive d _ (first, last, ()) _ := fun _ _ =>
    .cons "from" (.required .char) <| .cons "to" (.required .char) .nil
  exact FieldsSurvive.record hfields (readKind? (readIn? true) "range")
    (fun (first, last, _) => range first last)
    (by rintro ⟨_, _, _⟩ ⟨_, _, _⟩ ⟨⟩; rfl) (by simp)
    fun r => Json.Raw.bind_fields?_congr fun
      | [_, _], _, _ => by simp

/-- A declared class survives inside a tagged alternative and outside. The induction is on the depth
of the document, for all classes at once, since the reader recurses over documents and not over
classes. -/
theorem survives_in (depth : Nat) (inner : Bool) (k : Spec) :
    Survives depth (readIn? inner) k k.json := by
  -- the classes inside come from documents of less depth
  induction depth using Nat.strongRecOn generalizing inner k with
  | ind depth ih =>
    cases k with
    | predefined p =>
      exact survives_of_record (FieldSurvives.record (fun _ _ => .required (.choice p.ofName?_name))
        "name" predefined (fun _ _ => predefined.inj) fun _ => rfl) (by simp)
    | chars members =>
      exact survives_of_record (FieldSurvives.record (fun _ _ => .required .string)
        "chars" chars (fun _ _ => chars.inj) fun _ => rfl) (by simp)
    | range first last => exact survives_of_record (range_survives depth first last) (by simp)
    | union classes =>
      rw [json, jsonAll_eq_map]
      exact survives_of_record (FieldSurvives.record
        (fun d hd => .required (.list fun d' hd' k _ => ih d' (by omega) true k))
        "classes" union (fun _ _ => union.inj) fun _ => rfl) (by simp)
    | negate k =>
      exact survives_of_record (FieldSurvives.record
        (fun d hd => .required (ih d (by omega) true k))
        "class" negate (fun _ _ => negate.inj) fun _ => rfl) (by simp)
    | ref name =>
      exact survives_of_record (FieldSurvives.record (fun _ _ => .required .string)
        "name" ref (fun _ _ => ref.inj) fun _ => rfl) (by simp)

/-- A declared class is written as an object. An optional class would not be read back if it could
be written as `null`. -/
theorem json_ne_null (k : Spec) : k.json ≠ .null := by
  cases k <;> simp [json, Json.object]

/-- A declared class survives. -/
theorem survives (depth : Nat) (k : Spec) : Survives depth read? k k.json :=
  (survives_in depth false k).guarded

end CharClass.Spec

/-! ### Parameters of matchers -/

namespace Matcher

/-- One literal and a list of literals survive as such. A list of one literal stays a list, because
the two are told apart when they are read. -/
theorem Literals.survives (depth : Nat) (literals : Literals) :
    Survives depth Literals.read? literals literals.json := by
  intro r hread hdepth
  cases literals with
  | one value =>
    refine ⟨.str value, fun r' hr' => ?_⟩
    rw [hr'.eq_str]
    rfl
  | many values =>
    -- a text is no list, so the two forms are not mixed up
    have hlist : list? string? r = some values := by
      unfold Literals.read? at hread
      split at hread
      · cases hread
      · obtain ⟨values', hvalues', heq⟩ := Option.map_eq_some_iff.mp hread
        cases heq
        exact hvalues'
    obtain ⟨hj, hback⟩ := Survives.strings r hlist hdepth
    refine ⟨hj, fun r' hr' => ?_⟩
    have hread' := hback r' hr'
    obtain ⟨items, rfl, -⟩ := hr'.exists_items
    rw [Literals.read?, hread']
    · rfl
    · intro value heq
      cases heq

/-- The parameters of a delimited region survive. -/
theorem DelimitedSpec.survives (depth : Nat) (spec : DelimitedSpec) :
    RecordSurvives depth DelimitedSpec.read? spec spec.fields := by
  have hfields : ∀ d, depth = d + 1 → FieldsSurvive d _
      (spec.opening, spec.closing, spec.escape, spec.multiline, spec.nested, ()) _ := fun _ _ =>
    .cons "open" (.required .string) <| .cons "close" (.required .string) <|
      .cons "escape" (.optional (fun _ _ => .char) fun _ _ _ _ _ => nofun) <|
      .cons "multiline" (.withDefault false (.bool false) .bool rfl (Nat.zero_le _)) <|
      .cons "nested" (.withDefault false (.bool false) .bool rfl (Nat.zero_le _)) .nil
  have hrecord : RecordSurvives depth DelimitedSpec.read? spec _ :=
    FieldsSurvive.record hfields DelimitedSpec.read?
      (fun (opening, closing, escape, multiline, nested, _) =>
        DelimitedSpec.mk opening closing escape multiline nested)
      (by rintro ⟨_, _, _, _, _, _⟩ ⟨_, _, _, _, _, _⟩ ⟨⟩; rfl) (by simp)
      fun r => Json.Raw.bind_fields?_congr fun
        | [_, _, _, _, _], _, _ => by simp
  simpa [DelimitedSpec.fields] using hrecord

/-- The parameters of numbers survive. -/
theorem NumberSpec.survives (depth : Nat) (spec : NumberSpec) :
    RecordSurvives depth NumberSpec.read? spec spec.fields := by
  have hflag : ∀ {d : Nat} {b : Bool},
      FieldSurvives d (withDefault false bool?) b (some (.bool b)) :=
    .withDefault false (.bool false) .bool rfl (Nat.zero_le _)
  have hfields : ∀ d, depth = d + 1 → FieldsSurvive d _ (spec.hex, spec.octal, spec.binary,
      spec.float, spec.scientific, spec.separator, spec.suffixes, ()) _ := fun _ _ =>
    .cons "hex" hflag <| .cons "octal" hflag <| .cons "binary" hflag <| .cons "float" hflag <|
      .cons "scientific" hflag <|
      .cons "separator" (.optional (fun _ _ => .char) fun _ _ _ _ _ => nofun) <|
      .cons "suffixes" (.unlessDefault .strings List.isEmpty_iff) .nil
  have hrecord : RecordSurvives depth NumberSpec.read? spec _ :=
    FieldsSurvive.record hfields NumberSpec.read?
      (fun (hex, octal, binary, float, scientific, separator, suffixes, _) =>
        NumberSpec.mk hex octal binary float scientific separator suffixes)
      (by rintro ⟨_, _, _, _, _, _, _, _⟩ ⟨_, _, _, _, _, _, _, _⟩ ⟨⟩; rfl) (by simp)
      fun r => Json.Raw.bind_fields?_congr fun
        | [_, _, _, _, _, _, _], _, _ => by simp
  simpa [NumberSpec.fields] using hrecord

/-! ### Matchers -/

namespace Spec

/-- A matcher that was read is of the kind it was read as. So the tag that is written for it is the
tag under which it was found. -/
theorem kind_eq_of_readKind? {nested : Raw → Option Spec} {name : String} {body : Raw} {m : Spec}
    (h : readKind? nested name body = some m) : name = m.kind := by
  unfold readKind? at h
  split at h
  case h_9 => cases h
  case h_3 | h_6 =>
    obtain ⟨spec, -, h⟩ := Option.bind_eq_some_iff.mp h
    cases h
    rfl
  -- a character sequence has two fields to read, every other kind that is left has one
  all_goals
    obtain ⟨outs, -, h⟩ := Option.bind_eq_some_iff.mp h
    split at h
    · obtain ⟨part, -, h⟩ := Option.bind_eq_some_iff.mp h
      first
      | cases h
        rfl
      | obtain ⟨other, -, h⟩ := Option.bind_eq_some_iff.mp h
        cases h
        rfl
    · cases h

/-- The reader of matchers uses the reader of those inside only for what is inside. -/
theorem looksInside_readKind? : Raw.LooksInside readKind? := by
  intro nested nested' name body h
  unfold readKind?
  split
  -- only sequences hold matchers
  case h_7 =>
    refine Json.Raw.bind_fields?_congr fun
      | [parts], _, hparts => ?_
    have hlist : required (list? nested) parts = required (list? nested') parts :=
      Json.Raw.required_congr fun part hpart => Json.Raw.list?_congr fun m hm =>
        h m (Nat.lt_trans hm (hparts parts List.mem_cons_self part hpart))
    dsimp only
    rw [hlist]
  all_goals rfl

/-- The kind of a matcher is one of the kinds. -/
theorem kind_mem_kinds (m : Spec) : m.kind ∈ kinds := by
  cases m <;> simp [kind, kinds]

/-- A matcher survives if the fields of its kind do. -/
theorem survives_of_record {depth : Nat} {inner : Bool} {m : Spec} {fields : List (String × Json)}
    (h : RecordSurvives depth (readKind? (readIn? true) m.kind) m fields)
    (hkey : "kind" ∉ fields.map (·.1)) :
    Survives depth (readIn? inner) m (.object (("kind", .str m.kind) :: fields)) :=
  h.tagged hkey m.kind_mem_kinds (fun _ _ => kind_eq_of_readKind?)
    (Json.Raw.nested?_eq looksInside_readKind? inner)

/-- Several matchers are written one by one. -/
theorem jsonAll_eq_map (ms : List Spec) : jsonAll ms = ms.map json := by
  induction ms with
  | nil => rfl
  | cons m ms ih => rw [jsonAll, ih, List.map_cons]

/-- The classes of a character sequence survive. -/
theorem charSequence_survives (depth : Nat) (first : CharClass.Spec)
    (rest : Option CharClass.Spec) :
    RecordSurvives depth (readKind? (readIn? true) "charSequence") (charSequence first rest)
      (("first", first.json) :: Json.field? "rest" (rest.map CharClass.Spec.json)) := by
  have hfields : ∀ d, depth = d + 1 → FieldsSurvive d _ (first, rest, ()) _ := fun d _ =>
    .cons "first" (.required (first.survives_in d true)) <|
      .cons "rest" (.optional (fun k _ => k.survives_in d true) fun k _ _ _ _ => k.json_ne_null)
        .nil
  have hrecord : RecordSurvives depth (readKind? (readIn? true) "charSequence")
      (charSequence first rest) _ :=
    FieldsSurvive.record hfields (readKind? (readIn? true) "charSequence")
      (fun (first, rest, _) => charSequence first rest)
      (by rintro ⟨_, _, _⟩ ⟨_, _, _⟩ ⟨⟩; rfl) (by simp)
      fun r => Json.Raw.bind_fields?_congr fun
        | [_, _], _, _ => by simp
  simpa using hrecord

/-- A declared matcher survives inside a tagged alternative and outside. As for classes, the
induction is on the depth of the document. Only sequences hold other matchers. -/
theorem survives_in (depth : Nat) (inner : Bool) (m : Spec) :
    Survives depth (readIn? inner) m m.json := by
  -- the matchers inside come from documents of less depth
  induction depth using Nat.strongRecOn generalizing inner m with
  | ind depth ih =>
    cases m with
    | literal value =>
      exact survives_of_record (FieldSurvives.record (fun d _ => .required (value.survives d))
        "value" literal (fun _ _ => literal.inj) fun _ => rfl) (by simp)
    | keywords words =>
      exact survives_of_record (FieldSurvives.record (fun _ _ => .required .strings)
        "words" keywords (fun _ _ => keywords.inj) fun _ => rfl) (by simp)
    | delimited spec =>
      exact survives_of_record ((spec.survives depth).map delimited (fun _ _ => delimited.inj)
        fun _ => rfl) (by simp [DelimitedSpec.fields, Json.field?])
    | line start =>
      exact survives_of_record (FieldSurvives.record (fun _ _ => .required .string)
        "start" line (fun _ _ => line.inj) fun _ => rfl) (by simp)
    | charSequence first rest =>
      exact survives_of_record (charSequence_survives depth first rest) (by simp [Json.field?])
    | number spec =>
      exact survives_of_record ((spec.survives depth).map number (fun _ _ => number.inj)
        fun _ => rfl) (by simp [NumberSpec.fields, Json.field?, Json.fieldUnless])
    | sequence parts =>
      rw [json, jsonAll_eq_map]
      exact survives_of_record (FieldSurvives.record
        (fun d hd => .required (.list fun d' hd' m _ => ih d' (by omega) true m))
        "matchers" sequence (fun _ _ => sequence.inj) fun _ => rfl) (by simp)
    | pattern regex =>
      exact survives_of_record (FieldSurvives.record (fun _ _ => .required .string)
        "regex" pattern (fun _ _ => pattern.inj) fun _ => rfl) (by simp)

/-- A declared matcher survives. -/
theorem survives (depth : Nat) (m : Spec) : Survives depth read? m m.json :=
  (survives_in depth false m).guarded

end Spec

end Matcher

end Polyglot
