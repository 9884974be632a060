import Polyglot.Json.Decode
import Polyglot.Proofs.Json.Lexing
import Polyglot.Proofs.Support.Option

/-!
# `Polyglot.Proofs.Json.Parsing`: a written value is a document again

`Json.Writable.parse?_render` says that the text of a value is read as the document that states
the value (`Json.raw`), if the value nests no deeper than documents may.

`Json.depth_le_of_parse?` is about any text: a document that was read has no containers beyond
the greatest depth, since what is nested deeper is left unread.
-/

set_option autoImplicit false

namespace Polyglot.Json

/-! ### Parsing the words of a value -/

/-- The words of a value start with one that does not close a list. So a list that has items is not
taken for an empty one. -/
theorem exists_lexemes_eq (j : Json) :
    ∃ word words, lexemes j = word :: words ∧ word ≠ .closeBracket := by
  unfold lexemes
  split <;> exact ⟨_, _, rfl, nofun⟩

/-- The documents of items are those of each. -/
theorem rawItems_eq_map (items : List Json) : rawItems items = items.map raw := by
  induction items with
  | nil => rfl
  | cons item items ih => rw [rawItems, ih, List.map_cons]

/-- The members of fields are those of each. -/
theorem rawFields_eq_map (fields : List (String × Json)) :
    rawFields fields = fields.map fun f => (f.1, raw f.2) := by
  induction fields with
  | nil => rfl
  | cons field fields ih => rw [rawFields, ih, List.map_cons]

/-- The words of a value are parsed as its document, at a depth at which there is room for it and
with two units of fuel for each word. -/
def ParsesBack (room : Nat) (j : Json) : Prop :=
  ∀ {fuel depth : Nat} {rest : List Lexeme}, depth + room ≤ maxDepth →
    2 * (lexemes j).length ≤ fuel →
    parseValue fuel depth (lexemes j ++ rest) = some (j.raw, rest)

/-- The words of items, the first one without a comma in front, are parsed as their documents. The
induction is on the items. Each has at least one word, and two units of fuel for it are enough for
the steps to the next one. -/
theorem parseItems_lexemes {room : Nat} {item : Json} {items : List Json}
    (h : ∀ other ∈ item :: items, ParsesBack room other) {fuel depth : Nat} {rest : List Lexeme}
    (hdepth : depth + room ≤ maxDepth)
    (hfuel : 2 * (lexemes item ++ itemsTailLexemes items).length ≤ fuel) :
    parseItems fuel depth (lexemes item ++ (itemsTailLexemes items ++ rest)) =
      some (rawItems (item :: items), rest) := by
  induction items generalizing item fuel with
  | nil =>
    rw [itemsTailLexemes, List.length_append, List.length_singleton] at hfuel
    obtain ⟨fuel, rfl⟩ : ∃ f, fuel = f + 1 := ⟨fuel - 1, by omega⟩
    rw [parseItems, h item List.mem_cons_self hdepth (by omega)]
    rfl
  | cons next items ih =>
    rw [itemsTailLexemes, List.length_append, List.cons_append, List.length_cons] at hfuel
    obtain ⟨fuel, rfl⟩ : ∃ f, fuel = f + 1 := ⟨fuel - 1, by omega⟩
    have hrest : parseItems fuel depth (lexemes next ++ (itemsTailLexemes items ++ rest)) =
        some (rawItems (next :: items), rest) :=
      ih (fun other hother => h other (List.mem_cons_of_mem _ hother)) (by omega)
    rw [parseItems, h item List.mem_cons_self hdepth (by omega), itemsTailLexemes,
      List.cons_append, List.cons_append, List.append_assoc]
    dsimp only
    rw [hrest]
    rfl

/-- The words of fields, the first one without a comma in front, are parsed as their documents.
Names are strings that can be read, so none of them is missing. -/
theorem parseMembers_lexemes {room : Nat} {name : String} {value : Json}
    {fields : List (String × Json)}
    (h : ∀ other ∈ (name, value) :: fields, ParsesBack room other.2) {fuel depth : Nat}
    {rest : List Lexeme} (hdepth : depth + room ≤ maxDepth)
    (hfuel : 2 * (.str (some name) :: .colon :: lexemes value ++
      fieldsTailLexemes fields).length ≤ fuel) :
    parseMembers fuel depth (.str (some name) :: .colon ::
        (lexemes value ++ (fieldsTailLexemes fields ++ rest))) =
      some (((name, value) :: fields).map fun f => (some f.1, raw f.2), rest) := by
  induction fields generalizing name value fuel with
  | nil =>
    simp only [fieldsTailLexemes, List.length_cons, List.length_append, List.length_nil] at hfuel
    obtain ⟨fuel, rfl⟩ : ∃ f, fuel = f + 1 := ⟨fuel - 1, by omega⟩
    rw [parseMembers, h (name, value) List.mem_cons_self hdepth (by dsimp only; omega)]
    rfl
  | cons next fields ih =>
    obtain ⟨nextName, nextValue⟩ := next
    simp only [fieldsTailLexemes, List.length_cons, List.length_append] at hfuel
    obtain ⟨fuel, rfl⟩ : ∃ f, fuel = f + 1 := ⟨fuel - 1, by omega⟩
    have hrest : parseMembers fuel depth (.str (some nextName) :: .colon ::
        (lexemes nextValue ++ (fieldsTailLexemes fields ++ rest))) =
        some (((nextName, nextValue) :: fields).map fun f => (some f.1, raw f.2), rest) := by
      refine ih (fun other hother => h other (List.mem_cons_of_mem _ hother)) ?_
      simp only [List.length_cons, List.length_append]
      omega
    rw [parseMembers, h (name, value) List.mem_cons_self hdepth (by dsimp only; omega),
      fieldsTailLexemes]
    simp only [List.cons_append, List.append_assoc]
    rw [hrest]
    rfl

/-- Members whose names are all readable make an object. One name that is not would make the whole
object unreadable. -/
theorem ofMembers_map (fields : List (String × Json)) :
    Raw.ofMembers (fields.map fun f => (some f.1, raw f.2)) = .obj (rawFields fields) := by
  have hnames : (fields.map fun f => (some f.1, raw f.2)).mapM
      (fun m => m.1.map fun name => (name, m.2)) = some (rawFields fields) := by
    induction fields with
    | nil => rfl
    | cons field fields ih =>
      rw [List.map_cons, List.mapM_cons, ih]
      rfl
  rw [Raw.ofMembers, hnames]

/-- The words of a value are parsed as its document. The induction is on the value. A container has
one level less for what is inside, and what nests too deeply would be left unread. -/
theorem Writable.parsesBack {room : Nat} {j : Json} (h : j.Writable room) : j.ParsesBack room := by
  induction h with
  | arr h ih =>
    rename_i room items
    intro fuel depth rest hdepth hfuel
    cases items with
    | nil =>
      rw [lexemes, List.length_cons, List.length_singleton] at hfuel
      obtain ⟨fuel, rfl⟩ : ∃ f, fuel = f + 1 := ⟨fuel - 1, by omega⟩
      show some (Raw.atDepth (depth + 1) (.arr []), rest) = _
      rw [Raw.atDepth, if_pos (by omega)]
      rfl
    | cons item items =>
      rw [lexemes, List.cons_append, List.length_cons] at hfuel
      obtain ⟨fuel, rfl⟩ : ∃ f, fuel = f + 1 := ⟨fuel - 1, by omega⟩
      have hitems : parseItems fuel (depth + 1)
          (lexemes item ++ (itemsTailLexemes items ++ rest)) =
          some (rawItems (item :: items), rest) :=
        parseItems_lexemes ih (by omega) (by omega)
      -- the list is not empty, since no item starts with the closing bracket
      obtain ⟨word, words, hword, hne⟩ := exists_lexemes_eq item
      rw [lexemes, List.cons_append, List.cons_append, List.append_assoc, parseValue, hitems]
      · rw [Option.map_some]
        dsimp only
        rw [Raw.atDepth, if_pos (by omega)]
        rfl
      · intro rest' heq
        rw [hword] at heq
        exact hne (List.cons.inj heq).1
  | obj hsorted h ih =>
    rename_i room fields
    intro fuel depth rest hdepth hfuel
    cases fields with
    | nil =>
      rw [lexemes, List.length_cons, List.length_singleton] at hfuel
      obtain ⟨fuel, rfl⟩ : ∃ f, fuel = f + 1 := ⟨fuel - 1, by omega⟩
      show some (Raw.atDepth (depth + 1) (.obj []), rest) = _
      rw [Raw.atDepth, if_pos (by omega)]
      rfl
    | cons field fields =>
      obtain ⟨name, value⟩ := field
      rw [lexemes, List.cons_append, List.length_cons] at hfuel
      obtain ⟨fuel, rfl⟩ : ∃ f, fuel = f + 1 := ⟨fuel - 1, by omega⟩
      have hmembers : parseMembers fuel (depth + 1) (.str (some name) :: .colon ::
          (lexemes value ++ (fieldsTailLexemes fields ++ rest))) =
          some (((name, value) :: fields).map fun f => (some f.1, raw f.2), rest) :=
        parseMembers_lexemes ih (by omega) (by omega)
      rw [lexemes]
      simp only [List.cons_append, List.append_assoc]
      rw [parseValue, hmembers]
      · rw [Option.map_some]
        dsimp only
        rw [ofMembers_map, Raw.atDepth, if_pos (by omega)]
        rfl
      · intro rest' heq
        cases (List.cons.inj heq).1
  | _ =>
    intro fuel depth rest hdepth hfuel
    rw [lexemes, List.length_singleton] at hfuel
    obtain ⟨fuel, rfl⟩ : ∃ f, fuel = f + 1 := ⟨fuel - 1, by omega⟩
    rfl

/-- The text of a value is read as its document. With the words of `Writable.lex?_render`, all that
is left to see is that there is fuel enough. -/
theorem Writable.parse?_render {j : Json} (h : j.Writable maxDepth) :
    Json.parse? (render j) = some j.raw := by
  have hparse : parseValue (2 * (lexemes j).length + 1) 0 (lexemes j ++ []) = some (j.raw, []) :=
    h.parsesBack (Nat.le_of_eq (Nat.zero_add _)) (Nat.le_succ _)
  rw [List.append_nil] at hparse
  rw [Json.parse?, h.lex?_render, Option.bind_some, document?, hparse]

/-! ### The depth of what was parsed -/

/-- The items of a list nest as deep as the deepest of them. -/
theorem Raw.itemsDepth_le_iff {items : List Raw} {room : Nat} :
    Raw.itemsDepth items ≤ room ↔ ∀ item ∈ items, item.depth ≤ room := by
  induction items with
  | nil => exact ⟨fun _ _ h => (nomatch h), fun _ => Nat.zero_le _⟩
  | cons item items ih => rw [itemsDepth, Nat.max_le, List.forall_mem_cons, ih]

/-- The members of an object nest as deep as the deepest of them. -/
theorem Raw.membersDepth_le_iff {members : List (String × Raw)} {room : Nat} :
    Raw.membersDepth members ≤ room ↔ ∀ member ∈ members, member.2.depth ≤ room := by
  induction members with
  | nil => exact ⟨fun _ _ h => (nomatch h), fun _ => Nat.zero_le _⟩
  | cons member members ih => rw [membersDepth, Nat.max_le, List.forall_mem_cons, ih]

/-- A container is kept or left unread, and nests no deeper than it may. What is left unread has no
depth at all. -/
theorem Raw.depth_atDepth_le {depth : Nat} {container : Raw}
    (h : container.depth ≤ maxDepth - (depth + 1) + 1) :
    (Raw.atDepth (depth + 1) container).depth ≤ maxDepth - depth := by
  unfold atDepth
  split
  · omega
  · exact Nat.zero_le _

/-- An object nests one deeper than its members, if it is not left unread. -/
theorem Raw.depth_ofMembers_le {members : List (Option String × Raw)} {room : Nat}
    (h : ∀ member ∈ members, member.2.depth ≤ room) : (ofMembers members).depth ≤ room + 1 := by
  unfold ofMembers
  split
  · rename_i named hnamed
    rw [depth, Nat.add_le_add_iff_right, membersDepth_le_iff]
    intro member hmember
    obtain ⟨⟨name?, document⟩, hmem, hname⟩ := exists_mem_of_option_mapM hnamed hmember
    obtain ⟨name, -, rfl⟩ := Option.map_eq_some_iff.mp hname
    exact h _ hmem
  · exact Nat.zero_le _

/-- What is parsed at a depth nests no deeper than there is room. The induction is on the fuel, for
values, items and members together, since they call each other. -/
theorem depth_parse_le (fuel : Nat) :
    (∀ {depth : Nat} {words rest : List Lexeme} {document : Raw},
      parseValue fuel depth words = some (document, rest) → document.depth ≤ maxDepth - depth) ∧
    (∀ {depth : Nat} {words rest : List Lexeme} {items : List Raw},
      parseItems fuel depth words = some (items, rest) →
        ∀ item ∈ items, item.depth ≤ maxDepth - depth) ∧
    (∀ {depth : Nat} {words rest : List Lexeme} {members : List (Option String × Raw)},
      parseMembers fuel depth words = some (members, rest) →
        ∀ member ∈ members, member.2.depth ≤ maxDepth - depth) := by
  induction fuel with
  | zero =>
    refine ⟨fun h => ?_, fun h => ?_, fun h => ?_⟩
    · rw [parseValue] at h
      cases h
    · rw [parseItems] at h
      cases h
    · rw [parseMembers] at h
      cases h
  | succ fuel ih =>
    -- the three readers call one another, each with less fuel
    obtain ⟨ihvalue, ihitems, ihmembers⟩ := ih
    refine ⟨?_, ?_, ?_⟩
    · intro depth words rest document h
      unfold parseValue at h
      split at h
      case h_7 | h_9 =>
        -- an empty list or object
        cases h
        exact Raw.depth_atDepth_le (Nat.le_add_left _ _)
      case h_8 =>
        -- a list, one level deeper than its items
        obtain ⟨⟨items, rest'⟩, hitems, h⟩ := Option.map_eq_some_iff.mp h
        cases h
        refine Raw.depth_atDepth_le ?_
        rw [Raw.depth, Nat.add_le_add_iff_right, Raw.itemsDepth_le_iff]
        exact ihitems hitems
      case h_10 =>
        -- an object, or a document that cannot be read if one of its names cannot
        obtain ⟨⟨members, rest'⟩, hmembers, h⟩ := Option.map_eq_some_iff.mp h
        cases h
        exact Raw.depth_atDepth_le (Raw.depth_ofMembers_le (ihmembers hmembers))
      case h_11 => cases h
      -- a scalar has no depth
      all_goals
        cases h
        exact Nat.zero_le _
    · intro depth words rest items h
      unfold parseItems at h
      split at h
      · rename_i item rest' hitem
        obtain ⟨⟨items', rest''⟩, hitems, h⟩ := Option.map_eq_some_iff.mp h
        cases h
        exact List.forall_mem_cons.mpr ⟨ihvalue hitem, ihitems hitems⟩
      · rename_i item rest' hitem
        cases h
        exact List.forall_mem_cons.mpr ⟨ihvalue hitem, fun _ h => nomatch h⟩
      · cases h
    · intro depth words rest members h
      unfold parseMembers at h
      split at h
      · split at h
        · rename_i member rest'' hmember
          obtain ⟨⟨members', rest'''⟩, hmembers, h⟩ := Option.map_eq_some_iff.mp h
          cases h
          exact List.forall_mem_cons.mpr ⟨ihvalue hmember, ihmembers hmembers⟩
        · rename_i member rest'' hmember
          cases h
          exact List.forall_mem_cons.mpr ⟨ihvalue hmember, fun _ h => nomatch h⟩
        · cases h
      · cases h

/-- A document that was read nests no deeper than documents may. So all that was read can be written
and read again at the same depth. -/
theorem depth_le_of_parse? {text : String} {document : Raw}
    (h : Json.parse? text = some document) : document.depth ≤ maxDepth := by
  obtain ⟨words, -, hwords⟩ := Option.bind_eq_some_iff.mp h
  unfold document? at hwords
  split at hwords
  · rename_i document' hvalue
    cases hwords
    exact (depth_parse_le _).1 hvalue
  · cases hwords

end Polyglot.Json
