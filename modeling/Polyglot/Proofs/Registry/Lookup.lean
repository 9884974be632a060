import Mathlib.Data.List.Sort
import Mathlib.Data.String.Basic
import Polyglot.Proofs.Registry.History

/-!
# `Polyglot.Proofs.Registry.Lookup`: the last registration counts

What a registry finds under a key is said of the list of the profiles that were registered
(`History.Finds`): the last one with the key for its name, or else the last one with the key in
lower case for its name, or else the last one that claims the key as a file extension. The main
theorem, `Registry.lookup_after`, says that this is what is found after any run of actions, that
each name and each extension is listed once and in order, and that two profiles with nothing in
common may be registered in either order.

The two tables of a registry are updated key by key, so a profile can lose its name and keep an
extension. None of this shows in the list: it only grows, and each key asks for the last profile
that passes a test of its own (`History.find?_reverse_eq_some_iff`). The order of two
neighbours in the list matters to a key only if both of them pass its test
(`History.find?_reverse_swap`).
-/

set_option autoImplicit false

namespace Polyglot

/-- A profile claims a key as a file extension. An empty key is no extension. -/
def Profile.Claims (p : Profile) (key : String) : Prop :=
  extensionKey key ≠ "" ∧ ∃ extension ∈ p.fileExtensions, extensionKey extension = extensionKey key

/-- The keys under which a profile is registered are those that it claims. Extensions are compared
by their keys, so `.TY` claims what `ty` does. -/
theorem Profile.extensionKey_mem_extensionKeys {p : Profile} {key : String} :
    extensionKey key ∈ p.extensionKeys ↔ p.Claims key := by
  simp only [extensionKeys, Claims, List.mem_filter, List.mem_map, Bool.not_eq_true',
    String.isEmpty_eq_false_iff]
  exact And.comm

namespace History

/-! ### The last profile that passes a test -/

/-- The last profile of a history that meets a condition. -/
def IsLast (history : History) (test : Profile → Prop) (p : Profile) : Prop :=
  ∃ before later, history = before ++ p :: later ∧ test p ∧ ∀ q ∈ later, ¬ test q

/-- From the end of a history, the first profile that passes a test is the last one. Both names and
extensions are looked up in this way, so priority among equal claims is settled here. -/
theorem find?_reverse_eq_some_iff {history : History} {test : Profile → Bool} {p : Profile} :
    history.reverse.find? test = some p ↔ history.IsLast (fun q => test q = true) p := by
  rw [List.find?_eq_some_iff_append]
  constructor
  · rintro ⟨hp, later, before, hsplit, hlater⟩
    refine ⟨before.reverse, later.reverse, ?_, hp, ?_⟩
    · rw [← List.reverse_reverse history, hsplit]
      simp
    · intro q hq
      simpa using hlater q (List.mem_reverse.mp hq)
  · rintro ⟨before, later, rfl, hp, hlater⟩
    refine ⟨hp, later.reverse, before.reverse, by simp, ?_⟩
    intro q hq
    simpa using hlater q (List.mem_reverse.mp hq)

/-- Two neighbours can be swapped if they do not both pass the test. Otherwise the later one would
hide the other. -/
theorem find?_reverse_swap {before later : History} {p q : Profile} {test : Profile → Bool}
    (h : ¬ (test p = true ∧ test q = true)) :
    (before ++ p :: q :: later).reverse.find? test =
      (before ++ q :: p :: later).reverse.find? test := by
  have hpair : [q, p].find? test = [p, q].find? test := by
    cases hp : test p <;> cases hq : test q <;> simp_all
  have hsplit : ∀ a b : Profile, (before ++ a :: b :: later).reverse =
      later.reverse ++ ([b, a] ++ before.reverse) := by
    intro a b
    simp
  rw [hsplit, hsplit, List.find?_append, List.find?_append, List.find?_append, List.find?_append,
    hpair]

/-! ### Keys -/

/-- What is found under a key, if anything is. -/
inductive Finds (history : History) (key : String) : Option Profile → Prop where
  /-- The last profile with this name. -/
  | byName {p : Profile} (h : history.IsLast (fun q => q.name = key) p) : Finds history key (some p)
  /-- If no profile has this name, the last one with this name in lower case. -/
  | byLowercase {p : Profile} (hname : ∀ q ∈ history, q.name ≠ key)
      (h : history.IsLast (fun q => q.name = lowercaseName key) p) : Finds history key (some p)
  /-- If no profile has either name, the last one that claims the key as an extension. -/
  | byExtension {p : Profile} (hname : ∀ q ∈ history, q.name ≠ key)
      (hlower : ∀ q ∈ history, q.name ≠ lowercaseName key)
      (h : history.IsLast (fun q => q.Claims key) p) : Finds history key (some p)
  /-- Otherwise nothing. -/
  | nothing (hname : ∀ q ∈ history, q.name ≠ key)
      (hlower : ∀ q ∈ history, q.name ≠ lowercaseName key)
      (hclaims : ∀ q ∈ history, ¬ q.Claims key) : Finds history key none

variable {history : History}

/-- The last profile with a name. -/
theorem named?_eq_some_iff {name : String} {p : Profile} :
    history.named? name = some p ↔ history.IsLast (fun q => q.name = name) p := by
  simp only [named?, find?_reverse_eq_some_iff, beq_iff_eq]

/-- There is no last profile with a name just if there is none. -/
theorem named?_eq_none_iff {name : String} :
    history.named? name = none ↔ ∀ q ∈ history, q.name ≠ name := by
  simp [named?]

/-- The last profile that claims an extension. -/
theorem claiming?_eq_some_iff {key : String} {p : Profile} :
    history.claiming? (extensionKey key) = some p ↔ history.IsLast (fun q => q.Claims key) p := by
  simp only [claiming?, find?_reverse_eq_some_iff, List.contains_iff_mem,
    Profile.extensionKey_mem_extensionKeys]

/-- There is no last profile that claims an extension just if there is none. An empty key is never
claimed, also if a profile has an extension of dots only. -/
theorem claiming?_eq_none_iff {key : String} :
    history.claiming? (extensionKey key) = none ↔ ∀ q ∈ history, ¬ q.Claims key := by
  simp [claiming?, ← Profile.extensionKey_mem_extensionKeys]

/-- A lookup in a history finds what is found under the key. The three places are looked at in turn,
and each is only looked at when there is nothing in those before it. -/
theorem finds_find? (history : History) (key : String) :
    history.Finds key (history.find? key) := by
  rw [find?, findName?]
  cases hname : history.named? key with
  | some p => exact .byName (named?_eq_some_iff.mp hname)
  | none =>
    cases hlower : history.named? (lowercaseName key) with
    | some p => exact .byLowercase (named?_eq_none_iff.mp hname) (named?_eq_some_iff.mp hlower)
    | none =>
      cases hclaims : history.claiming? (extensionKey key) with
      | some p =>
        exact .byExtension (named?_eq_none_iff.mp hname) (named?_eq_none_iff.mp hlower)
          (claiming?_eq_some_iff.mp hclaims)
      | none =>
        exact .nothing (named?_eq_none_iff.mp hname) (named?_eq_none_iff.mp hlower)
          (claiming?_eq_none_iff.mp hclaims)

/-- Nothing else is found under a key. With `finds_find?` this makes `Finds` a description of the
lookup in both directions, and in particular it allows one answer only. -/
theorem Finds.eq_find? {key : String} {answer : Option Profile} (h : history.Finds key answer) :
    history.find? key = answer := by
  rw [find?, findName?]
  -- each stage is asked only if those in front of it have found nothing
  cases h with
  | byName h =>
    rw [named?_eq_some_iff.mpr h]
    rfl
  | byLowercase hname h =>
    rw [named?_eq_none_iff.mpr hname, named?_eq_some_iff.mpr h]
    rfl
  | byExtension hname hlower h =>
    rw [named?_eq_none_iff.mpr hname, named?_eq_none_iff.mpr hlower, claiming?_eq_some_iff.mpr h]
    rfl
  | nothing hname hlower hclaims =>
    rw [named?_eq_none_iff.mpr hname, named?_eq_none_iff.mpr hlower,
      claiming?_eq_none_iff.mpr hclaims]
    rfl

/-- Where names and extensions have the same last profiles, all is inherited alike. The bound on the
steps of the walk is the number of names, and this is the same for both histories as well. -/
theorem inherited_congr {other : History} (hnamed : ∀ name, history.named? name = other.named? name)
    (p : Profile) : history.inherited p = other.inherited p := by
  have hfind : history.findName? = other.findName? := by
    funext name
    rw [findName?, findName?, hnamed, hnamed]
  have hperm : ((history.map (·.name)).dedup).Perm ((other.map (·.name)).dedup) := by
    rw [List.perm_ext_iff_of_nodup (List.nodup_dedup _) (List.nodup_dedup _)]
    intro name
    rw [List.mem_dedup, List.mem_dedup, ← isSome_named?_iff, ← isSome_named?_iff, hnamed]
  rw [inherited, inherited, hfind, hperm.length_eq]

end History

/-! ### Listing what is registered -/

/-- The names of a table increase. -/
theorem Table.pairwise_keys {α : Type} (t : Table α) : t.keys.Pairwise (· < ·) :=
  List.pairwise_map.mpr t.sorted

/-- A dot in front of each of two texts keeps their order. Extensions are listed with a dot, and
sorted without. -/
theorem dotted_lt_dotted {a b : String} (h : a < b) : "." ++ a < "." ++ b := by
  rw [String.lt_iff_toList_lt] at h ⊢
  simpa using h

namespace Registry

namespace Consistent

variable {history : History} {objects : List Profile} {r : Registry}

/-- A name is listed if there is a last profile with it. -/
theorem mem_names_iff_isSome (h : r.Consistent history objects) {name : String} :
    name ∈ r.names ↔ (history.named? name).isSome := by
  rw [names, ← Table.isSome_find?_iff, ← (h.byName name).map_profile, Option.isSome_map]

/-- The key of an extension is listed if there is a last profile that claims it. -/
theorem mem_keys_iff_isSome (h : r.Consistent history objects) {key : String} :
    key ∈ r.byExtension.keys ↔ (history.claiming? key).isSome := by
  rw [← Table.isSome_find?_iff, ← (h.byExtension key).map_profile, Option.isSome_map]

/-- The names that are listed are those of the profiles. -/
theorem mem_names_iff (h : r.Consistent history objects) {name : String} :
    name ∈ r.names ↔ ∃ p ∈ history, p.name = name := by
  rw [h.mem_names_iff_isSome, History.isSome_named?_iff, List.mem_map]

/-- The extensions that are listed are those of the profiles, each with a dot. Two spellings with
the same key are one extension. -/
theorem mem_extensions_iff (h : r.Consistent history objects) {dotted : String} :
    dotted ∈ r.extensions ↔ ∃ p ∈ history, ∃ extension ∈ p.fileExtensions,
      extensionKey extension ≠ "" ∧ dotted = "." ++ extensionKey extension := by
  have hkeys : ∀ key, key ∈ r.byExtension.keys ↔ ∃ p ∈ history, key ∈ p.extensionKeys := by
    intro key
    rw [h.mem_keys_iff_isSome]
    simp [History.claiming?]
  simp only [extensions, List.mem_map, hkeys, Profile.extensionKeys, List.mem_filter,
    Bool.not_eq_true', String.isEmpty_eq_false_iff]
  constructor
  · rintro ⟨_, ⟨p, hp, ⟨extension, hmem, rfl⟩, hkey⟩, rfl⟩
    exact ⟨p, hp, extension, hmem, hkey, rfl⟩
  · rintro ⟨p, hp, extension, hmem, hkey, rfl⟩
    exact ⟨_, ⟨p, hp, ⟨extension, hmem, rfl⟩, hkey⟩, rfl⟩

end Consistent

/-- The names are listed in order. This is the order of the table, and since it is strict no name is
listed twice. -/
theorem pairwise_names (r : Registry) : r.names.Pairwise (· < ·) := r.byName.pairwise_keys

/-- The extensions are listed in order. -/
theorem pairwise_extensions (r : Registry) : r.extensions.Pairwise (· < ·) :=
  List.pairwise_map.mpr (r.byExtension.pairwise_keys.imp dotted_lt_dotted)

/-- There are as many names as are listed. -/
theorem size_eq_length_names (r : Registry) : r.size = r.names.length :=
  (List.length_map _).symm

/-! ### Registries that answer alike -/

/-- Two registries give the same answer to every lookup and list the same. -/
structure Alike (r r' : Registry) : Prop where
  /-- The same profile is found under a key. -/
  find? : ∀ key, (r.find? key).map (·.profile) = (r'.find? key).map (·.profile)
  /-- A key is resolved to the same profile, or fails with the same error. -/
  resolve : ∀ key, (r.resolve key).1.map (·.profile) = (r'.resolve key).1.map (·.profile)
  /-- A path is resolved to the same profile, or fails with the same error. -/
  resolvePath : ∀ path,
    (r.resolvePath path).1.map (·.profile) = (r'.resolvePath path).1.map (·.profile)
  /-- The same names are listed. -/
  names : r.names = r'.names
  /-- The same extensions are listed. -/
  extensions : r.extensions = r'.extensions
  /-- There are as many names. -/
  size : r.size = r'.size

/-- Where names and extensions have the same last profiles, registries answer alike. The identities
of the answers may differ, as these count what was registered and asked before. -/
theorem Consistent.alike {history other : History} {objects objects' : List Profile}
    {r r' : Registry} (h : r.Consistent history objects) (h' : r'.Consistent other objects')
    (hnamed : ∀ name, history.named? name = other.named? name)
    (hclaiming : ∀ key, history.claiming? key = other.claiming? key) : r.Alike r' := by
  have hfind : ∀ key, history.find? key = other.find? key := by
    -- all lookups are made from the two tables in which the histories agree
    intro key
    simp only [History.find?, History.findName?, hnamed, hclaiming]
  have hprofile : ∀ key, history.profile key = other.profile key := by
    intro key
    simp only [History.profile, hfind, History.inherited_congr hnamed]
  have hpath : ∀ path, history.profileForPath path = other.profileForPath path := by
    intro path
    simp only [History.profileForPath, hclaiming, hprofile]
  have hnames : r.names = r'.names := by
    -- a sorted list without repetition is known by its members
    refine r.pairwise_names.eq_of_mem_iff r'.pairwise_names ?_
    intro name
    rw [h.mem_names_iff_isSome, h'.mem_names_iff_isSome, hnamed]
  have hkeys : r.byExtension.keys = r'.byExtension.keys := by
    refine r.byExtension.pairwise_keys.eq_of_mem_iff r'.byExtension.pairwise_keys ?_
    intro key
    rw [h.mem_keys_iff_isSome, h'.mem_keys_iff_isSome, hclaiming]
  exact {
    find? := fun key => by rw [(h.find? key).map_profile, (h'.find? key).map_profile, hfind]
    resolve := fun key => by
      rw [(h.resolve key).map_profile, (h'.resolve key).map_profile, hprofile]
    resolvePath := fun path => by
      rw [(h.resolvePath path).map_profile, (h'.resolvePath path).map_profile, hpath]
    names := hnames
    extensions := by rw [extensions, extensions, hkeys]
    size := by rw [size_eq_length_names, size_eq_length_names, hnames] }

/-- After any run of actions, what is found under a key is what is found in the list of the
profiles that were registered, and names and extensions are listed once and in order. Two
profiles that are registered one after the other, with different names and no common extension,
may as well be registered the other way round: every later answer is the same. -/
theorem lookup_after (actions : List Action) :
    (∀ key answer, ((after actions).find? key).map (·.profile) = answer ↔
      (registered actions).Finds key answer) ∧
    ((after actions).names.Pairwise (· < ·) ∧
      ∀ name, name ∈ (after actions).names ↔ ∃ p ∈ registered actions, p.name = name) ∧
    (after actions).size = (after actions).names.length ∧
    ((after actions).extensions.Pairwise (· < ·) ∧
      ∀ dotted, dotted ∈ (after actions).extensions ↔
        ∃ p ∈ registered actions, ∃ extension ∈ p.fileExtensions,
          extensionKey extension ≠ "" ∧ dotted = "." ++ extensionKey extension) ∧
    ∀ before later p q, actions = before ++ .register p :: .register q :: later →
      p.name ≠ q.name →
      (∀ x ∈ p.fileExtensions, ∀ y ∈ q.fileExtensions,
        extensionKey x = extensionKey y → extensionKey x = "") →
      (after actions).Alike (after (before ++ .register q :: .register p :: later)) := by
  obtain ⟨objects, h⟩ := exists_consistent actions
  refine ⟨?_, ⟨pairwise_names _, fun _ => h.mem_names_iff⟩, size_eq_length_names _,
    ⟨pairwise_extensions _, fun _ => h.mem_extensions_iff⟩, ?_⟩
  · intro key answer
    rw [(h.find? key).map_profile]
    constructor
    · rintro rfl
      exact History.finds_find? _ key
    · exact History.Finds.eq_find?
  · rintro before later p q rfl hname hextensions
    obtain ⟨objects', h'⟩ := exists_consistent (before ++ .register q :: .register p :: later)
    have hregistered : ∀ a b : Profile, registered (before ++ .register a :: .register b :: later) =
        registered before ++ a :: b :: registered later := by
      intro a b
      simp [registered, Action.registered?]
    rw [hregistered] at h h'
    refine h.alike h' ?_ ?_
    · intro name
      refine History.find?_reverse_swap ?_
      rintro ⟨hp, hq⟩
      exact hname ((beq_iff_eq.mp hp).trans (beq_iff_eq.mp hq).symm)
    · intro key
      refine History.find?_reverse_swap ?_
      rintro ⟨hp, hq⟩
      -- a key that both profiles have is that of an extension of each, and is not empty
      obtain ⟨hp, hkey⟩ := List.mem_filter.mp (List.contains_iff_mem.mp hp)
      obtain ⟨hq, -⟩ := List.mem_filter.mp (List.contains_iff_mem.mp hq)
      obtain ⟨x, hx, rfl⟩ := List.mem_map.mp hp
      obtain ⟨y, hy, heq⟩ := List.mem_map.mp hq
      have hempty := hextensions x hx y hy heq.symm
      simp [hempty] at hkey

/-- Two languages with nothing in common, the first of which has two extensions. -/
theorem lookup_after_unrelated :
    (after [.register { name := "toy", fileExtensions := [".ty", " TYX"] },
        .register { name := "other", fileExtensions := [".ab"] }]).Alike
      (after [.register { name := "other", fileExtensions := [".ab"] },
        .register { name := "toy", fileExtensions := [".ty", " TYX"] }]) :=
  (lookup_after _).2.2.2.2 [] [] _ _ rfl (by decide) (by decide +kernel)

end Registry

end Polyglot
