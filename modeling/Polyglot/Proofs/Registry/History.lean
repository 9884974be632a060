import Polyglot.Proofs.Support.Except
import Polyglot.Proofs.Table
import Polyglot.Registry

/-!
# `Polyglot.Proofs.Registry.History`: what a registry remembers

A registry keeps tables, identities and a memo. All that it answers can be said of the plain
list of the profiles that were registered (`History`): the last profile with a name, the last
one that claims a file extension, and a profile over all that it extends.

`Registry.Consistent` says that a registry is one for a history. Its identities are explained
by a list of objects that the registry does not have: all profiles that were registered or
resolved, each at the index that is its identity. A memo that is keyed by identity is right
because of it: the profile that an entry was resolved from is the one that now has the identity.

Registering a profile adds it to the history (`Registry.Consistent.register`), and a lookup
answers what the history says and leaves it as it is (`Registry.Consistent.resolve`,
`Registry.Consistent.resolvePath`). Hence the registry is consistent with the history after
any run of actions (`Registry.exists_consistent`).
-/

set_option autoImplicit false

namespace Polyglot

/-- The file extensions of a profile as keys. Those with an empty key do not count. -/
def Profile.extensionKeys (p : Profile) : List String :=
  (p.fileExtensions.map extensionKey).filter (!·.isEmpty)

/-! ### Histories -/

/-- The profiles that were registered, the first one first. -/
abbrev History := List Profile

namespace History

/-- The last profile with a name. -/
def named? (history : History) (name : String) : Option Profile :=
  history.reverse.find? (·.name == name)

/-- The last profile with a file extension of the given key. -/
def claiming? (history : History) (key : String) : Option Profile :=
  history.reverse.find? (·.extensionKeys.contains key)

/-- The profile under a name: exactly, or else in lower case. -/
def findName? (history : History) (name : String) : Option Profile :=
  history.named? name <|> history.named? (lowercaseName name)

/-- The profile under a key: by name, or else by file extension. -/
def find? (history : History) (key : String) : Option Profile :=
  history.findName? key <|> history.claiming? (extensionKey key)

/-- A profile with all that it extends. -/
def inherited (history : History) (p : Profile) : Except Error Profile :=
  p.resolve history.findName? (history.map (·.name)).dedup.length

/-- The profile under a key with all that it extends. -/
def profile (history : History) (key : String) : Except Error Profile :=
  match history.find? key with
  | none => .error (.unknownLanguage key)
  | some p => history.inherited p

/-- The profile for a path: the one under the key of its extension, if some profile has claimed
the extension. -/
def profileForPath (history : History) (path : String) : Except Error Profile :=
  match (pathExtension? path).map extensionKey with
  | some key =>
    if (history.claiming? key).isSome then history.profile key
    else .error (.unknownLanguage path)
  | none => .error (.unknownLanguage path)

/-- The last profile that passes a test, after one more registration. It is the new one if it
passes, and otherwise the one that it was before. Names and extensions are two such tests. -/
theorem find?_reverse_append (history : History) (p : Profile) (test : Profile → Bool) :
    (history ++ [p]).reverse.find? test =
      if test p = true then some p else history.reverse.find? test := by
  rw [List.reverse_append, List.reverse_singleton, List.singleton_append, List.find?_cons]
  cases test p <;> rfl

/-- The last profile with a name after one more registration. -/
theorem named?_append (history : History) (p : Profile) (name : String) :
    named? (history ++ [p]) name = if name = p.name then some p else history.named? name := by
  unfold named?
  rw [find?_reverse_append]
  simp only [beq_iff_eq, @eq_comm _ name]

/-- The last profile that claims an extension after one more registration. A profile may claim
several extensions at once, and takes all of them from the earlier ones. -/
theorem claiming?_append (history : History) (p : Profile) (key : String) :
    claiming? (history ++ [p]) key =
      if key ∈ p.extensionKeys then some p else history.claiming? key := by
  unfold claiming?
  rw [find?_reverse_append]
  simp only [List.contains_iff_mem]

/-- A name is found just if a profile has it, whichever of several profiles with the name it is. -/
theorem isSome_named?_iff {history : History} {name : String} :
    (history.named? name).isSome ↔ name ∈ history.map (·.name) := by
  simp [named?]

/-- A profile that extends nothing is what it is. The registry answers it with the registered object
itself and makes no new one. -/
theorem inherited_of_parent_eq_none {history : History} {p : Profile} (h : p.parent = none) :
    history.inherited p = .ok p := by
  rw [inherited, Profile.resolve, Profile.resolveAlong, h]

end History

/-! ### Objects -/

/-- Objects with the same identity and the same profile are the same. -/
theorem Shared.eq_of_id_eq_of_profile_eq {s t : Shared} (hid : s.id = t.id)
    (hprofile : s.profile = t.profile) : s = t := by
  cases s
  cases t
  cases hid
  cases hprofile
  rfl

/-- An object holds the profile `p`, and its identity says so among all objects. -/
def Shared.Holds (objects : List Profile) (s : Shared) (p : Profile) : Prop :=
  objects[s.id]? = some p ∧ s.profile = p

/-- An object that is there stays when more are made. Objects are only added behind the others, so
identities never change their meaning. -/
theorem getElem?_mono {α : Type} {objects objects' : List α} {id : Nat} {p : α}
    (hmore : objects <+: objects') (h : objects[id]? = some p) : objects'[id]? = some p := by
  obtain ⟨new, rfl⟩ := hmore
  obtain ⟨hlt, -⟩ := List.getElem?_eq_some_iff.mp h
  rwa [List.getElem?_append_left hlt]

/-- An object holds its profile also when more are made. -/
theorem Shared.Holds.mono {objects objects' : List Profile} {s : Shared} {p : Profile}
    (h : s.Holds objects p) (hmore : objects <+: objects') : s.Holds objects' p :=
  ⟨getElem?_mono hmore h.1, h.2⟩

/-- The next object holds the profile that it is made with. Its identity is the number of objects so
far, and this is how the registry counts them. -/
theorem Shared.holds_new (objects : List Profile) (p : Profile) :
    Shared.Holds (objects ++ [p]) ⟨objects.length, p⟩ p := by
  refine ⟨?_, rfl⟩
  rw [List.getElem?_append_right (Nat.le_refl _), Nat.sub_self]
  rfl

/-- What is found is an object that holds the profile sought, or there is neither. -/
def Shared.Found (objects : List Profile) (found : Option Shared) (sought : Option Profile) :
    Prop :=
  Option.Rel (Shared.Holds objects) found sought

/-- What is found is found also when more objects are made. -/
theorem Shared.Found.mono {objects objects' : List Profile} {found : Option Shared}
    {sought : Option Profile} (h : Found objects found sought) (hmore : objects <+: objects') :
    Found objects' found sought := by
  cases h with
  | none => exact .none
  | some h => exact .some (h.mono hmore)

/-- Looking at one place and then at another. Both sides go to the second place in the same cases,
because they agree on whether there is something at the first one. -/
theorem Shared.Found.orElse {objects : List Profile} {found found' : Option Shared}
    {sought sought' : Option Profile} (h : Found objects found sought)
    (h' : Found objects found' sought') :
    Found objects (found <|> found') (sought <|> sought') := by
  cases h with
  | none => exact h'
  | some h => exact .some h

/-- The profile that is found is the one sought. The identity of the object is forgotten here. -/
theorem Shared.Found.map_profile {objects : List Profile} {found : Option Shared}
    {sought : Option Profile} (h : Found objects found sought) :
    found.map (·.profile) = sought := by
  cases h with
  | none => rfl
  | some h => exact congrArg some h.2

/-! ### Consistent registries -/

/-- A registry is one for a history, where `objects` are the profiles of all identities. -/
structure Registry.Consistent (history : History) (objects : List Profile) (r : Registry) :
    Prop where
  /-- The identities are those of the objects. -/
  nextId_eq : r.nextId = objects.length
  /-- The last profile with a name is found under it. -/
  byName : ∀ name, Shared.Found objects (r.byName.find? name) (history.named? name)
  /-- The last profile that claims an extension is found under it. -/
  byExtension : ∀ key, Shared.Found objects (r.byExtension.find? key) (history.claiming? key)
  /-- What is remembered for an object is what its profile is resolved to. -/
  memo : ∀ entry ∈ r.memo, ∃ p resolved, objects[entry.1]? = some p ∧
    history.inherited p = .ok resolved ∧ entry.2.Holds objects resolved

/-- An outcome of a lookup in a registry for `history`: the answer is the reference, and the
registry is one for the history as before. -/
def Registry.Answers (history : History) (objects : List Profile)
    (outcome : Except Error Shared × Registry) (reference : Except Error Profile) : Prop :=
  ∃ objects', objects <+: objects' ∧ outcome.2.Consistent history objects' ∧
    Agree (Shared.Holds objects') outcome.1 reference

/-- The profile that an outcome comes to is the reference. Errors are the same on both sides as
well. -/
theorem Registry.Answers.map_profile {history : History} {objects : List Profile}
    {outcome : Except Error Shared × Registry} {reference : Except Error Profile}
    (h : Answers history objects outcome reference) :
    outcome.1.map (·.profile) = reference := by
  obtain ⟨_, -, -, hagree⟩ := h
  exact hagree.map_eq fun _ _ hholds => hholds.2

namespace Registry

/-- Before anything is registered there are no objects. -/
theorem consistent_empty : Consistent [] [] {} where
  nextId_eq := rfl
  byName _ := .none
  byExtension _ := .none
  memo _ h := absurd h List.not_mem_nil

namespace Consistent

variable {history : History} {objects : List Profile} {r : Registry}

/-- A registered profile is a new object and the last one in the history. Under its name and its
extensions it takes the place of what was there. The memo is emptied, since any profile may now
inherit something else. -/
theorem register (h : r.Consistent history objects) (p : Profile) :
    (r.register p).Consistent (history ++ [p]) (objects ++ [p]) where
  nextId_eq := by
    rw [List.length_append, ← h.nextId_eq]
    rfl
  byName name := by
    rw [History.named?_append]
    show Shared.Found _ ((r.byName.insert p.name ⟨r.nextId, p⟩).find? name) _
    -- the identity of the new object is the number of the objects before it
    rw [Table.find?_insert, h.nextId_eq]
    split
    · exact .some (Shared.holds_new objects p)
    · exact (h.byName name).mono (List.prefix_append _ _)
  byExtension key := by
    rw [History.claiming?_append]
    show Shared.Found _ ((p.extensionKeys.foldl
      (fun t key => t.insert key ⟨r.nextId, p⟩) r.byExtension).find? key) _
    rw [Table.find?_foldl_insert, h.nextId_eq]
    split
    · exact .some (Shared.holds_new objects p)
    · exact (h.byExtension key).mono (List.prefix_append _ _)
  -- a registration may change what any profile inherits, and the memo is emptied
  memo _ h := absurd h List.not_mem_nil

/-- The profile under a name. -/
theorem findName? (h : r.Consistent history objects) (name : String) :
    Shared.Found objects (r.findName? name) (history.findName? name) :=
  (h.byName name).orElse (h.byName (lowercaseName name))

/-- The profile under a key. The order is that of the registry: the name as it is, the name in lower
case, and then the extension. -/
theorem find? (h : r.Consistent history objects) (key : String) :
    Shared.Found objects (r.find? key) (history.find? key) :=
  (h.findName? key).orElse (h.byExtension (extensionKey key))

/-- The number of names. The table has each name once, however often it was registered. This is the
bound on the steps with which a chain of parents is walked. -/
theorem size_eq (h : r.Consistent history objects) :
    r.byName.size = (history.map (·.name)).dedup.length := by
  refine Table.size_eq_of_mem_keys_iff fun name => ?_
  rw [← Table.isSome_find?_iff, ← History.isSome_named?_iff, ← (h.byName name).map_profile,
    Option.isSome_map]

/-- A profile with all that it extends. The registry looks parents up in its table and the history
among its profiles. They find the same ones, and walk as many steps. -/
theorem inherited_eq (h : r.Consistent history objects) (p : Profile) :
    r.inherited p = history.inherited p := by
  have hlookup : (fun parent => (r.findName? parent).map (·.profile)) = history.findName? :=
    funext fun parent => (h.findName? parent).map_profile
  rw [inherited, History.inherited, hlookup, h.size_eq]

/-- A resolved profile is a new object that is remembered. The tables stay as they are: what was
resolved is never found under a name. -/
theorem remember (h : r.Consistent history objects) {id : Nat} {p resolved : Profile}
    (hp : objects[id]? = some p) (hresolved : history.inherited p = .ok resolved) :
    Consistent history (objects ++ [resolved])
      { r with memo := (id, ⟨r.nextId, resolved⟩) :: r.memo, nextId := r.nextId + 1 } where
  nextId_eq := by
    rw [List.length_append, ← h.nextId_eq]
    rfl
  byName name := (h.byName name).mono (List.prefix_append _ _)
  byExtension key := (h.byExtension key).mono (List.prefix_append _ _)
  memo entry hentry := by
    rcases List.mem_cons.mp hentry with rfl | hentry
    · refine ⟨p, resolved, getElem?_mono (List.prefix_append _ _) hp, hresolved, ?_⟩
      rw [h.nextId_eq]
      exact Shared.holds_new objects resolved
    · obtain ⟨q, known, hq, hknown, hholds⟩ := h.memo entry hentry
      exact ⟨q, known, getElem?_mono (List.prefix_append _ _) hq, hknown,
        hholds.mono (List.prefix_append _ _)⟩

/-- Resolving an object answers what its profile is resolved to, from the memo or not. What is
remembered was resolved by the same history, as registering empties the memo. What is not remembered
is resolved now and remembered. -/
theorem resolveShared (h : r.Consistent history objects) {entry : Shared} {p : Profile}
    (hentry : entry.Holds objects p) :
    Answers history objects (r.resolveShared entry) (history.inherited p) := by
  obtain ⟨hid, hprofile⟩ := hentry
  rw [Registry.resolveShared, hprofile]
  split
  · -- there is nothing to inherit, and the object itself is the answer
    rename_i hparent
    refine ⟨objects, List.prefix_rfl, h, ?_⟩
    rw [History.inherited_of_parent_eq_none (Option.isNone_iff_eq_none.mp hparent)]
    exact .ok ⟨hid, hprofile⟩
  · split
    · -- the entry was made for the object with this identity, which is the same one
      rename_i known hknown
      obtain ⟨q, resolved, hq, hresolved, hholds⟩ :=
        h.memo known (List.mem_of_find?_eq_some hknown)
      have hkey : known.1 = entry.id := by simpa using List.find?_some hknown
      rw [hkey, hid] at hq
      obtain rfl := Option.some.inj hq
      rw [hresolved]
      exact ⟨objects, List.prefix_rfl, h, .ok hholds⟩
    · rw [h.inherited_eq]
      split
      · -- a failure is not remembered
        rename_i e he
        rw [he]
        exact ⟨objects, List.prefix_rfl, h, .error e⟩
      · rename_i resolved hresolved
        refine ⟨objects ++ [resolved], List.prefix_append _ _, h.remember hid hresolved, ?_⟩
        rw [hresolved, h.nextId_eq]
        exact .ok (Shared.holds_new objects resolved)

/-- Resolving a key answers what the history says. If nothing is found under the key, both answer
with the same error and nothing changes. -/
theorem resolve (h : r.Consistent history objects) (key : String) :
    Answers history objects (r.resolve key) (history.profile key) := by
  have hfound := h.find? key
  unfold Registry.resolve History.profile
  generalize r.find? key = found at hfound ⊢
  generalize history.find? key = sought at hfound ⊢
  cases hfound with
  | none => exact ⟨objects, List.prefix_rfl, h, .error _⟩
  | some hentry => exact h.resolveShared hentry

/-- Resolving a path answers what the history says. Both ask first whether the extension is claimed,
and then go by the key, where a name comes before an extension. -/
theorem resolvePath (h : r.Consistent history objects) (path : String) :
    Answers history objects (r.resolvePath path) (history.profileForPath path) := by
  unfold Registry.resolvePath History.profileForPath
  cases (pathExtension? path).map extensionKey with
  | none => exact ⟨objects, List.prefix_rfl, h, .error _⟩
  | some key =>
    dsimp only
    rw [← (h.byExtension key).map_profile, Option.isSome_map]
    split
    · exact h.resolve key
    · exact ⟨objects, List.prefix_rfl, h, .error _⟩

end Consistent

/-! ### Runs -/

/-- Something that is done with a registry. -/
inductive Action where
  /-- Register a profile. -/
  | register (profile : Profile)
  /-- Resolve a key. -/
  | resolve (key : String)
  /-- Resolve a path. -/
  | resolvePath (path : String)

/-- The profile that an action registers. -/
def Action.registered? : Action → Option Profile
  | register profile => some profile
  | _ => none

/-- The registry after an action. -/
def act (r : Registry) : Action → Registry
  | .register profile => r.register profile
  | .resolve key => (r.resolve key).2
  | .resolvePath path => (r.resolvePath path).2

/-- The registry after a run of actions, nothing being registered before. -/
def after (actions : List Action) : Registry := actions.foldl act {}

/-- The profiles that a run of actions registers. -/
def registered (actions : List Action) : History := actions.filterMap Action.registered?

namespace Consistent

variable {history : History} {objects : List Profile} {r : Registry}

/-- An action keeps a registry consistent with what has been registered. Only a registration adds to
the history; a lookup may make objects, which is why these are only said to exist. -/
theorem act (h : r.Consistent history objects) (action : Action) :
    ∃ objects', (r.act action).Consistent (history ++ registered [action]) objects' := by
  cases action with
  | register profile => exact ⟨objects ++ [profile], h.register profile⟩
  | resolve key =>
    obtain ⟨objects', -, hconsistent, -⟩ := h.resolve key
    exact ⟨objects', (List.append_nil history).symm ▸ hconsistent⟩
  | resolvePath path =>
    obtain ⟨objects', -, hconsistent, -⟩ := h.resolvePath path
    exact ⟨objects', (List.append_nil history).symm ▸ hconsistent⟩

/-- Actions keep a registry consistent with what has been registered. The induction is on the
actions, for any registry and any history to start from. -/
theorem foldl_act (h : r.Consistent history objects) (actions : List Action) :
    ∃ objects', (actions.foldl Registry.act r).Consistent (history ++ registered actions)
      objects' := by
  induction actions generalizing r history objects with
  | nil => exact ⟨objects, (List.append_nil history).symm ▸ h⟩
  | cons action rest ih =>
    obtain ⟨objects', h'⟩ := h.act action
    have hregistered : registered (action :: rest) = registered [action] ++ registered rest :=
      List.filterMap_append (l := [action])
    rw [hregistered, ← List.append_assoc]
    exact ih h'

end Consistent

/-- After any run of actions, the registry is one for the profiles that were registered. So what it
answers depends on the registrations and their order alone, and not on the lookups between them. -/
theorem exists_consistent (actions : List Action) :
    ∃ objects, (after actions).Consistent (registered actions) objects :=
  consistent_empty.foldl_act actions

end Registry

end Polyglot
