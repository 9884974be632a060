import Polyglot.Proofs.Registry.History

/-!
# `Polyglot.Proofs.Registry.Identity`: which lookups answer with the same object

Compiled lexers are kept by the identity of resolved profiles, so it matters which lookups
answer with the identical object.

Every object has an origin (`Origin`): it was registered, or it was resolved from a registered
object when a number of profiles had been registered. `Registry.Traced` says that a registry has
one object for each origin. A second one is never made: until something is registered the memo
has the first one, and then the number is a different one. So the identity of an answer is its
origin (`Traced.resolveShared`, `Shared.ComesFrom.id_eq_iff`).

`Registry.answers_identical_iff`: two lookups of a run answer with the identical object just if
they reached the same registered object, and it extends nothing or nothing was registered
between them. A registered object that extends nothing is its own answer.
-/

set_option autoImplicit false

namespace Polyglot

/-! ### Origins -/

/-- Where an object comes from. -/
inductive Origin where
  /-- It was registered, and `place` profiles had been registered before it. -/
  | registered (place : Nat)
  /-- It was resolved from the object with the identity `declared`, and `count` profiles had
  been registered. -/
  | resolved (declared count : Nat)
deriving DecidableEq

namespace Shared

/-- An object is what its identity says among all objects, and comes from `origin`. -/
def ComesFrom (objects : List (Origin × Profile)) (s : Shared) (origin : Origin) : Prop :=
  objects[s.id]? = some (origin, s.profile)

/-- The origin of what a registered object is resolved to: its own if it extends nothing. -/
def answerOrigin (entry : Shared) (place count : Nat) : Origin :=
  if entry.profile.parent.isNone then .registered place else .resolved entry.id count

namespace ComesFrom

variable {objects objects' : List (Origin × Profile)} {s t : Shared} {origin origin' : Origin}

/-- An object keeps its origin when more objects are made. -/
theorem mono (h : s.ComesFrom objects origin) (hmore : objects <+: objects') :
    s.ComesFrom objects' origin :=
  getElem?_mono hmore h

/-- The next object comes from where it is made. -/
theorem new (objects : List (Origin × Profile)) (origin : Origin) (p : Profile) :
    ComesFrom (objects ++ [(origin, p)]) ⟨objects.length, p⟩ origin :=
  List.getElem?_concat_length

/-- Objects with the same identity are the same. The list of all objects has one profile and one
origin at each place. -/
theorem eq_of_id_eq (hs : s.ComesFrom objects origin) (ht : t.ComesFrom objects origin')
    (hid : s.id = t.id) : s = t ∧ origin = origin' := by
  unfold ComesFrom at hs ht
  rw [hid, ht] at hs
  obtain ⟨horigin, hprofile⟩ := Prod.mk.inj (Option.some.inj hs)
  exact ⟨Shared.eq_of_id_eq_of_profile_eq hid hprofile.symm, horigin.symm⟩

/-- Where no two objects have the same origin, the identity of an object is its origin. So whether
two answers are identical can be told from where they come from. -/
theorem id_eq_iff (hs : s.ComesFrom objects origin) (ht : t.ComesFrom objects origin')
    (hdistinct : (objects.map (·.1)).Nodup) : s.id = t.id ↔ origin = origin' := by
  refine ⟨fun hid => (hs.eq_of_id_eq ht hid).2, ?_⟩
  rintro rfl
  have hplace : ∀ {u : Shared}, u.ComesFrom objects origin →
      (objects.map (·.1))[u.id]? = some origin := by
    intro u hu
    rw [List.getElem?_map, show objects[u.id]? = _ from hu]
    rfl
  have hlt : s.id < (objects.map (·.1)).length :=
    (List.getElem?_eq_some_iff.mp (hplace hs)).choose
  exact (List.getElem?_inj hlt hdistinct).mp ((hplace hs).trans (hplace ht).symm)

end ComesFrom

end Shared

/-- The origins of all objects after one more was made. -/
theorem mem_origins_concat {objects : List (Origin × Profile)} {new origin : Origin}
    {p : Profile} :
    origin ∈ (objects ++ [(new, p)]).map (·.1) ↔ origin ∈ objects.map (·.1) ∨ origin = new := by
  rw [List.map_append, List.map_singleton, List.mem_append, List.mem_singleton]

/-- Origins stay different when an object is made from a new one. That the origin is new has to be
shown wherever an object is made. -/
theorem nodup_origins_concat {objects : List (Origin × Profile)} {new : Origin} (p : Profile)
    (h : (objects.map (·.1)).Nodup) (hnew : new ∉ objects.map (·.1)) :
    ((objects ++ [(new, p)]).map (·.1)).Nodup := by
  rw [List.map_append, List.map_singleton, ← List.concat_eq_append]
  exact h.concat hnew

/-! ### Traced registries -/

/-- A registry in which `count` profiles have been registered, and in which the objects of all
identities come from different origins. -/
structure Registry.Traced (count : Nat) (objects : List (Origin × Profile)) (r : Registry) :
    Prop where
  /-- The identities are those of the objects. -/
  nextId_eq : r.nextId = objects.length
  /-- No two objects have the same origin. -/
  distinct : (objects.map (·.1)).Nodup
  /-- What was registered was one of the profiles so far. -/
  place_lt : ∀ place, .registered place ∈ objects.map (·.1) → place < count
  /-- What was resolved was so after some of the registrations so far. -/
  count_le : ∀ declared n, .resolved declared n ∈ objects.map (·.1) → n ≤ count
  /-- What is found under a name was registered. -/
  byName : ∀ name s, r.byName.find? name = some s →
    ∃ place, s.ComesFrom objects (.registered place)
  /-- What is found under an extension was registered. -/
  byExtension : ∀ key s, r.byExtension.find? key = some s →
    ∃ place, s.ComesFrom objects (.registered place)
  /-- What is remembered was resolved since the last registration. -/
  memo : ∀ entry ∈ r.memo, entry.2.ComesFrom objects (.resolved entry.1 count)
  /-- What was resolved since the last registration is remembered. -/
  recalled : ∀ declared, .resolved declared count ∈ objects.map (·.1) →
    declared ∈ r.memo.map (·.1)

namespace Registry

/-- Before anything is registered there are no objects. -/
theorem traced_empty : Traced 0 [] {} where
  nextId_eq := rfl
  distinct := List.nodup_nil
  place_lt _ h := absurd h List.not_mem_nil
  count_le _ _ h := absurd h List.not_mem_nil
  byName _ _ h := nomatch h
  byExtension _ _ h := nomatch h
  memo _ h := absurd h List.not_mem_nil
  recalled _ h := absurd h List.not_mem_nil

namespace Traced

variable {count : Nat} {objects : List (Origin × Profile)} {r : Registry}

/-- What is in one of two tables was registered, if that holds of each table. The lookup goes
through three tables in this way. -/
theorem exists_place_of_orElse {found found' : Option Shared} {s : Shared}
    (h : ∀ t, found = some t → ∃ place, t.ComesFrom objects (.registered place))
    (h' : ∀ t, found' = some t → ∃ place, t.ComesFrom objects (.registered place))
    (hs : (found <|> found') = some s) : ∃ place, s.ComesFrom objects (.registered place) := by
  cases found with
  | none => exact h' s hs
  | some t => exact h s hs

/-- What is found under a key was registered. An object that was made by resolving is only in the
memo, and keys do not lead there. -/
theorem find? (h : r.Traced count objects) {key : String} {s : Shared}
    (hs : r.find? key = some s) : ∃ place, s.ComesFrom objects (.registered place) :=
  exists_place_of_orElse
    (fun _ => exists_place_of_orElse (h.byName key) (h.byName (lowercaseName key)))
    (h.byExtension (extensionKey key)) hs

/-- A registered profile is a new object from a new place. The place is the number of registrations
so far, so no earlier object has it. With the count one higher, nothing in the emptied memo has to
be said. -/
theorem register (h : r.Traced count objects) (p : Profile) :
    (r.register p).Traced (count + 1) (objects ++ [(.registered count, p)]) where
  nextId_eq := by
    rw [List.length_append, ← h.nextId_eq]
    rfl
  distinct := nodup_origins_concat p h.distinct fun hmem =>
    absurd (h.place_lt count hmem) (Nat.lt_irrefl count)
  place_lt place hmem := by
    rcases mem_origins_concat.mp hmem with hmem | heq
    · exact Nat.lt_succ_of_lt (h.place_lt place hmem)
    · obtain rfl := Origin.registered.inj heq
      exact Nat.lt_succ_self place
  count_le declared n hmem := by
    rcases mem_origins_concat.mp hmem with hmem | heq
    · exact Nat.le_succ_of_le (h.count_le declared n hmem)
    · cases heq
  byName name s hs := by
    have hinsert : (r.byName.insert p.name ⟨r.nextId, p⟩).find? name = some s := hs
    rw [Table.find?_insert, h.nextId_eq] at hinsert
    split at hinsert
    · obtain rfl := Option.some.inj hinsert
      exact ⟨count, .new objects _ p⟩
    · obtain ⟨place, hplace⟩ := h.byName name s hinsert
      exact ⟨place, hplace.mono (List.prefix_append _ _)⟩
  byExtension key s hs := by
    have hinsert : (p.extensionKeys.foldl
      (fun t key => t.insert key ⟨r.nextId, p⟩) r.byExtension).find? key = some s := hs
    rw [Table.find?_foldl_insert, h.nextId_eq] at hinsert
    split at hinsert
    · obtain rfl := Option.some.inj hinsert
      exact ⟨count, .new objects _ p⟩
    · obtain ⟨place, hplace⟩ := h.byExtension key s hinsert
      exact ⟨place, hplace.mono (List.prefix_append _ _)⟩
  memo _ hentry := absurd hentry List.not_mem_nil
  recalled declared hmem := by
    -- nothing has been resolved since this registration
    rcases mem_origins_concat.mp hmem with hmem | heq
    · exact absurd (h.count_le declared _ hmem) (Nat.not_succ_le_self count)
    · cases heq

/-- A resolved profile that is not remembered is a new object from a new origin. If one had been
resolved from the same object after as many registrations, it would be remembered. -/
theorem remember (h : r.Traced count objects) {id : Nat} (hnew : id ∉ r.memo.map (·.1))
    (resolved : Profile) :
    Traced count (objects ++ [(.resolved id count, resolved)])
      { r with memo := (id, ⟨r.nextId, resolved⟩) :: r.memo, nextId := r.nextId + 1 } where
  nextId_eq := by
    rw [List.length_append, ← h.nextId_eq]
    rfl
  distinct := nodup_origins_concat resolved h.distinct fun hmem => hnew (h.recalled id hmem)
  place_lt place hmem := by
    rcases mem_origins_concat.mp hmem with hmem | heq
    · exact h.place_lt place hmem
    · cases heq
  count_le declared n hmem := by
    rcases mem_origins_concat.mp hmem with hmem | heq
    · exact h.count_le declared n hmem
    · obtain ⟨-, rfl⟩ := Origin.resolved.inj heq
      exact Nat.le_refl n
  byName name s hs := by
    obtain ⟨place, hplace⟩ := h.byName name s hs
    exact ⟨place, hplace.mono (List.prefix_append _ _)⟩
  byExtension key s hs := by
    obtain ⟨place, hplace⟩ := h.byExtension key s hs
    exact ⟨place, hplace.mono (List.prefix_append _ _)⟩
  memo entry hentry := by
    rcases List.mem_cons.mp hentry with rfl | hentry
    · rw [h.nextId_eq]
      exact .new objects _ resolved
    · exact (h.memo entry hentry).mono (List.prefix_append _ _)
  recalled declared hmem := by
    rw [List.map_cons, List.mem_cons]
    rcases mem_origins_concat.mp hmem with hmem | heq
    · exact .inr (h.recalled declared hmem)
    · exact .inl (Origin.resolved.inj heq).1

/-- Resolving a registered object answers with the object of the answer's origin, which is the
registered one if it extends nothing. Otherwise it is the one that is remembered since the last
registration, or one that is made now. Both have the same origin. -/
theorem resolveShared (h : r.Traced count objects) {entry : Shared} {place : Nat}
    (hentry : entry.ComesFrom objects (.registered place)) :
    ∃ objects', objects <+: objects' ∧ (r.resolveShared entry).2.Traced count objects' ∧
      ∀ s, (r.resolveShared entry).1 = .ok s →
        s.ComesFrom objects' (entry.answerOrigin place count) ∧
        (entry.profile.parent = none → s = entry) := by
  rw [Registry.resolveShared, Shared.answerOrigin]
  split
  · refine ⟨objects, List.prefix_rfl, h, fun s hs => ?_⟩
    obtain rfl := Except.ok.inj hs
    exact ⟨hentry, fun _ => rfl⟩
  · rename_i hparent
    have hsome : entry.profile.parent ≠ none := fun hnone =>
      hparent (Option.isNone_iff_eq_none.mpr hnone)
    split
    · -- what is remembered was resolved from this object since the last registration
      rename_i known hknown
      refine ⟨objects, List.prefix_rfl, h, fun s hs => ⟨?_, fun hnone => absurd hnone hsome⟩⟩
      obtain rfl := Except.ok.inj hs
      have hkey : known.1 = entry.id := by simpa using List.find?_some hknown
      rw [← hkey]
      exact h.memo known (List.mem_of_find?_eq_some hknown)
    · rename_i hunknown
      split
      · refine ⟨objects, List.prefix_rfl, h, fun s hs => ?_⟩
        cases hs
      · rename_i resolved hresolved
        have hnew : entry.id ∉ r.memo.map (·.1) := by
          intro hmem
          obtain ⟨known, hknown, hid⟩ := List.mem_map.mp hmem
          exact absurd (List.find?_eq_none.mp hunknown known hknown) (by simp [hid])
        refine ⟨_, List.prefix_append _ _, h.remember hnew resolved, fun s hs =>
          ⟨?_, fun hnone => absurd hnone hsome⟩⟩
        obtain rfl := Except.ok.inj hs
        rw [h.nextId_eq]
        exact .new objects _ resolved

end Traced

/-! ### Lookups in a run -/

/-- The registered object that a lookup reaches, before it is resolved. -/
def reached? (r : Registry) : Action → Option Shared
  | .register _ => none
  | .resolve key => r.find? key
  | .resolvePath path => do
    let key ← (pathExtension? path).map extensionKey
    if (r.byExtension.find? key).isSome then r.find? key else none

/-- The object that a lookup answers with, if it succeeds. -/
def answer? (r : Registry) : Action → Option Shared
  | .register _ => none
  | .resolve key => (r.resolve key).1.toOption
  | .resolvePath path => (r.resolvePath path).1.toOption

/-- Resolving a path reaches nothing and changes nothing, or it resolves a key. With this, paths
need no treatment of their own below. -/
theorem resolvePath_cases (r : Registry) (path : String) :
    (r.resolvePath path = (.error (.unknownLanguage path), r)) ∨
    ∃ key, r.resolvePath path = r.resolve key ∧
      r.reached? (.resolvePath path) = r.find? key := by
  simp only [Registry.resolvePath, reached?]
  cases (pathExtension? path).map extensionKey with
  | none => exact .inl rfl
  | some key =>
    by_cases hclaimed : (r.byExtension.find? key).isSome = true
    · exact .inr ⟨key, if_pos hclaimed, if_pos hclaimed⟩
    · exact .inl (if_neg hclaimed)

/-- An action registers a profile, or it is a lookup that has no answer and changes nothing, or one
that resolves the object that it reaches. The invariants are shown for these three cases and not for
each action. -/
theorem act_cases (r : Registry) (action : Action) :
    (∃ p, action = .register p) ∨
    (registered [action] = [] ∧ r.act action = r ∧ r.answer? action = none) ∨
    (∃ entry key, registered [action] = [] ∧ r.reached? action = some entry ∧
      r.find? key = some entry ∧ r.act action = (r.resolveShared entry).2 ∧
      r.answer? action = (r.resolveShared entry).1.toOption) := by
  -- a lookup by key finds nothing, or goes on with what it finds
  have hresolve : ∀ key, (r.resolve key = (.error (.unknownLanguage key), r)) ∨
      ∃ entry, r.find? key = some entry ∧ r.resolve key = r.resolveShared entry := by
    intro key
    unfold Registry.resolve
    cases r.find? key with
    | none => exact .inl rfl
    | some entry => exact .inr ⟨entry, rfl, rfl⟩
  cases action with
  | register p => exact .inl ⟨p, rfl⟩
  | resolve key =>
    right
    simp only [act, answer?]
    obtain heq | ⟨entry, hfind, heq⟩ := hresolve key
    · rw [heq]
      exact .inl ⟨rfl, rfl, rfl⟩
    · rw [heq]
      exact .inr ⟨entry, key, rfl, hfind, hfind, rfl, rfl⟩
  | resolvePath path =>
    right
    simp only [act, answer?]
    obtain heq | ⟨key, hpath, hreached⟩ := r.resolvePath_cases path
    · rw [heq]
      exact .inl ⟨rfl, rfl, rfl⟩
    · obtain heq | ⟨entry, hfind, heq⟩ := hresolve key
      · rw [hpath, heq]
        exact .inl ⟨rfl, rfl, rfl⟩
      · rw [hpath, heq]
        exact .inr ⟨entry, key, rfl, hreached.trans hfind, hfind, rfl, rfl⟩

namespace Traced

variable {count : Nat} {objects : List (Origin × Profile)} {r : Registry}

/-- An action adds objects and counts what it registers. Objects are never taken away, so an origin
that was given once stays given. -/
theorem act (h : r.Traced count objects) (action : Action) :
    ∃ objects', objects <+: objects' ∧
      (r.act action).Traced (count + (registered [action]).length) objects' := by
  obtain ⟨p, rfl⟩ | ⟨hregistered, hact, -⟩ | ⟨entry, key, hregistered, -, hkey, hact, -⟩ :=
    r.act_cases action
  · exact ⟨_, List.prefix_append _ _, h.register p⟩
  · rw [hregistered, hact]
    exact ⟨objects, List.prefix_rfl, h⟩
  · obtain ⟨place, hplace⟩ := h.find? hkey
    obtain ⟨objects', hmore, h', -⟩ := h.resolveShared hplace
    rw [hregistered, hact]
    exact ⟨objects', hmore, h'⟩

/-- Actions add objects and count what they register. The induction is on the actions, for any
registry that is traced. -/
theorem foldl_act (h : r.Traced count objects) (actions : List Action) :
    ∃ objects', objects <+: objects' ∧
      (actions.foldl Registry.act r).Traced (count + (registered actions).length) objects' := by
  induction actions generalizing r count objects with
  | nil => exact ⟨objects, List.prefix_rfl, h⟩
  | cons action rest ih =>
    obtain ⟨objects', hmore, h'⟩ := h.act action
    obtain ⟨objects'', hmore', h''⟩ := ih h'
    have hlength : (registered (action :: rest)).length =
        (registered [action]).length + (registered rest).length := by
      rw [← List.length_append, registered, registered, registered, ← List.filterMap_append]
      rfl
    rw [hlength, ← Nat.add_assoc]
    exact ⟨objects'', hmore.trans hmore', h''⟩

/-- A lookup that answers reached a registered object, and answers with the object of the answer's
origin. The objects after the lookup include the answer, whether it was made by this lookup or
before. -/
theorem answer? (h : r.Traced count objects) {action : Action} {a : Shared}
    (ha : r.answer? action = some a) :
    ∃ entry place objects', r.reached? action = some entry ∧ objects <+: objects' ∧
      (r.act action).Traced count objects' ∧
      entry.ComesFrom objects' (.registered place) ∧
      a.ComesFrom objects' (entry.answerOrigin place count) ∧
      (entry.profile.parent = none → a = entry) := by
  obtain ⟨p, rfl⟩ | ⟨-, -, hnone⟩ | ⟨entry, key, -, hreached, hkey, hact, hanswer⟩ :=
    r.act_cases action
  · cases ha
  · cases hnone.symm.trans ha
  · obtain ⟨place, hplace⟩ := h.find? hkey
    obtain ⟨objects', hmore, h', hok⟩ := h.resolveShared hplace
    have hresolved : (r.resolveShared entry).1 = .ok a := by
      rw [hanswer] at ha
      cases houtcome : (r.resolveShared entry).1 with
      | error e => rw [houtcome] at ha; cases ha
      | ok s => rw [houtcome] at ha; cases ha; rfl
    obtain ⟨horigin, hroot⟩ := hok a hresolved
    exact ⟨entry, place, objects', hreached, hmore, hact ▸ h', hplace.mono hmore, horigin, hroot⟩

end Traced

/-- After any run of actions, the objects of the registry come from different origins. At the start
there are none, and the actions keep this. -/
theorem exists_traced (actions : List Action) :
    ∃ objects, (after actions).Traced (registered actions).length objects := by
  obtain ⟨objects, -, h⟩ := traced_empty.foldl_act actions
  rw [Nat.zero_add] at h
  exact ⟨objects, h⟩

/-- The origins of two answers are the same just if they come from the same registered object, and
it extends nothing or both were resolved after the same registrations. An origin of the one kind is
never one of the other kind: whether an object extends something does not change. -/
theorem answerOrigin_eq_iff {d e : Shared} {place place' count count' : Nat}
    (hid : d.id = e.id ↔ place = place') (heq : d.id = e.id → d = e) :
    d.answerOrigin place count = e.answerOrigin place' count' ↔
      d.id = e.id ∧ (d.profile.parent = none ∨ count = count') := by
  unfold Shared.answerOrigin
  by_cases h : d.id = e.id
  · obtain rfl := heq h
    cases d.profile.parent with
    | none => simp [hid.mp rfl]
    | some name => simp
  · have hplace : place ≠ place' := mt hid.mpr h
    cases d.profile.parent <;> cases e.profile.parent <;> simp [h, hplace]

/-- Two lookups in a run answer with the identical object just if they reached the same
registered object, and it extends nothing or nothing was registered between the two. What
extends nothing is its own answer, and the identity of an object says what it is. -/
theorem answers_identical_iff (before between : List Action) (first second : Action)
    (a b : Shared) (ha : (after before).answer? first = some a)
    (hb : (after (before ++ first :: between)).answer? second = some b) :
    ∃ d e, (after before).reached? first = some d ∧
      (after (before ++ first :: between)).reached? second = some e ∧
      (a.id = b.id ↔
        d.id = e.id ∧ (d.profile.parent = none ∨ registered between = [])) ∧
      (d.profile.parent = none → a = d) ∧ (e.profile.parent = none → b = e) ∧
      (a.id = b.id → a = b) ∧ (d.id = e.id → d = e) := by
  obtain ⟨objects, h⟩ := exists_traced before
  obtain ⟨d, place, objects₁, hd, -, h₁, hdplace, haorigin, hroot⟩ := h.answer? ha
  obtain ⟨objects₂, hmore₂, h₂⟩ := h₁.foldl_act between
  have hrun : between.foldl act ((after before).act first) =
      after (before ++ first :: between) := by
    rw [after, after, List.foldl_append]
    rfl
  rw [hrun] at h₂
  obtain ⟨e, place', objects₃, he, hmore₃, h₃, heplace, hborigin, hroot'⟩ := h₂.answer? hb
  -- both answers and what they come from are among the objects after the second lookup
  have hmore : objects₁ <+: objects₃ := hmore₂.trans hmore₃
  have hsame := (hdplace.mono hmore).eq_of_id_eq heplace
  have hid : d.id = e.id ↔ place = place' :=
    ((hdplace.mono hmore).id_eq_iff heplace h₃.distinct).trans (by rw [Origin.registered.injEq])
  refine ⟨d, e, hd, he, ?_, hroot, hroot',
    fun h => ((haorigin.mono hmore).eq_of_id_eq hborigin h).1, fun h => (hsame h).1⟩
  rw [(haorigin.mono hmore).id_eq_iff hborigin h₃.distinct,
    answerOrigin_eq_iff hid fun h => (hsame h).1]
  -- the numbers of registrations are equal just if none came between
  rw [Nat.left_eq_add, List.length_eq_zero_iff]

/-- A language and another one that extends it. -/
def baseAndChild : List Action :=
  [.register { name := "base" },
    .register { name := "child", fileExtensions := [".c"], parent := some "base" }]

/-- The child is one object by its name and by a path, and another one when something
has been registered. -/
theorem answers_identical_iff_child :
    ∃ a b c, (after baseAndChild).answer? (.resolve "child") = some a ∧
      (after (baseAndChild ++ [.resolve "child"])).answer? (.resolvePath "a.c") = some b ∧
      (after (baseAndChild ++ [.resolve "child", .register { name := "other" }])).answer?
        (.resolve "child") = some c ∧
      a.id = b.id ∧ a.id ≠ c.id := by
  refine ⟨_, _, _, rfl, rfl, rfl, ?_, ?_⟩
  · obtain ⟨d, e, hd, he, hiff, -⟩ :=
      answers_identical_iff baseAndChild [] (.resolve "child") (.resolvePath "a.c") _ _ rfl rfl
    cases hd
    cases he
    exact hiff.mpr ⟨rfl, .inr rfl⟩
  · obtain ⟨d, e, hd, he, hiff, -⟩ :=
      answers_identical_iff baseAndChild [.register { name := "other" }] (.resolve "child")
        (.resolve "child") _ _ rfl rfl
    cases hd
    intro h
    obtain ⟨-, hparent | hbetween⟩ := hiff.mp h
    · cases hparent
    · cases hbetween

end Registry

end Polyglot
