import Polyglot.Proofs.Profile.Ancestry
import Polyglot.Proofs.Profile.Inheritance
import Polyglot.Proofs.Registry.History

/-!
# `Polyglot.Proofs.Registry.Cycles`: which loops of parents are caught

Resolving a key is meant to walk along the parents without coming to a registered object twice,
and to answer a loop with the names that lead round it (`Registry.CatchesCycles`). A loop is
noticed by the name of a parent, which is compared with the names on the way as it is given; the
parent is then looked up exactly, or else in lower case. So a loop goes unnoticed where it is
closed by a name in a spelling that no profile has: the walk comes to an object for the second
time (`Registry.LoopsBySpelling`).

`Registry.catchesCycles_iff` says that this is the only way to miss a loop, and that resolution
has no end just if the walk has none. After an unnoticed loop the walk may still meet a name that
is spelled right, one round too late (`resolve_visits_twice`), or go on for ever
(`catchesCycles_iff_mutual`).
-/

set_option autoImplicit false

namespace Polyglot

/-! ### Objects and their names -/

/-- What is found in a history is one of its profiles. -/
theorem History.mem_of_find? {history : History} {key : String} {p : Profile}
    (h : history.find? key = some p) : p ∈ history := by
  have hmem : ∀ test : Profile → Bool, history.reverse.find? test = some p → p ∈ history :=
    fun test htest => List.mem_reverse.mp (List.mem_of_find?_eq_some htest)
  simp only [History.find?, History.findName?, Option.orElse_eq_orElse, Option.orElse_eq_or,
    Option.or_eq_some_iff] at h
  rcases h with (hexact | ⟨-, hlower⟩) | ⟨-, hclaims⟩
  · exact hmem _ hexact
  · exact hmem _ hlower
  · exact hmem _ hclaims

/-- Among all objects, the identity of an object says which one it is. So two objects on a walk can
be told apart by their identities alone, as the cycle check would have to do it. -/
theorem Shared.Holds.eq_of_id_eq {objects : List Profile} {s t : Shared}
    (hs : s.Holds objects s.profile) (ht : t.Holds objects t.profile) (hid : s.id = t.id) :
    s = t := by
  have hlookup := hs.1
  rw [hid, ht.1] at hlookup
  exact Shared.eq_of_id_eq_of_profile_eq hid (Option.some.inj hlookup).symm

namespace Registry

/-- An object is found under a name if it has that name, or if it has the name in lower case and
none has the name itself. The second case is the one that a check of spelled names does not see. -/
theorem findName?_eq_some_iff {r : Registry} {name : String} {s : Shared} :
    r.findName? name = some s ↔ r.byName.find? name = some s ∨
      (r.byName.find? name = none ∧ r.byName.find? (lowercaseName name) = some s) := by
  rw [findName?, Option.orElse_eq_orElse, Option.orElse_eq_or, Option.or_eq_some_iff]

/-- The objects of a registry and how it looks up parents. -/
def family (r : Registry) : Family Shared := ⟨Shared.profile, r.findName?⟩

/-- A registry finds parents among the objects that have a name in it. So a walk along parents
without repetition ends after as many steps as there are names. -/
theorem findsAmong_family (r : Registry) : r.family.FindsAmong r.size := by
  refine ⟨r.byName.entries.map (·.2), (List.length_map _).le, ?_⟩
  intro name entry hfind
  obtain ⟨key, hkey⟩ := Profile.exists_key_of_findName? hfind
  exact List.mem_map.mpr ⟨(key, entry), Table.find?_eq_some_iff.mp hkey, rfl⟩

namespace Consistent

variable {history : History} {objects : List Profile} {r : Registry}

/-- An object has the name under which it is found. For a name in another spelling this is the
lower-case form, and not the name that was asked for. -/
theorem name_eq (h : r.Consistent history objects) {name : String} {s : Shared}
    (hs : r.byName.find? name = some s) : s.profile.name = name := by
  have hfound := (h.byName name).map_profile
  rw [hs] at hfound
  simpa using List.find?_some hfound.symm

/-- An object that is found exactly under a name is there. -/
theorem holds_of_byName (h : r.Consistent history objects) {name : String} {s : Shared}
    (hs : r.byName.find? name = some s) : s.Holds objects s.profile := by
  have hfound := h.byName name
  rw [hs] at hfound
  generalize history.named? name = sought at hfound
  cases hfound with
  | some hholds => exact hholds.2 ▸ hholds

/-- Each object on the way from a key is there, and its name is registered. The object at the start
may have lost its name to a later one, which then is registered under it. -/
theorem holds_of_ancestor? (h : r.Consistent history objects) {key : String} {entry a : Shared}
    {n : Nat} (hentry : r.find? key = some entry)
    (ha : r.family.ancestor? entry n = some a) :
    a.Holds objects a.profile ∧ r.byName.find? a.profile.name ≠ none := by
  cases n with
  | zero =>
    -- the object itself may have lost its name, to a later one
    cases ha
    have hfound := h.find? key
    rw [hentry] at hfound
    generalize hsought : history.find? key = sought at hfound
    cases hfound with
    | some hholds =>
      refine ⟨hholds.2 ▸ hholds, ?_⟩
      have hname : (history.named? entry.profile.name).isSome := by
        rw [History.isSome_named?_iff, hholds.2]
        exact List.mem_map_of_mem (History.mem_of_find? hsought)
      rw [← (h.byName _).map_profile, Option.isSome_map] at hname
      exact Option.isSome_iff_ne_none.mp hname
  | succ n =>
    obtain ⟨b, -, hparent⟩ := Option.bind_eq_some_iff.mp ha
    obtain ⟨name, -, hfind⟩ := Option.bind_eq_some_iff.mp hparent
    obtain ⟨key', hkey⟩ := Profile.exists_key_of_findName? hfind
    refine ⟨h.holds_of_byName hkey, ?_⟩
    rw [h.name_eq hkey, hkey]
    exact Option.some_ne_none a

/-- Resolving a key fails just as resolving the profile that is found does. So the answers of the
registry on cycles are those of the walk, which knows nothing of objects and memos. -/
theorem resolve_eq_error_iff (h : r.Consistent history objects) {key : String} {entry : Shared}
    {e : Error} (hentry : r.find? key = some entry) :
    (r.resolve key).1 = .error e ↔ r.inherited entry.profile = .error e := by
  obtain ⟨objects', -, -, hagree⟩ := h.resolve key
  have hprofile : history.profile key = r.inherited entry.profile := by
    -- the history and the registry look the key up alike
    have hfound := (h.find? key).map_profile
    rw [hentry] at hfound
    rw [History.profile, ← hfound, h.inherited_eq]
    rfl
  rw [hprofile] at hagree
  generalize (r.resolve key).1 = outcome at hagree
  generalize r.inherited entry.profile = reference at hagree
  cases hagree with
  | error e' => rw [Except.error.injEq, Except.error.injEq]
  | ok hholds => exact ⟨(nomatch ·), (nomatch ·)⟩

end Consistent

/-! ### Loops -/

/-- Resolving a key walks along the parents and catches each loop. -/
structure CatchesCycles (r : Registry) (key : String) : Prop where
  /-- The walk does not come to an object twice. -/
  visits_once : ∀ entry a b i j, r.find? key = some entry → i < j →
    r.family.Reaches entry j → r.family.ancestor? entry i = some a →
    r.family.ancestor? entry j = some b → a.id ≠ b.id
  /-- The walk takes no more steps than there are profiles. -/
  steps_le : ∀ entry n, r.find? key = some entry → r.family.Reaches entry n → n ≤ r.size
  /-- If the parents have no end, the answer names those that lead to one of them again. -/
  caught : ∀ entry, r.find? key = some entry →
    (∀ n, ∃ a, r.family.ancestor? entry n = some a) →
    ∃ n name, r.family.Reaches entry n ∧ name ∈ r.family.names entry (n + 1) ∧
      (r.resolve key).1 = .error (.config entry.profile.name
        (.extendsCycle (r.family.names entry (n + 1)) name))

/-- The walk from a key comes to an object whose parent is given in a spelling that no profile
has, and is found in lower case among the objects on the way. -/
def LoopsBySpelling (r : Registry) (key : String) : Prop :=
  ∃ entry n a name i b, r.find? key = some entry ∧ r.family.Reaches entry n ∧
    r.family.ancestor? entry n = some a ∧ a.profile.parent = some name ∧
    r.byName.find? name = none ∧ r.byName.find? (lowercaseName name) = some b ∧
    i ≤ n ∧ r.family.ancestor? entry i = some b

namespace Consistent

variable {history : History} {objects : List Profile} {r : Registry} {key : String}

/-- A loop that is closed by another spelling is not noticed, and an object is visited twice. The
name that is given is none of the names on the way, as those are registered and this one is not. So
the check lets it pass, and the lookup leads back to an object on the way. -/
theorem not_catchesCycles (h : r.Consistent history objects) (hloops : r.LoopsBySpelling key) :
    ¬ r.CatchesCycles key := by
  obtain ⟨entry, n, a, name, i, b, hentry, hreach, ha, hparent, hexact, hlower, hi, hb⟩ := hloops
  intro hcatches
  have hfind : r.family.find? name = some b := findName?_eq_some_iff.mpr (.inr ⟨hexact, hlower⟩)
  -- the names on the way are registered, and the one that is given is not
  have hnew : name ∉ r.family.names entry (n + 1) := by
    intro hmem
    obtain ⟨m, c, -, hc, hname⟩ := Family.mem_names_iff.mp hmem
    refine (h.holds_of_ancestor? hentry hc).2 ?_
    rw [show c.profile.name = name from hname]
    exact hexact
  have hpasses : r.family.Passes entry n := ⟨a, name, b, ha, hparent, hnew, hfind⟩
  have hnext : r.family.ancestor? entry (n + 1) = some b :=
    (Family.ancestor?_succ ha hparent).trans hfind
  exact hcatches.visits_once entry b b i (n + 1) hentry (Nat.lt_succ_of_le hi)
    (hreach.succ hpasses) hb hnext rfl

/-- Where every loop is closed by a name as it is registered, no object is visited twice. At the
first repetition the parent would be found exactly or in lower case. If exactly, its name is on the
way and the check stops there; if in lower case, the loop is closed by another spelling. -/
theorem visits_once (h : r.Consistent history objects) (hloops : ¬ r.LoopsBySpelling key)
    {entry a b : Shared} {i j : Nat} (hentry : r.find? key = some entry) (hlt : i < j)
    (hreach : r.family.Reaches entry j) (ha : r.family.ancestor? entry i = some a)
    (hb : r.family.ancestor? entry j = some b) : a.id ≠ b.id := by
  intro hid
  obtain rfl : a = b :=
    (h.holds_of_ancestor? hentry ha).1.eq_of_id_eq (h.holds_of_ancestor? hentry hb).1 hid
  obtain ⟨n, rfl⟩ : ∃ n, j = n + 1 := ⟨j - 1, by omega⟩
  obtain ⟨c, name, d, hc, hparent, hnew, hfind⟩ := hreach n (Nat.lt_succ_self n)
  obtain rfl : d = a := by
    rw [Family.ancestor?_succ hc hparent, hfind] at hb
    exact Option.some.inj hb
  rcases findName?_eq_some_iff.mp hfind with hexact | ⟨hexact, hlower⟩
  · -- the parent has the very name that is given, which then is on the way
    exact hnew (Family.mem_names_iff.mpr ⟨i, d, hlt, ha, h.name_eq hexact⟩)
  · exact hloops ⟨entry, n, c, name, i, d, hentry, fun m hm => hreach m (Nat.lt_succ_of_lt hm),
      hc, hparent, hexact, hlower, Nat.lt_succ_iff.mp hlt, ha⟩

/-- Where every loop is closed by a name as it is registered, each of them is caught. A walk that
goes on for more steps than there are names repeats an object, and it does not come to one twice. So
it stops before, and a chain without an end can only stop at the check. -/
theorem catchesCycles (h : r.Consistent history objects) (hloops : ¬ r.LoopsBySpelling key) :
    r.CatchesCycles key := by
  have hsteps : ∀ entry n, r.find? key = some entry → r.family.Reaches entry n → n ≤ r.size := by
    intro entry n hentry hreach
    by_contra hlt
    obtain ⟨i, j, hij, hj, hsame⟩ := Family.exists_repeat r.findsAmong_family fun m hm =>
      Family.Reaches.exists_ancestor fun k hk => hreach k (by omega)
    have hreach' : r.family.Reaches entry j := fun k hk => hreach k (by omega)
    obtain ⟨b, hb⟩ := hreach'.exists_ancestor
    exact h.visits_once hloops hentry hij hreach' (hsame.trans hb) hb rfl
  refine ⟨fun entry a b i j hentry => h.visits_once hloops hentry, hsteps, ?_⟩
  intro entry hentry hendless
  -- the walk stops somewhere, and all that can stop it is a name on the way
  obtain ⟨n, hreach, hstops⟩ := Family.exists_stop fun n => hsteps entry n hentry
  obtain ⟨a, ha⟩ := hendless n
  obtain ⟨b, hb⟩ := hendless (n + 1)
  rw [Family.ancestor?, ha, Option.bind_some] at hb
  obtain ⟨name, hparent, hfind⟩ := Option.bind_eq_some_iff.mp hb
  have hseen : name ∈ r.family.names entry (n + 1) := by
    by_contra hnew
    exact hstops ⟨a, name, b, ha, hparent, hnew, hfind⟩
  have hn : n ≤ 2 * r.size + 2 := by
    have hle := hsteps entry n hentry hreach
    omega
  refine ⟨n, name, hreach, hseen, (h.resolve_eq_error_iff hentry).mpr ?_⟩
  exact Family.resolve_eq_cycle hn hreach ha hparent hseen

end Consistent

/-- After any run of actions, resolving a key catches the loops of its parents just if none of
them is closed by a name in a spelling that no profile has, and it has no end just if the walk
along the parents has none. -/
theorem catchesCycles_iff (actions : List Action) (key : String) :
    ((after actions).CatchesCycles key ↔ ¬ (after actions).LoopsBySpelling key) ∧
    ∀ entry, (after actions).find? key = some entry →
      (((after actions).resolve key).1 =
          .error (.config entry.profile.name .endlessChain) ↔
        ∀ n, (after actions).family.Passes entry n) := by
  obtain ⟨objects, h⟩ := exists_consistent actions
  refine ⟨⟨fun hcatches hloops => h.not_catchesCycles hloops hcatches, h.catchesCycles⟩, ?_⟩
  intro entry hentry
  rw [h.resolve_eq_error_iff hentry]
  exact Family.resolve_eq_endless_iff (after actions).findsAmong_family

/-- Two languages that extend each other, each naming the other in capitals. -/
def mutualInCapitals : List Action :=
  [.register { name := "a", parent := some "B" }, .register { name := "b", parent := some "A" }]

/-- The walk along the parents of two languages that extend each other goes on for ever, if each
names the other in capitals. -/
theorem catchesCycles_iff_mutual :
    ((after mutualInCapitals).resolve "a").1 = .error (.config "a" .endlessChain) ∧
      ∀ n, (after mutualInCapitals).family.Passes ⟨0, { name := "a", parent := some "B" }⟩ n :=
  ⟨rfl, ((catchesCycles_iff mutualInCapitals "a").2 _ rfl).mp rfl⟩

/-- Two languages that extend each other, the second naming the first in capitals. -/
def mutualHalfInCapitals : List Action :=
  [.register { name := "b", parent := some "a" }, .register { name := "a", parent := some "B" }]

/-- The walk along the parents of two languages that extend each other comes back to the first
one, if the second names it in capitals. -/
theorem resolve_visits_twice :
    ((after mutualHalfInCapitals).resolve "b").1 =
        .error (.config "b" (.extendsCycle ["b", "a", "b"] "a")) ∧
      ¬ (after mutualHalfInCapitals).CatchesCycles "b" := by
  refine ⟨rfl, fun h => ?_⟩
  refine h.visits_once ⟨0, { name := "b", parent := some "a" }⟩ _ _ 0 2 rfl (by decide) ?_ rfl rfl
    rfl
  intro i hi
  match i, hi with
  | 0, _ => exact ⟨_, "a", ⟨1, { name := "a", parent := some "B" }⟩, rfl, rfl, by decide, rfl⟩
  | 1, _ => exact ⟨_, "B", ⟨0, { name := "b", parent := some "a" }⟩, rfl, rfl, by decide, rfl⟩

end Registry

end Polyglot
