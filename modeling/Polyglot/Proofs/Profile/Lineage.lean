import Polyglot.Proofs.Profile.Ancestry
import Polyglot.Proofs.Profile.Resolution
import Polyglot.Registry

/-!
# `Polyglot.Proofs.Profile.Lineage`: parents that are looked up by their exact names

`Shared.resolve_declared`: among the objects of a list, the first one with a name is resolved just
if the parents lead to a profile that extends nothing, all of them being in the list and no two
having the same name. If they lead to a name that is not in the list, the error is that of the
profile that extends it; if they lead back to a name that was met before, it is that of the first
profile, and it lists the names. There is no third way to fail, and no way to go on for ever.

Where objects are found under no other name than their own (`Family.Exact`), the walk of
resolution goes on just as long as the parents are found and have new names
(`Family.Exact.walk_iff`). So it takes no more steps than there are objects
(`Family.Exact.reaches_le`), and it stops at one of three places: a profile that extends nothing,
a parent that is not found, or a parent whose name is on the way (`Family.Exact.stops`). A loop
need not go through the first profile.
-/

set_option autoImplicit false

namespace Polyglot

namespace Family

variable {α : Type}

/-! ### Exact names -/

/-- Objects are found under no other name than their own. -/
def Exact (F : Family α) : Prop := ∀ name a, F.find? name = some a → (F.profile a).name = name

/-- The parents lead from an object to another one, and no two objects on the way have the same
name. -/
structure Walk (F : Family α) (start : α) (n : Nat) (a : α) : Prop where
  /-- The other object is reached after `n` steps. -/
  leads : F.ancestor? start n = some a
  /-- The names of the objects on the way, the last one included. -/
  distinct : (F.names start (n + 1)).Nodup

/-- Why the parents lead to no profile that extends nothing. -/
inductive Fails (F : Family α) (start : α) : Error → Prop where
  /-- A parent is not found. This is the fault of the profile that extends it. -/
  | undeclared {n : Nat} {a : α} {name : String} (walk : F.Walk start n a)
      (parent : (F.profile a).parent = some name) (missing : F.find? name = none) :
      Fails F start (.config (F.profile a).name (.unknownParent name))
  /-- A parent is on the way. This is the fault of the first profile, and the names on the way
  are told. -/
  | cycle {n : Nat} {a : α} {name : String} (walk : F.Walk start n a)
      (parent : (F.profile a).parent = some name) (seen : name ∈ F.names start (n + 1)) :
      Fails F start
        (.config (F.profile start).name (.extendsCycle (F.names start (n + 1)) name))

/-- The parents lead to a profile that extends nothing. -/
def EndsAtRoot (F : Family α) (start : α) : Prop :=
  ∃ n a, F.Walk start n a ∧ (F.profile a).parent = none

variable {F : Family α} {start : α} {count n : Nat} {a : α}

namespace Exact

/-- The walk of resolution comes just to where the parents lead with new names. The one asks at each
step whether the name of the parent is on the way; the other one says of all names at the end that
they are different. Objects are found under their own names, so these are the same. -/
theorem walk_iff (hexact : F.Exact) :
    F.Walk start n a ↔ F.Reaches start n ∧ F.ancestor? start n = some a := by
  induction n generalizing a with
  | zero =>
    constructor
    · intro h
      exact ⟨fun _ hi => (nomatch hi), h.leads⟩
    · intro h
      refine ⟨h.2, ?_⟩
      rw [names_succ h.2]
      exact List.nodup_singleton _
  | succ n ih =>
    constructor
    · intro h
      obtain ⟨b, hb, hparent⟩ := Option.bind_eq_some_iff.mp h.leads
      obtain ⟨name, hname, hfind⟩ := Option.bind_eq_some_iff.mp hparent
      have hdistinct := h.distinct
      rw [names_succ h.leads, List.nodup_append, hexact name a hfind] at hdistinct
      obtain ⟨hbefore, -, hnew⟩ := hdistinct
      have hpasses : F.Passes start n :=
        ⟨b, name, a, hb, hname, fun hmem => hnew _ hmem _ List.mem_cons_self rfl, hfind⟩
      exact ⟨(ih.mp ⟨hb, hbefore⟩).1.succ hpasses, h.leads⟩
    · rintro ⟨hreach, ha⟩
      obtain ⟨b, name, a', hb, hparent, hnew, hfind⟩ := hreach n (Nat.lt_succ_self n)
      rw [ancestor?_succ hb hparent, hfind, Option.some.injEq] at ha
      subst ha
      have hbefore := ih.mpr ⟨fun i hi => hreach i (Nat.lt_succ_of_lt hi), hb⟩
      have hleads := (ancestor?_succ hb hparent).trans hfind
      refine ⟨hleads, ?_⟩
      -- the new name is the one by which the parent was found
      rw [names_succ hleads, hexact name a' hfind, List.nodup_append]
      refine ⟨hbefore.distinct, List.nodup_singleton _, ?_⟩
      intro x hx y hy heq
      rw [List.mem_singleton.mp hy] at heq
      exact hnew (heq ▸ hx)

/-- The walk takes no more steps than there are objects. An object that came twice would have been
found under its name, and this name was on the way. -/
theorem reaches_le (hexact : F.Exact) (hcount : F.FindsAmong count) (h : F.Reaches start n) :
    n ≤ count := by
  by_contra hlt
  have hreach : ∀ m ≤ count + 1, F.Reaches start m := fun m hm i hi => h i (by omega)
  obtain ⟨i, j, hij, hj, hsame⟩ := exists_repeat hcount fun m hm => (hreach m hm).exists_ancestor
  obtain ⟨k, rfl⟩ : ∃ k, j = k + 1 := ⟨j - 1, by omega⟩
  -- the object that comes twice was found under its name, which then is on the way
  obtain ⟨b, name, c, hb, hparent, hnew, hfind⟩ := h k (by omega)
  rw [ancestor?_succ hb hparent, hfind] at hsame
  exact hnew (mem_names_iff.mpr ⟨i, c, hij, hsame, hexact name c hfind⟩)

/-- A name on the way is one under which an object is found. So an error for a parent that is not
found and one for a cycle exclude each other. -/
theorem find?_of_mem_names (hexact : F.Exact)
    (hstart : F.find? (F.profile start).name = some start) {name : String}
    (h : name ∈ F.names start n) : F.find? name ≠ none := by
  obtain ⟨i, b, -, hb, hname⟩ := mem_names_iff.mp h
  cases i with
  | zero =>
    cases hb
    rw [← hname, hstart]
    exact Option.some_ne_none start
  | succ i =>
    obtain ⟨c, -, hparent⟩ := Option.bind_eq_some_iff.mp hb
    obtain ⟨other, -, hfind⟩ := Option.bind_eq_some_iff.mp hparent
    rw [← hname, hexact other b hfind, hfind]
    exact Option.some_ne_none b

/-- The parents lead to a profile that extends nothing, or there is a reason why not. The walk stops
somewhere, since there are only so many objects, and the reason can be read off the place where it
does. -/
theorem stops (hexact : F.Exact) (hcount : F.FindsAmong count) (start : α) :
    F.EndsAtRoot start ∨ ∃ e, F.Fails start e := by
  obtain ⟨n, hreach, hstop⟩ := exists_stop fun n => hexact.reaches_le (n := n) hcount
  obtain ⟨a, ha⟩ := hreach.exists_ancestor
  have hwalk := hexact.walk_iff.mpr ⟨hreach, ha⟩
  cases hparent : (F.profile a).parent with
  | none => exact .inl ⟨n, a, hwalk, hparent⟩
  | some name =>
    by_cases hseen : name ∈ F.names start (n + 1)
    · exact .inr ⟨_, .cycle hwalk hparent hseen⟩
    · cases hfind : F.find? name with
      | none => exact .inr ⟨_, .undeclared hwalk hparent hfind⟩
      | some b => exact absurd ⟨a, name, b, ha, hparent, hseen, hfind⟩ hstop

/-- A bound on the steps that is no less than the number of objects makes no difference. The walk
has stopped before it comes to the bound, and from where it stops the answer does not depend on the
steps that are left. -/
theorem resolveAlong_eq (hexact : F.Exact) (hcount : F.FindsAmong count) {steps steps' : Nat}
    (hsteps : count ≤ steps) (hsteps' : count ≤ steps') :
    Profile.resolveAlong F.lookup steps [] (F.profile start) =
      Profile.resolveAlong F.lookup steps' [] (F.profile start) := by
  obtain ⟨n, hreach, hstop⟩ := exists_stop fun n => hexact.reaches_le (n := n) hcount
  obtain ⟨a, ha⟩ := hreach.exists_ancestor
  obtain ⟨under, hunder⟩ := hreach.exists_under ha
  have hn := hexact.reaches_le hcount hreach
  rw [← Nat.add_sub_cancel' (Nat.le_trans hn hsteps), hunder,
    ← Nat.add_sub_cancel' (Nat.le_trans hn hsteps'), hunder,
    resolveAlong_of_not_passes ha hstop]

end Exact

/-! ### Answers -/

/-- Where the parents lead to a profile that extends nothing, there is a resolved profile. It is the
root with all profiles on the way put over it. -/
theorem EndsAtRoot.resolve_eq_ok (h : F.EndsAtRoot start) (hexact : F.Exact)
    (hcount : F.FindsAmong count) :
    ∃ r, (F.profile start).resolve F.lookup count = .ok r := by
  obtain ⟨n, a, hwalk, hparent⟩ := h
  obtain ⟨hreach, ha⟩ := hexact.walk_iff.mp hwalk
  obtain ⟨under, hunder⟩ := hreach.exists_under ha
  have hn := hexact.reaches_le hcount hreach
  refine ⟨under (F.profile a), ?_⟩
  unfold Profile.resolve
  rw [← Nat.add_sub_cancel' (by omega : n ≤ 2 * count + 2), hunder, resolveAlong_names ha,
    hparent]
  rfl

/-- The reason why the parents lead to no profile that extends nothing is the answer. The cycle is
looked for before the parent is, so for a missing parent it has to be shown that its name is not on
the way. -/
theorem Fails.resolve_eq_error {e : Error} (h : F.Fails start e) (hexact : F.Exact)
    (hstart : F.find? (F.profile start).name = some start) (hcount : F.FindsAmong count) :
    (F.profile start).resolve F.lookup count = .error e := by
  cases h with
  | @undeclared n a name hwalk hparent hmissing =>
    obtain ⟨hreach, ha⟩ := hexact.walk_iff.mp hwalk
    have hn := hexact.reaches_le hcount hreach
    have hnew : name ∉ F.names start (n + 1) := fun hseen =>
      -- a name on the way is declared, so a missing one is no cycle
      hexact.find?_of_mem_names hstart hseen hmissing
    unfold Profile.resolve
    rw [← Nat.add_sub_cancel' (by omega : n ≤ 2 * count + 2)]
    refine hreach.resolveAlong_eq_error ha ?_
    rw [resolveAlong_names ha, hparent]
    simp only [if_neg hnew, hmissing]
  | @cycle n a name hwalk hparent hseen =>
    obtain ⟨hreach, ha⟩ := hexact.walk_iff.mp hwalk
    have hn := hexact.reaches_le hcount hreach
    exact resolve_eq_cycle (by omega) hreach ha hparent hseen

namespace Exact

/-- A profile is resolved just if the parents lead to one that extends nothing. In one direction
this is `EndsAtRoot.resolve_eq_ok`. In the other one, a profile that is resolved has no reason to
fail. -/
theorem resolve_eq_ok_iff (hexact : F.Exact)
    (hstart : F.find? (F.profile start).name = some start) (hcount : F.FindsAmong count) :
    (∃ r, (F.profile start).resolve F.lookup count = .ok r) ↔ F.EndsAtRoot start := by
  refine ⟨?_, fun hroot => hroot.resolve_eq_ok hexact hcount⟩
  rintro ⟨r, hr⟩
  rcases hexact.stops hcount start with hroot | ⟨e, he⟩
  · exact hroot
  · rw [he.resolve_eq_error hexact hstart hcount] at hr
    cases hr

/-- An error is the answer just if it is the reason why the parents lead to no profile that extends
nothing. So there is at most one such reason, as there is one answer. -/
theorem resolve_eq_error_iff (hexact : F.Exact)
    (hstart : F.find? (F.profile start).name = some start) (hcount : F.FindsAmong count)
    {e : Error} :
    (F.profile start).resolve F.lookup count = .error e ↔ F.Fails start e := by
  refine ⟨?_, fun he => he.resolve_eq_error hexact hstart hcount⟩
  intro h
  rcases hexact.stops hcount start with hroot | ⟨e', he'⟩
  · obtain ⟨r, hr⟩ := hroot.resolve_eq_ok hexact hcount
    rw [hr] at h
    cases h
  · rw [he'.resolve_eq_error hexact hstart hcount, Except.error.injEq] at h
    exact h ▸ he'

end Exact

end Family

/-! ### Texts -/

/-- One more name at the end of names joined by arrows. -/
theorem arrows_append {names : List String} (h : names ≠ []) (last : String) :
    arrows (names ++ [last]) = arrows names ++ " -> " ++ last := by
  unfold arrows
  rw [String.intercalate_append_of_ne_nil h (List.cons_ne_nil last []),
    String.intercalate_singleton]

/-- The text of a cycle is the names that lead round it, joined by arrows. The name that closes it
stands at the end, where it is met for the second time. -/
theorem Fault.text_extendsCycle {chain : List String} (h : chain ≠ []) (parent : String) :
    (extendsCycle chain parent).text = "extends cycle: " ++ arrows (chain ++ [parent]) := by
  have htext : (extendsCycle chain parent).text =
      "extends cycle: " ++ arrows chain ++ " -> " ++ parent := rfl
  rw [htext, arrows_append h]
  simp only [String.append_assoc]

namespace Shared

/-! ### Objects in a list -/

/-- The objects of a list, of which the first one with a name is found under it. -/
def family (objects : List Shared) : Family Shared := ⟨Shared.profile, byName? objects⟩

/-- The objects of a list are found under their own names. -/
theorem exact_family (objects : List Shared) : (family objects).Exact := by
  intro name s (hfind : byName? objects name = some s)
  have hname := List.find?_some hfind
  exact beq_iff_eq.mp hname

/-- A list has one of its own objects under each name. The bound is the length of the list, also if
some objects have the same name. -/
theorem findsAmong_family (objects : List Shared) :
    (family objects).FindsAmong objects.length :=
  ⟨objects, Nat.le_refl _, fun _ _ h => List.mem_of_find?_eq_some h⟩

section

variable {lookup : String → Option Shared} {count fresh : Nat} {s r : Shared} {e : Error}

/-- An object is resolved to itself if it extends nothing, and else to a new object whose profile is
the resolved one. Its parents are looked up among objects, but only their profiles are used. -/
theorem resolve_eq_ok_iff : s.resolve lookup count fresh = .ok r ↔
    (s.profile.parent = none ∧ r = s) ∨
    (s.profile.parent ≠ none ∧ r.id = fresh ∧
      s.profile.resolve (fun name => (lookup name).map (·.profile)) count = .ok r.profile) := by
  unfold resolve
  cases hparent : s.profile.parent with
  | none => simp [eq_comm]
  | some name =>
    cases s.profile.resolve (fun name => (lookup name).map (·.profile)) count with
    | error e => simp [Except.map]
    | ok p =>
      obtain ⟨id, profile⟩ := r
      simp [Except.map, eq_comm]

/-- An object cannot be resolved just if its profile cannot. The error is the same, and no identity
is used up. -/
theorem resolve_eq_error_iff : s.resolve lookup count fresh = .error e ↔
    s.profile.resolve (fun name => (lookup name).map (·.profile)) count = .error e := by
  unfold resolve
  cases hparent : s.profile.parent with
  | none => simp [Profile.resolve_of_parent_eq_none hparent]
  | some name =>
    cases s.profile.resolve (fun name => (lookup name).map (·.profile)) count with
    | error e => simp [Except.map]
    | ok p => simp [Except.map]

/-- An object is resolved just if its profile is. -/
theorem exists_resolve_iff : (∃ r, s.resolve lookup count fresh = .ok r) ↔
    ∃ p, s.profile.resolve (fun name => (lookup name).map (·.profile)) count = .ok p := by
  constructor
  · rintro ⟨r, hr⟩
    rcases resolve_eq_ok_iff.mp hr with ⟨hparent, -⟩ | ⟨-, -, hprofile⟩
    · exact ⟨s.profile, Profile.resolve_of_parent_eq_none hparent⟩
    · exact ⟨r.profile, hprofile⟩
  · rintro ⟨p, hp⟩
    by_cases hparent : s.profile.parent = none
    · exact ⟨s, resolve_eq_ok_iff.mpr (.inl ⟨hparent, rfl⟩)⟩
    · exact ⟨⟨fresh, p⟩, resolve_eq_ok_iff.mpr (.inr ⟨hparent, rfl, hp⟩)⟩

/-- A resolved object extends nothing. It is the object itself just if that extends nothing, and its
identity is new otherwise. The identity tells the two apart even where the resolved profile is equal
to the declared one. -/
theorem of_resolve_eq_ok (hs : s.id ≠ fresh) (hr : s.resolve lookup count fresh = .ok r) :
    r.profile.parent = none ∧ (r = s ↔ s.profile.parent = none) ∧
      (s.profile.parent ≠ none → r.id = fresh) := by
  rcases resolve_eq_ok_iff.mp hr with ⟨hparent, rfl⟩ | ⟨hparent, hid, hprofile⟩
  · exact ⟨hparent, ⟨fun _ => hparent, fun _ => rfl⟩, fun h => absurd hparent h⟩
  · have hother : r ≠ s := by
      intro h
      rw [h] at hid
      exact hs hid
    exact ⟨Profile.parent_eq_none_of_resolveAlong hprofile,
      ⟨fun h => absurd h hother, fun h => absurd h hparent⟩, fun _ => hid⟩

end

/-- Resolving an object of a list by exact names, the first of equal names counting. It succeeds
just if the parents lead to a profile that extends nothing, all of them being in the list and no
two having the same name. Else the error is that of a profile whose parent is not in the list, or
that of the object itself with the names that lead round a cycle. A resolved profile extends
nothing; it is the object itself just if that extends nothing, and else it is a new one. No bound
on the steps that is at least the length of the list makes a difference. -/
theorem resolve_declared {objects : List Shared} {name : String} {s : Shared} {fresh : Nat}
    (hs : byName? objects name = some s) (hfresh : ∀ t ∈ objects, t.id ≠ fresh) :
    ((∃ r, s.resolve (byName? objects) objects.length fresh = .ok r) ↔
      ∃ n a, (family objects).Walk s n a ∧ a.profile.parent = none) ∧
    (∀ e, s.resolve (byName? objects) objects.length fresh = .error e ↔
      (family objects).Fails s e) ∧
    (∀ n parent, (Error.config s.profile.name
        (.extendsCycle ((family objects).names s (n + 1)) parent)).message =
      "invalid profile '" ++ s.profile.name ++ "': " ++
        ("extends cycle: " ++ arrows ((family objects).names s (n + 1) ++ [parent]))) ∧
    (∀ r, s.resolve (byName? objects) objects.length fresh = .ok r →
      r.profile.parent = none ∧ (r = s ↔ s.profile.parent = none) ∧
        (s.profile.parent ≠ none → ∀ t ∈ objects, t.id ≠ r.id)) ∧
    (∀ steps, objects.length ≤ steps →
      Profile.resolveAlong (family objects).lookup steps [] s.profile =
        s.profile.resolve (family objects).lookup objects.length) := by
  have hexact := exact_family objects
  have hcount := findsAmong_family objects
  have hstart : (family objects).find? s.profile.name = some s := by
    rw [show s.profile.name = name from hexact name s hs]
    exact hs
  have hdeclared : s.id ≠ fresh := hfresh s (List.mem_of_find?_eq_some hs)
  refine ⟨?ok, ?error, ?message, ?result, ?bound⟩
  case ok => exact exists_resolve_iff.trans (hexact.resolve_eq_ok_iff hstart hcount)
  case error =>
    intro e
    exact resolve_eq_error_iff.trans (hexact.resolve_eq_error_iff hstart hcount)
  case message =>
    intro n parent
    have hmet : (family objects).names s (n + 1) ≠ [] :=
      List.ne_nil_of_mem (Family.mem_names_iff.mpr ⟨0, s, Nat.succ_pos n, rfl, rfl⟩)
    rw [← Fault.text_extendsCycle hmet]
    rfl
  case result =>
    intro r hr
    obtain ⟨hroot, hself, hnew⟩ := of_resolve_eq_ok hdeclared hr
    refine ⟨hroot, hself, fun hparent t ht => ?_⟩
    rw [hnew hparent]
    exact hfresh t ht
  case bound =>
    intro steps hsteps
    show Profile.resolveAlong _ steps [] ((family objects).profile s) = _
    exact hexact.resolveAlong_eq hcount hsteps (by omega)

/-- A profile whose parents go round without coming back to it. -/
theorem resolve_declared_inner_cycle :
    ∃ (objects : List Shared) (a : Shared),
      objects = [a, ⟨1, { name := "b", parent := some "c" }⟩,
        ⟨2, { name := "c", parent := some "b" }⟩] ∧
      byName? objects "a" = some a ∧ (∀ t ∈ objects, t.id ≠ 3) ∧
      a.resolve (byName? objects) 3 3 =
        .error (.config "a" (.extendsCycle ["a", "b", "c"] "b")) := by
  refine ⟨_, ⟨0, { name := "a", parent := some "b" }⟩, rfl, rfl, by decide, ?_⟩
  refine ((@resolve_declared _ "a" _ 3 rfl (by decide)).2.1 _).mpr ?_
  exact .cycle (n := 2) ⟨rfl, by decide⟩ rfl (by decide)

end Shared

/-- A registry resolves an object along the names that it knows, unless it remembers the answer. -/
theorem Registry.resolveShared_eq {r : Registry} {entry : Shared}
    (h : r.memo.find? (·.1 == entry.id) = none) :
    (r.resolveShared entry).1 = entry.resolve r.findName? r.byName.size r.nextId := by
  unfold resolveShared Shared.resolve
  split
  · rfl
  · rw [h]
    unfold inherited
    cases entry.profile.resolve _ r.byName.size with
    | error e => rfl
    | ok p => rfl

end Polyglot
