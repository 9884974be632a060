import Mathlib.Data.List.Perm.Subperm
import Mathlib.Logic.Relation
import Polyglot.CharClass.Basic
import Polyglot.Proofs.Support.Except
import Polyglot.Proofs.Table

/-!
# `Polyglot.Proofs.CharClass.References`: when a declared class can be compiled

A declared class refers to names, and the classes of these names refer to further ones. The main
theorem, `compile_succeeds_iff`, says that a class can be compiled just if every name that can be
reached in this way is declared and none of them leads back to itself. A name may be reached along
many ways, and what is not reached does no harm. If a class cannot be compiled, the fault names
the reference that is broken.

`follow` keeps the names that are being followed. Each of them leads to the next name
(`Follows.leads`), so a name that is met a second time leads back to itself; and they are
different declared names, so there are not more of them than the table has
(`Follows.length_le`). That is why the bound on the recursion is never met
(`Follows.room`), and why a larger bound makes no difference (`Follows.follow_congr`).
-/

set_option autoImplicit false

namespace Polyglot.CharClass

/-! ### References -/

/-- A declared class refers to a name, by itself or in a part of it. -/
inductive Spec.RefersTo : Spec → String → Prop where
  /-- A reference. -/
  | ref (name : String) : RefersTo (.ref name) name
  /-- A union refers to what one of its classes refers to. -/
  | union {classes : List Spec} {k : Spec} {name : String} (hmem : k ∈ classes)
      (h : RefersTo k name) : RefersTo (.union classes) name
  /-- A complement refers to what its class refers to. -/
  | negate {inner : Spec} {name : String} (h : RefersTo inner name) : RefersTo (.negate inner) name

/-- The class that is declared under one name refers to another name. -/
def LeadsTo (table : Table Spec) (name other : String) : Prop :=
  ∃ spec, table.find? name = some spec ∧ spec.RefersTo other

/-- A name is reached from a declared class, directly or through the table. -/
def Spec.Reaches (table : Table Spec) (spec : Spec) (name : String) : Prop :=
  ∃ first, spec.RefersTo first ∧ Relation.ReflTransGen (LeadsTo table) first name

/-! ### One declaration

`Spec.inline` goes through a declaration and asks for the class of each name in it. What it
answers depends on these classes alone, and it fails with the fault of one of them. -/

section Inline

variable {f g : String → Except Fault CharClass}

mutual

/-- A declaration has a class if all names have one that it refers to; otherwise it has the fault of
one of these names. A declaration has no faults of its own: all of them come from names. -/
theorem inline_cases : (spec : Spec) →
    ((∃ k, spec.inline f = .ok k) ∧ ∀ name, spec.RefersTo name → ∃ k, f name = .ok k) ∨
    ∃ fault name, spec.inline f = .error fault ∧ spec.RefersTo name ∧ f name = .error fault
  | .predefined p => .inl ⟨⟨.predefined p, by rw [Spec.inline]⟩, fun _ h => nomatch h⟩
  | .chars members =>
    .inl ⟨⟨.chars (sortChars members.toList).toArray, by rw [Spec.inline]⟩, fun _ h => nomatch h⟩
  | .range first last => .inl ⟨⟨.range first last, by rw [Spec.inline]⟩, fun _ h => nomatch h⟩
  | .union classes => by
    rw [Spec.inline]
    rcases inlineAll_cases classes with ⟨⟨ks, hks⟩, hnames⟩ | ⟨fault, k, name, hfault, hk, h⟩
    · left
      refine ⟨⟨.union ks, by rw [hks]; rfl⟩, ?_⟩
      -- a union refers to what its members refer to
      rintro name (_ | ⟨hk, hname⟩ | _)
      exact hnames _ hk name hname
    · right
      exact ⟨fault, name, by rw [hfault]; rfl, .union hk h.1, h.2⟩
  | .negate inner => by
    rw [Spec.inline]
    rcases inline_cases inner with ⟨⟨k, hk⟩, hnames⟩ | ⟨fault, name, hfault, hname, h⟩
    · left
      refine ⟨⟨.negate k, by rw [hk]; rfl⟩, ?_⟩
      rintro name (_ | _ | hname)
      exact hnames name hname
    · right
      exact ⟨fault, name, by rw [hfault]; rfl, .negate hname, h⟩
  | .ref name => by
    rw [Spec.inline]
    cases hname : f name with
    | ok k =>
      left
      refine ⟨⟨k, rfl⟩, ?_⟩
      rintro _ (_ | _ | _)
      exact ⟨k, hname⟩
    | error fault =>
      right
      exact ⟨fault, name, rfl, .ref name, hname⟩

/-- Several declarations have classes if each of them has one; otherwise they have the fault of one
of them. It is the fault of the first one that has any, as the rest is not looked at. -/
theorem inlineAll_cases : (classes : List Spec) →
    ((∃ ks, inlineAll f classes = .ok ks) ∧
      ∀ k ∈ classes, ∀ name, k.RefersTo name → ∃ c, f name = .ok c) ∨
    ∃ fault k name, inlineAll f classes = .error fault ∧ k ∈ classes ∧ k.RefersTo name ∧
      f name = .error fault
  | [] => .inl ⟨⟨[], by rw [inlineAll]⟩, fun _ h => nomatch h⟩
  | spec :: rest => by
    rw [inlineAll]
    rcases inline_cases spec with ⟨⟨k, hk⟩, hnames⟩ | ⟨fault, name, hfault, hname, h⟩
    · rcases inlineAll_cases rest with ⟨⟨ks, hks⟩, hrest⟩ | ⟨fault, other, name, hfault, hmem, h⟩
      · left
        refine ⟨⟨k :: ks, by rw [hk, hks]; rfl⟩, ?_⟩
        exact List.forall_mem_cons.mpr ⟨hnames, hrest⟩
      · right
        exact ⟨fault, other, name, by rw [hk, hfault]; rfl, List.mem_cons_of_mem _ hmem, h⟩
    · right
      exact ⟨fault, spec, name, by rw [hfault]; rfl, List.mem_cons_self, hname, h⟩

end

mutual

/-- What a declaration denotes depends on the classes of the names that it refers to. So the
function that gives these classes may be exchanged, as long as it agrees on these names. -/
theorem inline_congr : (spec : Spec) → (∀ name, spec.RefersTo name → f name = g name) →
    spec.inline f = spec.inline g
  | .predefined p, _ => by rw [Spec.inline, Spec.inline]
  | .chars members, _ => by rw [Spec.inline, Spec.inline]
  | .range first last, _ => by rw [Spec.inline, Spec.inline]
  | .union classes, h => by
    rw [Spec.inline, Spec.inline]
    rw [inlineAll_congr classes fun k hk name hname => h name (.union hk hname)]
  | .negate inner, h => by
    rw [Spec.inline, Spec.inline]
    rw [inline_congr inner fun name hname => h name (.negate hname)]
  | .ref name, h => by
    rw [Spec.inline, Spec.inline]
    exact h name (.ref name)

/-- What several declarations denote depends on the classes of the names in them. -/
theorem inlineAll_congr : (classes : List Spec) →
    (∀ k ∈ classes, ∀ name, k.RefersTo name → f name = g name) →
    inlineAll f classes = inlineAll g classes
  | [], _ => by rw [inlineAll, inlineAll]
  | spec :: rest, h => by
    rw [inlineAll, inlineAll, inline_congr spec (h spec List.mem_cons_self),
      inlineAll_congr rest fun k hk => h k (List.mem_cons_of_mem _ hk)]

end

end Inline

/-! ### Following names -/

section Follow

variable {table : Table Spec} {fuel fuel' : Nat} {path : List String} {name : String}

/-- A name that is followed has not been met before, is declared, and its declaration can be inlined
with this name on the path. This takes one step of the recursion apart for the case that it
succeeds. -/
theorem follow_eq_ok {k : CharClass} (h : follow table fuel path name = .ok k) :
    ∃ more spec, fuel = more + 1 ∧ name ∉ path ∧ table.find? name = some spec ∧
      spec.inline (follow table more (path ++ [name])) = .ok k := by
  cases fuel with
  | zero => cases h
  | succ more =>
    rw [follow] at h
    split at h
    · cases h
    · rename_i hpath
      cases hspec : table.find? name with
      | none =>
        rw [hspec] at h
        cases h
      | some spec =>
        rw [hspec] at h
        exact ⟨more, spec, rfl, fun hmem => hpath (List.contains_iff_mem.mpr hmem), rfl, h⟩

/-- If a name can be followed, so can the names that its class refers to, behind it. They are
followed with a longer path, so nothing is said of them on their own. -/
theorem exists_follow_of_leadsTo {k : CharClass} (h : follow table fuel path name = .ok k)
    {other : String} (hleads : LeadsTo table name other) :
    ∃ more k', follow table more (path ++ [name]) other = .ok k' := by
  obtain ⟨more, spec, -, -, hspec, hinline⟩ := follow_eq_ok h
  obtain ⟨spec', hspec', hother⟩ := hleads
  obtain rfl := Option.some.inj (hspec.symm.trans hspec')
  rcases inline_cases (f := follow table more (path ++ [name])) spec with hok | ⟨_, _, herror, -⟩
  · obtain ⟨k', hk'⟩ := hok.2 other hother
    exact ⟨more, k', hk'⟩
  · rw [hinline] at herror
    cases herror

/-- If a name can be followed, every name that it leads to can be followed further on. The induction
is on the references that lead there, and the path grows by one name with each. -/
theorem exists_follow_of_reflTransGen {k : CharClass} (h : follow table fuel path name = .ok k)
    {other : String} (hleads : Relation.ReflTransGen (LeadsTo table) name other) :
    ∃ more between k', follow table more (path ++ between) other = .ok k' := by
  induction hleads with
  | refl => exact ⟨fuel, [], k, by rw [List.append_nil]; exact h⟩
  | @tail middle last _ hstep ih =>
    obtain ⟨more, between, k', hk'⟩ := ih
    obtain ⟨more', k'', hk''⟩ := exists_follow_of_leadsTo hk' hstep
    exact ⟨more', between ++ [middle], k'', by rw [← List.append_assoc]; exact hk''⟩

/-- If a name can be followed, every name that it leads to is declared and does not lead back to
itself. If it did, it would be followed once more behind itself, and there it is on the path. -/
theorem declared_of_follow {k : CharClass} (h : follow table fuel path name = .ok k)
    {other : String} (hleads : Relation.ReflTransGen (LeadsTo table) name other) :
    (table.find? other).isSome ∧ ¬ Relation.TransGen (LeadsTo table) other other := by
  obtain ⟨more, between, k', hk'⟩ := exists_follow_of_reflTransGen h hleads
  constructor
  · obtain ⟨_, spec, -, -, hspec, -⟩ := follow_eq_ok hk'
    rw [hspec]
    rfl
  · intro hcycle
    -- go round once: the name would be followed with itself on the path
    obtain ⟨first, hfirst, hback⟩ := Relation.TransGen.head'_iff.mp hcycle
    obtain ⟨_, _, hk''⟩ := exists_follow_of_leadsTo hk' hfirst
    obtain ⟨_, _, _, hround⟩ := exists_follow_of_reflTransGen hk'' hback
    obtain ⟨_, _, -, hnew, -, -⟩ := follow_eq_ok hround
    exact hnew (by simp)

/-- A name that is followed from a declaration, behind the names on a path. -/
structure Follows (table : Table Spec) (fuel : Nat) (path : List String) (name : String) :
    Prop where
  /-- No name is on the path twice. -/
  distinct : path.Nodup
  /-- The names on the path are declared. -/
  declared : ∀ n ∈ path, (table.find? n).isSome
  /-- Each name on the path leads to the name that is followed. -/
  leads : ∀ n ∈ path, Relation.TransGen (LeadsTo table) n name
  /-- The bound on the recursion is greater than the number of names that are not on the path. -/
  room : table.size < fuel + path.length

namespace Follows

/-- A name of the declaration itself is followed behind no other. -/
theorem start (hfuel : table.size < fuel) : Follows table fuel [] name where
  distinct := List.nodup_nil
  declared := fun _ h => nomatch h
  leads := fun _ h => nomatch h
  room := hfuel

/-- The path is not longer than the table. Its names are different, and each of them is in the
table. -/
theorem length_le (h : Follows table fuel path name) : path.length ≤ table.size := by
  have hsubset : path ⊆ table.keys := by
    intro n hn
    exact Table.isSome_find?_iff.mp (h.declared n hn)
  have hlength := (h.distinct.subperm hsubset).length_le
  rw [Table.keys, List.length_map] at hlength
  exact hlength

/-- What a new name refers to is followed behind it. The bound on the recursion is one less and the
path is one longer, so the room stays the same. -/
theorem next (h : Follows table (fuel + 1) path name) (hnew : name ∉ path) {spec : Spec}
    (hspec : table.find? name = some spec) {other : String} (hother : spec.RefersTo other) :
    Follows table fuel (path ++ [name]) other := by
  have hstep : LeadsTo table name other := ⟨spec, hspec, hother⟩
  refine ⟨?_, ?_, ?_, ?_⟩
  · exact List.nodup_append.mpr ⟨h.distinct, List.nodup_singleton name, by
      rintro n hn _ hname rfl
      rw [List.mem_singleton] at hname
      exact hnew (hname ▸ hn)⟩
  · intro n hn
    rcases List.mem_append.mp hn with hn | hn
    · exact h.declared n hn
    · rw [List.mem_singleton.mp hn, hspec]
      rfl
  · intro n hn
    rcases List.mem_append.mp hn with hn | hn
    · exact (h.leads n hn).tail hstep
    · rw [List.mem_singleton.mp hn]
      exact .single hstep
  · have hroom := h.room
    rw [List.length_append, List.length_singleton]
    omega

end Follows

/-- A fault that is about a name, and is right about it. -/
inductive Blames (table : Table Spec) : Fault → String → Prop where
  /-- The name is not declared. -/
  | unknown {name : String} (h : table.find? name = none) : Blames table (.unknownClass name) name
  /-- The name leads back to itself. -/
  | cycle {path : List String} {name : String} (h : Relation.TransGen (LeadsTo table) name name) :
    Blames table (.classCycle path name) name

/-- A name that cannot be followed leads to one that the fault is right about. The induction is on
the bound, which is never met: there is always room for one more name. -/
theorem exists_blamed {fault : Fault} (hfollows : Follows table fuel path name)
    (h : follow table fuel path name = .error fault) :
    ∃ other, Relation.ReflTransGen (LeadsTo table) name other ∧ Blames table fault other := by
  induction fuel generalizing path name with
  | zero =>
    -- there is always room for one more name
    have hlength := hfollows.length_le
    have hroom := hfollows.room
    omega
  | succ fuel ih =>
    rw [follow] at h
    split at h
    · rename_i hpath
      obtain rfl := Except.error.inj h
      exact ⟨name, .refl, .cycle (hfollows.leads name (List.contains_iff_mem.mp hpath))⟩
    · rename_i hpath
      have hnew : name ∉ path := fun hmem => hpath (List.contains_iff_mem.mpr hmem)
      cases hspec : table.find? name with
      | none =>
        rw [hspec] at h
        obtain rfl := Except.error.inj h
        exact ⟨name, .refl, .unknown hspec⟩
      | some spec =>
        rw [hspec] at h
        dsimp only at h
        rcases inline_cases (f := follow table fuel (path ++ [name])) spec with
          ⟨⟨k, hk⟩, -⟩ | ⟨fault', first, hfault, hfirst, herror⟩
        · rw [hk] at h
          cases h
        · rw [hfault] at h
          obtain rfl := Except.error.inj h
          obtain ⟨other, hleads, hblames⟩ := ih (hfollows.next hnew hspec hfirst) herror
          exact ⟨other, .head ⟨spec, hspec, hfirst⟩ hleads, hblames⟩

/-- How much more room there is for names makes no difference. So the bound is there for the
recursion only, and no declaration fails because of it. -/
theorem follow_congr (h : Follows table fuel path name) (h' : Follows table fuel' path name) :
    follow table fuel path name = follow table fuel' path name := by
  induction fuel generalizing fuel' path name with
  | zero =>
    have hlength := h.length_le
    have hroom := h.room
    omega
  | succ fuel ih =>
    cases fuel' with
    | zero =>
      have hlength := h'.length_le
      have hroom := h'.room
      omega
    | succ fuel' =>
      rw [follow, follow]
      split
      · rfl
      · -- the path gets longer and the fuel less, so there is still room
        rename_i hpath
        have hnew : name ∉ path := fun hmem => hpath (List.contains_iff_mem.mpr hmem)
        cases hspec : table.find? name with
        | none => rfl
        | some spec =>
          exact inline_congr spec fun other hother =>
            ih (h.next hnew hspec hother) (h'.next hnew hspec hother)

end Follow

/-! ### The main theorem -/

/-- A declared class can be compiled just if every name that is reached from it is declared and
does not lead back to itself. If it cannot, the fault is right about a name that is reached. More
room for names than there are names makes no difference, so the recursion ends by itself. -/
theorem compile_succeeds_iff (table : Table Spec) (spec : Spec) :
    ((∃ k, compile table spec = .ok k) ↔ ∀ name, spec.Reaches table name →
      (table.find? name).isSome ∧ ¬ Relation.TransGen (LeadsTo table) name name) ∧
    (∀ fault, compile table spec = .error fault →
      ∃ name, spec.Reaches table name ∧ Blames table fault name) ∧
    ∀ fuel, table.size < fuel → spec.inline (follow table fuel []) = compile table spec := by
  have hstart : ∀ name, Follows table (table.size + 1) [] name :=
    fun name => .start (Nat.lt_succ_self table.size)
  have hfault : ∀ fault, compile table spec = .error fault →
      ∃ name, spec.Reaches table name ∧ Blames table fault name := by
    intro fault h
    rcases inline_cases (f := follow table (table.size + 1) []) spec with
      ⟨⟨k, hk⟩, -⟩ | ⟨fault', first, hfault, hfirst, herror⟩
    · rw [compile, hk] at h
      cases h
    · rw [compile, hfault] at h
      obtain rfl := Except.error.inj h
      obtain ⟨name, hleads, hblames⟩ := exists_blamed (hstart first) herror
      exact ⟨name, ⟨first, hfirst, hleads⟩, hblames⟩
  refine ⟨⟨?_, ?_⟩, hfault, ?_⟩
  · -- each name of the declaration was followed to its end
    rintro ⟨k, hk⟩ name ⟨first, hfirst, hleads⟩
    rcases inline_cases (f := follow table (table.size + 1) []) spec with
      ⟨-, hnames⟩ | ⟨_, _, herror, -⟩
    · obtain ⟨_, hfollow⟩ := hnames first hfirst
      exact declared_of_follow hfollow hleads
    · rw [compile, herror] at hk
      cases hk
  · -- a failure would blame a name that is declared and on no cycle
    intro hsound
    cases h : compile table spec with
    | ok k => exact ⟨k, rfl⟩
    | error fault =>
      obtain ⟨name, hreached, hblames⟩ := hfault fault h
      obtain ⟨hdeclared, hacyclic⟩ := hsound name hreached
      cases hblames with
      | unknown hnone =>
        rw [hnone] at hdeclared
        cases hdeclared
      | cycle hcycle => exact absurd hcycle hacyclic
  · -- more fuel than there are names is enough in both cases
    intro fuel hfuel
    exact inline_congr spec fun name _ => follow_congr (.start hfuel) (hstart name)

end Polyglot.CharClass
