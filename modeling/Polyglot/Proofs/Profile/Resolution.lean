import Polyglot.Profile.Inherit

/-!
# `Polyglot.Proofs.Profile.Resolution`: a profile and its parent

A profile is resolved to itself if it extends nothing, and else it is put over its resolved parent
(`resolveAlong_eq_ok_iff`). A profile that is resolved is resolved to the same in more steps and
with fewer names on the way (`resolveAlong_mono`). So the parent of a resolved profile is resolved
also by itself (`exists_above_of_resolve`).
-/

set_option autoImplicit false

namespace Polyglot.Profile

variable {lookup : String → Option Profile} {steps : Nat} {chain : List String} {p r : Profile}

/-- A profile is resolved if it extends nothing, or if its parent is found, is not on the way, and
is resolved behind it. This takes apart one step of the recursion for answers that are profiles;
errors are treated along the walk of the parents. -/
theorem resolveAlong_eq_ok_iff : resolveAlong lookup steps chain p = .ok r ↔
    (p.parent = none ∧ r = p) ∨
    ∃ name parent rest above, p.parent = some name ∧ name ∉ chain ++ [p.name] ∧
      lookup name = some parent ∧ steps = rest + 1 ∧
      resolveAlong lookup rest (chain ++ [p.name]) parent = .ok above ∧ r = p.overlay above := by
  rw [resolveAlong]
  dsimp only
  generalize chain ++ [p.name] = way
  cases hparent : p.parent with
  | none => simp [eq_comm]
  | some name =>
    by_cases hseen : name ∈ way
    · simp [hseen]
    · cases hlookup : lookup name with
      | none => simp [hseen, hlookup]
      | some parent =>
        cases steps with
        | zero => simp [hseen, hlookup]
        | succ rest =>
          cases habove : resolveAlong lookup rest way parent with
          | error e => simp [hseen, hlookup, habove, Except.map]
          | ok above => simp [hseen, hlookup, habove, Except.map, eq_comm]

/-- A profile that is resolved is resolved to the same in more steps and with fewer names on the
way. Neither of the two is asked for on the way to an answer that is a profile, other than to let it
pass. -/
theorem resolveAlong_mono {steps' : Nat} {chain' : List String}
    (h : resolveAlong lookup steps chain p = .ok r) (hsteps : steps ≤ steps')
    (hchain : chain' ⊆ chain) : resolveAlong lookup steps' chain' p = .ok r := by
  induction steps generalizing steps' chain chain' p r with
  | zero =>
    rcases resolveAlong_eq_ok_iff.mp h with hroot | ⟨_, _, _, _, _, _, _, hzero, _⟩
    · exact resolveAlong_eq_ok_iff.mpr (.inl hroot)
    · cases hzero
  | succ steps ih =>
    rcases resolveAlong_eq_ok_iff.mp h with
      hroot | ⟨name, parent, rest, above, hparent, hnew, hlookup, hrest, habove, hr⟩
    · exact resolveAlong_eq_ok_iff.mpr (.inl hroot)
    · obtain rfl := Nat.succ.inj hrest
      obtain ⟨rest', rfl⟩ : ∃ rest', steps' = rest' + 1 := ⟨steps' - 1, by omega⟩
      -- fewer names on the way exclude fewer parents
      have hsub : chain' ++ [p.name] ⊆ chain ++ [p.name] :=
        List.append_subset.mpr ⟨List.subset_append_of_subset_left _ hchain,
          List.subset_append_right _ _⟩
      exact resolveAlong_eq_ok_iff.mpr (.inr ⟨name, parent, rest', above, hparent,
        fun hmem => hnew (hsub hmem), hlookup, rfl,
        ih habove (Nat.le_of_succ_le_succ hsteps) hsub, hr⟩)

/-- A profile that is resolved extends nothing any more. It is a root, or it was put over something,
which takes the parent away. -/
theorem parent_eq_none_of_resolveAlong (h : resolveAlong lookup steps chain p = .ok r) :
    r.parent = none := by
  rcases resolveAlong_eq_ok_iff.mp h with ⟨hroot, rfl⟩ | ⟨_, _, _, _, _, _, _, _, _, rfl⟩
  · exact hroot
  · rfl

/-- A profile that extends nothing is resolved to itself. -/
theorem resolve_of_parent_eq_none {count : Nat} (h : p.parent = none) :
    resolve lookup count p = .ok p :=
  resolveAlong_eq_ok_iff.mpr (.inl ⟨h, rfl⟩)

/-- A profile that is resolved is put over its parent, which is resolved by itself too. As a start
of its own the parent has fewer names on the way and more steps, and that changes nothing
(`resolveAlong_mono`). -/
theorem exists_above_of_resolve {count : Nat} {name : String} (h : resolve lookup count p = .ok r)
    (hparent : p.parent = some name) :
    ∃ parent above, lookup name = some parent ∧ resolve lookup count parent = .ok above ∧
      r = p.overlay above := by
  rcases resolveAlong_eq_ok_iff.mp h with
    ⟨hroot, -⟩ | ⟨other, parent, rest, above, hother, -, hlookup, hrest, habove, hr⟩
  · rw [hparent] at hroot
    cases hroot
  · rw [hparent] at hother
    obtain rfl := Option.some.inj hother
    -- the parent has one step less, and the name of the profile on the way
    have hresolved := resolveAlong_mono habove (by omega : rest ≤ 2 * count + 2)
      (List.nil_subset _)
    exact ⟨parent, above, hlookup, hresolved, hr⟩

end Polyglot.Profile
