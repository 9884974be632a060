import Polyglot.Proofs.Registry.History
import Polyglot.Proofs.Registry.Keys

/-!
# `Polyglot.Proofs.Registry.PathLookup`: which profile a path leads to

The profile for a path is meant to be the one that claims its extension
(`History.claimantForPath`). A registry makes sure that there is one, and then looks the key of
the extension up like any other key, names first. So a profile whose name is the key of the
extension hides the one that claims it.

`Registry.resolvePath_eq_claimant_iff` says when this makes no difference: when no profile has
the key for its name, or the one that has it is resolved to the same profile. In any other case
the profile with the name is the answer. `Registry.resolvePath_ne_claimant` is such a case: a
language named `ty`, and another one that claims `.ty`.
-/

set_option autoImplicit false

namespace Polyglot

namespace History

/-- The profile that claims the extension of a path, with all that it extends. -/
def claimantForPath (history : History) (path : String) : Except Error Profile :=
  match ((pathExtension? path).map extensionKey).bind history.claiming? with
  | some p => history.inherited p
  | none => .error (.unknownLanguage path)

/-- The key of the extension of a path: by name in one spelling only, or else by extension. What
follows the name is one and the same key, so nothing is tried that could find anything else. -/
theorem find?_of_pathExtension? (history : History) {path key : String}
    (h : (pathExtension? path).map extensionKey = some key) :
    history.find? key = (history.named? key <|> history.claiming? key) := by
  obtain ⟨extension, hextension, rfl⟩ := Option.map_eq_some_iff.mp h
  -- a key is in lower case and its own key, so all spellings that are tried are the same one
  rw [find?, findName?, lowercaseName_extensionKey, extensionKey_of_pathExtension? hextension]
  cases history.named? (extensionKey extension) <;> rfl

/-- The profile for a path whose extension is claimed: the one with the key for its name, or else
the one that claims it. The claim is checked first, but then the key is looked up as any other, and
a name comes before a claim. -/
theorem profileForPath_of_claiming? {history : History} {path key : String} {p : Profile}
    (hkey : (pathExtension? path).map extensionKey = some key)
    (hp : history.claiming? key = some p) :
    history.profileForPath path = history.inherited ((history.named? key).getD p) := by
  rw [profileForPath, hkey]
  dsimp only
  rw [hp, Option.isSome_some, if_pos rfl, profile, history.find?_of_pathExtension? hkey, hp]
  cases history.named? key <;> rfl

/-- The profile for a path whose extension is not claimed. -/
theorem profileForPath_of_not_claimed {history : History} {path : String}
    (h : ((pathExtension? path).map extensionKey).bind history.claiming? = none) :
    history.profileForPath path = .error (.unknownLanguage path) := by
  unfold profileForPath
  cases hkey : (pathExtension? path).map extensionKey with
  | none => rfl
  | some key =>
    rw [hkey, Option.bind_some] at h
    dsimp only
    rw [h, Option.isSome_none, if_neg Bool.false_ne_true]

end History

namespace Registry

/-- A lookup by path after any run of actions answers what the profiles registered so far say.
Objects, memo and identities are left behind here. -/
theorem map_resolvePath_after (actions : List Action) (path : String) :
    ((after actions).resolvePath path).1.map (·.profile) =
      (registered actions).profileForPath path := by
  obtain ⟨objects, hconsistent⟩ := exists_consistent actions
  exact (hconsistent.resolvePath path).map_profile

/-- A lookup by path answers with the profile that claims the extension of the path, or says
that there is none, just if no profile with the key of the extension for its name comes to
something else. Where one does, it is the answer. -/
theorem resolvePath_eq_claimant_iff (actions : List Action) (path : String) :
    (((after actions).resolvePath path).1.map (·.profile) =
        (registered actions).claimantForPath path ↔
      ∀ key p q, (pathExtension? path).map extensionKey = some key →
        (registered actions).claiming? key = some p →
        (registered actions).named? key = some q →
        (registered actions).inherited q = (registered actions).inherited p) ∧
    (∀ key p q, (pathExtension? path).map extensionKey = some key →
      (registered actions).claiming? key = some p →
      (registered actions).named? key = some q →
      ((after actions).resolvePath path).1.map (·.profile) =
        (registered actions).inherited q) := by
  rw [map_resolvePath_after]
  generalize registered actions = history
  have hhidden : ∀ key p q, (pathExtension? path).map extensionKey = some key →
      history.claiming? key = some p → history.named? key = some q →
      history.profileForPath path = history.inherited q := by
    intro key p q hkey hp hq
    rw [History.profileForPath_of_claiming? hkey hp, hq, Option.getD_some]
  refine ⟨⟨?_, ?_⟩, hhidden⟩
  · -- the answer is the profile with the name, and it is said to be the claimant
    intro heq key p q hkey hp hq
    rw [← hhidden key p q hkey hp hq, heq, History.claimantForPath, hkey, Option.bind_some, hp]
  · intro hsame
    unfold History.claimantForPath
    cases hclaimed : ((pathExtension? path).map extensionKey).bind history.claiming? with
    | none => exact History.profileForPath_of_not_claimed hclaimed
    | some p =>
      obtain ⟨key, hkey, hp⟩ := Option.bind_eq_some_iff.mp hclaimed
      rw [History.profileForPath_of_claiming? hkey hp]
      cases hq : history.named? key with
      | none => rfl
      | some q => exact hsame key p q hkey hp hq

/-- The answer for a path in `ty` where a language has that name and another one claims it. -/
theorem resolvePath_of_hidden_claimant :
    ((after [.register { name := "ty" }, .register { name := "toy", fileExtensions := [".ty"] }]
        ).resolvePath "a.ty").1.map (·.profile) =
      (registered [.register { name := "ty" },
        .register { name := "toy", fileExtensions := [".ty"] }]).inherited { name := "ty" } :=
  (resolvePath_eq_claimant_iff _ "a.ty").2 "ty" { name := "toy", fileExtensions := [".ty"] }
    { name := "ty" } rfl rfl rfl

/-- A language named `ty` hides the one that claims the extension `.ty`. -/
theorem resolvePath_ne_claimant :
    ((after [.register { name := "ty" }, .register { name := "toy", fileExtensions := [".ty"] }]
        ).resolvePath "a.ty").1.map (·.profile) ≠
      (registered [.register { name := "ty" },
        .register { name := "toy", fileExtensions := [".ty"] }]).claimantForPath "a.ty" := by
  intro h
  have hnames := congrArg (Except.map (·.name)) h
  exact absurd hnames (by decide +kernel)

end Registry

end Polyglot
