import Mathlib
import Polyglot.Proofs.Profile.Resolution
import Polyglot.Proofs.Support.Sort
import Polyglot.Proofs.Symbol.Hits

/-!
# `Polyglot.Proofs.Symbol.Inherited`: rules behind others do not disturb them

`detect_inherited`: when rules are put behind others, the run over both starts with the run over
the others (`hits_append`). What is found later is found by the rules that were added, and it only
adds to the answer, since adding elements to a list leaves those that were there in their order
when both are sorted (`sublist_mergeSort_key`).

A profile that extends another one is resolved to its own symbol rules and then those of its
resolved parent (`symbolRules_of_resolve`). So the declarations that a profile finds on its own
are still found, as they were, with all that it inherits.
-/

set_option autoImplicit false

namespace Polyglot

namespace Profile

/-- The symbol rules of a profile; none if it says nothing about structure. -/
def symbolRules (p : Profile) : List SymbolRule := (p.structure?.map (·.symbols)).getD []

/-- The symbol rules of a profile over another one are its own, then the other's. If only one of
them says something about structure, its rules are taken as they are. -/
theorem symbolRules_overlay (child parent : Profile) :
    (child.overlay parent).symbolRules = child.symbolRules ++ parent.symbolRules := by
  unfold symbolRules overlay
  cases child.structure? with
  | none => rfl
  | some own =>
    cases parent.structure? with
    | none => exact (List.append_nil _).symm
    | some other => rfl

/-- A profile is resolved to its own symbol rules and then those of its resolved parent. So the
rules of all ancestors stand behind its own, the nearest ancestor first. Without a parent, there is
nothing behind them. -/
theorem symbolRules_of_resolve {lookup : String → Option Profile} {count : Nat} {p r : Profile}
    (h : resolve lookup count p = .ok r) :
    ∃ inherited, r.symbolRules = p.symbolRules ++ inherited ∧
      (p.parent = none → inherited = []) ∧
      ∀ name, p.parent = some name → ∃ parent above, lookup name = some parent ∧
        resolve lookup count parent = .ok above ∧ inherited = above.symbolRules := by
  cases hparent : p.parent with
  | none =>
    rw [resolve_of_parent_eq_none hparent] at h
    obtain rfl := Except.ok.inj h
    refine ⟨[], (List.append_nil _).symm, fun _ => rfl, ?_⟩
    intro name hname
    cases hname
  | some name =>
    obtain ⟨parent, above, hlookup, habove, rfl⟩ := exists_above_of_resolve h hparent
    refine ⟨above.symbolRules, symbolRules_overlay p above, (nomatch ·), ?_⟩
    intro other hother
    obtain rfl := Option.some.inj hother
    exact ⟨parent, above, hlookup, habove, rfl⟩

end Profile

namespace Detector

/-- A run over rules and those behind them starts with the run over the first ones. The rules are
tried one after the other over all tokens, so every try of the first ones comes before any of the
others. -/
theorem hits_append (d : Detector) (own more : List SymbolRule) :
    d.hits (own ++ more) =
      d.hits own ++ d.hitsOf (claimsOf (d.hits own)) (d.tries more) := by
  have htries : d.tries (own ++ more) = d.tries own ++ d.tries more := List.flatMap_append
  unfold hits
  rw [htries, hitsOf_append, List.append_nil]

/-- Rules behind others only add to what these find. The later symbols may go between the earlier
ones, when they are on earlier lines. The sort is stable, so the earlier ones keep their order among
each other. -/
theorem detect_sublist_append (d : Detector) (own more : List SymbolRule) :
    (d.detect own).Sublist (d.detect (own ++ more)) := by
  rw [detect_eq, detect_eq, hits_append, List.filterMap_append]
  exact sublist_mergeSort_key Symbol.startLine (List.sublist_append_left _ _)

/-- When rules are put behind others, the run over both starts with the matches of the others, and
all matches behind these are of the rules that were added; so the symbols of the others are found
as they were and in their order. In particular this is so of the symbols that a profile finds with
its own rules, when it is resolved to these and then those of its parent. -/
theorem detect_inherited (d : Detector) :
    (∀ own more : List SymbolRule,
      (∃ later, d.hits (own ++ more) = d.hits own ++ later ∧ ∀ hit ∈ later, hit.rule ∈ more) ∧
      (d.detect own).Sublist (d.detect (own ++ more))) ∧
    ∀ (lookup : String → Option Profile) (count : Nat) (child resolved : Profile),
      Profile.resolve lookup count child = .ok resolved →
      ∃ inherited, resolved.symbolRules = child.symbolRules ++ inherited ∧
        (child.parent = none → inherited = []) ∧
        (∀ name, child.parent = some name → ∃ parent above, lookup name = some parent ∧
          Profile.resolve lookup count parent = .ok above ∧ inherited = above.symbolRules) ∧
        (∃ later, d.hits resolved.symbolRules = d.hits child.symbolRules ++ later ∧
          ∀ hit ∈ later, hit.rule ∈ inherited) ∧
        (d.detect child.symbolRules).Sublist (d.detect resolved.symbolRules) := by
  have happend : ∀ own more : List SymbolRule,
      (∃ later, d.hits (own ++ more) = d.hits own ++ later ∧ ∀ hit ∈ later, hit.rule ∈ more) ∧
      (d.detect own).Sublist (d.detect (own ++ more)) := by
    intro own more
    refine ⟨⟨_, hits_append d own more, fun hit hhit => ?_⟩, detect_sublist_append d own more⟩
    exact rule_mem_of_mem_hitsOf hhit
  refine ⟨happend, fun lookup count child resolved hresolve => ?_⟩
  obtain ⟨inherited, hrules, hroot, hparent⟩ := Profile.symbolRules_of_resolve hresolve
  refine ⟨inherited, hrules, hroot, hparent, ?_⟩
  rw [hrules]
  exact happend _ _

/-- A profile with a rule for functions, over one with a rule for names, on the two lines `x` and
`fn f`. The profile's own rule binds `f`, so the parent finds the other name only. That one is found
later and answered first, because it is on an earlier line, and the symbol of `f` is the same with
and without it. -/
theorem detect_inherited_names :
    ∃ (lexer : Lexer) (d : Detector) (child parent : Profile),
      lexer = {
        language := "sample"
        states := #[⟨"default", [⟨.literal [['f', 'n']], "word", .keyword, false, none, none⟩,
          ⟨.literal [['f'], ['x']], "name", .identifier, false, none, none⟩,
          ⟨.literal [[' '], ['\n']], "blank", .whitespace, false, none, none⟩]⟩]
        initial := 0
        skipTypes := ["blank"]
        tabWidth := none } ∧
      d = new "x\nfn f" (lexer.tokenize "x\nfn f") [] lexer 5 4 ∧
      child = {
        name := "child"
        parent := some "parent"
        structure? := some { symbols := [⟨"function", "function",
          [.token ⟨"word", some "fn", none⟩, .token ⟨"name", none, some "name"⟩], false,
          none⟩] } } ∧
      parent = {
        name := "parent"
        structure? := some { symbols := [⟨"name", "variable",
          [.token ⟨"name", none, some "name"⟩], false, none⟩] } } ∧
      ∃ resolved, Profile.resolve (fun _ => some parent) 1 child = .ok resolved ∧
        (d.hits child.symbolRules).map (·.claim) = [(1, 2)] ∧
        (d.hits resolved.symbolRules).map (·.claim) = [(1, 2), (0, 0)] ∧
        (d.detect child.symbolRules).map (·.name) = ["f"] ∧
        (d.detect resolved.symbolRules).map (·.name) = ["x", "f"] ∧
        (d.detect child.symbolRules).Sublist (d.detect resolved.symbolRules) := by
  refine ⟨_, _, _, _, rfl, rfl, rfl, rfl, ?resolved, ?hresolve, ?_, ?_, ?_, ?_,
    ((detect_inherited _).2 _ _ _ _ ?hresolve).choose_spec.2.2.2.2⟩
  case hresolve => rfl
  · decide +kernel
  · decide +kernel
  · decide +kernel
  · cbv

end Detector

end Polyglot
