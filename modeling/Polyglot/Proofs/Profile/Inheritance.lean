import Mathlib.Data.List.Chain
import Mathlib.Data.List.Perm.Subperm
import Polyglot.Builtin.JavaScript
import Polyglot.Builtin.TypeScript
import Polyglot.Proofs.Table
import Polyglot.Registry

/-!
# `Polyglot.Proofs.Profile.Inheritance`: what a chain of profiles comes to

`resolve_chain`: a profile whose parents lead, name by name, to a profile that extends nothing
is resolved, however long the chain is, and each part of the result is read off the chain. What
has a name (classes, token types, states) is the one of the first profile that declares the
name; an optional part is the one of the first profile that has it; the symbol rules are those
of all profiles one after the other. `Inherits` lists the parts.

The chain is put together from its far end, so the law is carried from a parent to its child:
`Inherits.root` is a profile that extends nothing, and `Inherits.overlay` one more profile on
top. `resolveAlong_eq_layered` says that resolution does just these steps: since all names are
different, no parent is ever taken for a cycle, and since the parents are different profiles that
are all found, there are not too many of them for the bound on the steps (`Chain.length_le`).
That bound goes by the number of profiles that the lookup can find (`FindsAmong`); a registry
gives the number of names that it has (`findsAmong_registry`).
-/

set_option autoImplicit false

namespace Polyglot

/-! ### Structures in layers -/

/-- A structure that was put together from others, the first of which counts most. -/
structure Structure.Joins (layers : List Structure) (s : Structure) : Prop where
  /-- The block rules are the first ones that there are. -/
  blocks : s.blocks = ((layers.map (·.blocks)).find? (!·.isEmpty)).getD []
  /-- The symbol rules are all of them in order. -/
  symbols : s.symbols = layers.flatMap (·.symbols)
  /-- The folding is the first one that there is. -/
  folding : s.folding = layers.findSome? (·.folding)

/-- A structure alone. -/
theorem Structure.joins_singleton (s : Structure) : s.Joins [s] where
  blocks := by
    rw [List.map_singleton, List.find?_singleton]
    cases h : s.blocks <;> rfl
  symbols := by rw [List.flatMap_singleton]
  folding := by
    rw [List.findSome?_cons, List.findSome?_nil]
    cases s.folding <;> rfl

/-- One more structure on top. Block rules and folding are replaced as a whole, and symbol rules are
put in front of the others. -/
theorem Structure.Joins.overlay {layers : List Structure} {lower : Structure}
    (h : lower.Joins layers) (upper : Structure) :
    (upper.overlay lower).Joins (upper :: layers) where
  blocks := by
    rw [List.map_cons, List.find?_cons]
    unfold Structure.overlay
    cases hblocks : upper.blocks with
    | nil => exact h.blocks
    | cons rule rules => rfl
  symbols := by
    rw [List.flatMap_cons, ← h.symbols]
    rfl
  folding := by
    rw [List.findSome?_cons, ← h.folding]
    unfold Structure.overlay
    cases upper.folding <;> rfl

namespace Profile

/-! ### What is inherited -/

/-- A profile with all that it extends, `parents` being its parent, the parent of that, and so
on. -/
structure Inherits (child : Profile) (parents : List Profile) (r : Profile) : Prop where
  /-- The name is the profile's own. -/
  name : r.name = child.name
  /-- The name to show is the profile's own. -/
  displayName : r.displayName = child.displayName
  /-- The file extensions are the profile's own. -/
  fileExtensions : r.fileExtensions = child.fileExtensions
  /-- The media types are the profile's own. -/
  mimeTypes : r.mimeTypes = child.mimeTypes
  /-- Nothing is left to extend. -/
  parent : r.parent = none
  /-- A class is the first one with its name; there are no others. -/
  charClasses : ∀ key, r.lexer.charClasses.find? key =
    (child :: parents).findSome? fun p => p.lexer.charClasses.find? key
  /-- A token type is the first one with its name; there are no others. -/
  tokenTypes : ∀ key, r.lexer.tokenTypes.find? key =
    (child :: parents).findSome? fun p => p.lexer.tokenTypes.find? key
  /-- A state is the first one with its name; there are no others. -/
  states : ∀ key, r.lexer.states.find? key =
    (child :: parents).findSome? fun p => p.lexer.states.find? key
  /-- The state to start in is the first one given. -/
  initialState : r.lexer.initialState = (child :: parents).findSome? (·.lexer.initialState)
  /-- The token types to pass over are the first ones given. -/
  skipTokens : r.lexer.skipTokens = (child :: parents).findSome? (·.lexer.skipTokens)
  /-- The measure of indentation is the first one given. -/
  indentation : r.lexer.indentation = (child :: parents).findSome? (·.lexer.indentation)
  /-- The grammar is the first one given. -/
  grammar : r.grammar = (child :: parents).findSome? (·.grammar)
  /-- The embedded languages are the first ones given. -/
  embeddedLanguages :
    r.embeddedLanguages = (child :: parents).findSome? (·.embeddedLanguages)
  /-- There is no structure just if no profile has one. -/
  structure_eq_none_iff : r.structure? = none ↔ ∀ p ∈ child :: parents, p.structure? = none
  /-- A structure is joined from all that there are. -/
  structure_joins : ∀ s ∈ r.structure?, s.Joins ((child :: parents).filterMap (·.structure?))

/-- The first value of an option over another is the first of both. All parts of a profile that are
options are inherited in this way, so they share the lemma. -/
theorem orElse_eq_findSome? {α : Type} {child : Profile} {rest : List Profile}
    {part : Profile → Option α} {lower : Option α} (h : lower = rest.findSome? part) :
    (part child <|> lower) = (child :: rest).findSome? part := by
  rw [List.findSome?_cons, ← h]
  cases part child <;> rfl

/-- The first entry under a key of a table over another is the first of both. Tables are inherited
entry by entry, so this is said for each key. -/
theorem find?_overlay_eq_findSome? {α : Type} {child : Profile} {rest : List Profile}
    {table : Profile → Table α} {lower : Table α} {key : String}
    (h : lower.find? key = rest.findSome? fun p => (table p).find? key) :
    ((table child).overlay lower).find? key =
      (child :: rest).findSome? fun p => (table p).find? key := by
  rw [Table.find?_overlay, List.findSome?_cons, ← h]
  cases (table child).find? key <;> rfl

/-- A profile that extends nothing. It has all from itself, and the first of one value is that
value. -/
theorem Inherits.root {p : Profile} (h : p.parent = none) : p.Inherits [] p := by
  have hfirst : ∀ {α : Type} (part : Profile → Option α), part p = [p].findSome? part := by
    -- of one profile the first one that has a part is this one
    intro α part
    rw [List.findSome?_cons, List.findSome?_nil]
    cases part p <;> rfl
  exact {
    name := rfl
    displayName := rfl
    fileExtensions := rfl
    mimeTypes := rfl
    parent := h
    charClasses := fun key => hfirst fun q => q.lexer.charClasses.find? key
    tokenTypes := fun key => hfirst fun q => q.lexer.tokenTypes.find? key
    states := fun key => hfirst fun q => q.lexer.states.find? key
    initialState := hfirst fun q => q.lexer.initialState
    skipTokens := hfirst fun q => q.lexer.skipTokens
    indentation := hfirst fun q => q.lexer.indentation
    grammar := hfirst fun q => q.grammar
    embeddedLanguages := hfirst fun q => q.embeddedLanguages
    structure_eq_none_iff := by
      rw [List.forall_mem_singleton]
    structure_joins := by
      intro s hs
      rw [List.filterMap_cons_some hs, List.filterMap_nil]
      exact s.joins_singleton }

/-- One more profile on top of a resolved parent. Names and descriptions come from the child alone.
Every other part is the child's or else the parent's, and by induction the parent's is the first one
of the rest. -/
theorem Inherits.overlay {parent r : Profile} {rest : List Profile}
    (h : parent.Inherits rest r) (child : Profile) :
    child.Inherits (parent :: rest) (child.overlay r) where
  name := rfl
  displayName := rfl
  fileExtensions := rfl
  mimeTypes := rfl
  parent := rfl
  charClasses := fun key => find?_overlay_eq_findSome? (h.charClasses key)
  tokenTypes := fun key => find?_overlay_eq_findSome? (h.tokenTypes key)
  states := fun key => find?_overlay_eq_findSome? (h.states key)
  initialState := orElse_eq_findSome? h.initialState
  skipTokens := orElse_eq_findSome? h.skipTokens
  indentation := orElse_eq_findSome? h.indentation
  grammar := orElse_eq_findSome? h.grammar
  embeddedLanguages := orElse_eq_findSome? h.embeddedLanguages
  structure_eq_none_iff := by
    rw [List.forall_mem_cons, ← h.structure_eq_none_iff]
    unfold Profile.overlay
    cases child.structure? <;> cases r.structure? <;> simp [Structure.overlayOption]
  structure_joins := by
    intro s hs
    have hs' : Structure.overlayOption child.structure? r.structure? = some s := hs
    cases hchild : child.structure? with
    | none =>
      rw [hchild] at hs'
      rw [List.filterMap_cons_none hchild]
      exact h.structure_joins s hs'
    | some upper =>
      rw [hchild] at hs'
      rw [List.filterMap_cons_some hchild]
      cases hr : r.structure? with
      | none =>
        -- no parent has a structure, so the profile's own stays as it is
        rw [hr] at hs'
        obtain rfl := Option.some.inj hs'
        rw [List.filterMap_eq_nil_iff.mpr (h.structure_eq_none_iff.mp hr)]
        exact upper.joins_singleton
      | some lower =>
        rw [hr] at hs'
        obtain rfl := Option.some.inj hs'
        exact (h.structure_joins lower hr).overlay upper

/-! ### Chains -/

/-- A profile and its parents, down to one that extends nothing. All have different names, and
`lookup` finds each parent under its name. -/
structure Chain (lookup : String → Option Profile) (child : Profile) (parents : List Profile) :
    Prop where
  /-- Each profile extends the next one by name. -/
  links : (child :: parents).IsChain fun p q => p.parent = some q.name
  /-- The last profile extends nothing. -/
  root : ∀ p ∈ (child :: parents).getLast?, p.parent = none
  /-- Each parent is found under its name. -/
  found : ∀ p ∈ parents, lookup p.name = some p
  /-- No two profiles have the same name. -/
  distinct : ((child :: parents).map (·.name)).Nodup

/-- Whatever a lookup is asked for, it finds one of at most `count` profiles. -/
def FindsAmong (lookup : String → Option Profile) (count : Nat) : Prop :=
  ∃ known : List Profile, known.length ≤ count ∧ ∀ name p, lookup name = some p → p ∈ known

/-- A chain has no more parents than there are profiles to find. So the bound on the steps, which is
the number of names, is never met along a chain. -/
theorem Chain.length_le {lookup : String → Option Profile} {count : Nat} {child : Profile}
    {parents : List Profile} (h : Chain lookup child parents) (hcount : FindsAmong lookup count) :
    parents.length ≤ count := by
  obtain ⟨known, hlength, hknown⟩ := hcount
  -- the parents have different names, so they are different profiles, and all of them are found
  have hdistinct : (parents.map (·.name)).Nodup := (List.nodup_cons.mp h.distinct).2
  have hnodup : parents.Nodup := List.Nodup.of_map _ hdistinct
  have hsubset : parents ⊆ known := fun p hp => hknown p.name p (h.found p hp)
  exact Nat.le_trans (hnodup.subperm hsubset).length_le hlength

/-- A profile over its parents, the last of which is taken as it is. -/
def layered : Profile → List Profile → Profile
  | child, [] => child
  | child, parent :: rest => child.overlay (layered parent rest)

/-- A profile over its parents has what it inherits from them, if the last one extends nothing. The
induction is on the parents. The last profile counts as resolved, because nothing is put under it.
-/
theorem inherits_layered {child : Profile} {parents : List Profile}
    (hroot : ∀ p ∈ (child :: parents).getLast?, p.parent = none) :
    child.Inherits parents (layered child parents) := by
  induction parents generalizing child with
  | nil => exact .root (hroot child rfl)
  | cons parent rest ih =>
    rw [List.getLast?_cons_cons] at hroot
    exact (ih hroot).overlay child

/-- Resolution along a chain puts each profile over its parents, `seen` being the names on the way
to the first one. The names of the chain are different from these and from each other, so no cycle
is found. The induction is on the parents, with the steps and the names growing with it. -/
theorem resolveAlong_eq_layered {lookup : String → Option Profile} {steps : Nat}
    {seen : List String} {child : Profile} {parents : List Profile}
    (hlinks : (child :: parents).IsChain fun p q => p.parent = some q.name)
    (hroot : ∀ p ∈ (child :: parents).getLast?, p.parent = none)
    (hfound : ∀ p ∈ parents, lookup p.name = some p)
    (hdistinct : (seen ++ (child :: parents).map (·.name)).Nodup)
    (hsteps : parents.length ≤ steps) :
    resolveAlong lookup steps seen child = .ok (layered child parents) := by
  induction parents generalizing steps seen child with
  | nil =>
    unfold resolveAlong
    rw [hroot child rfl]
    rfl
  | cons parent rest ih =>
    obtain ⟨hparent, hrest⟩ := List.isChain_cons_cons.mp hlinks
    rw [List.getLast?_cons_cons] at hroot
    -- with the first profile on the way, the names of the others are still different from it
    have hmoved : ((seen ++ [child.name]) ++ (parent :: rest).map (·.name)).Nodup := by
      rw [List.append_assoc]
      exact hdistinct
    have hnew : (seen ++ [child.name]).contains parent.name = false := by
      rw [← Bool.not_eq_true, List.contains_iff_mem]
      intro hmem
      exact (List.nodup_append.mp hmoved).2.2 _ hmem _ List.mem_cons_self rfl
    cases steps with
    | zero => cases hsteps
    | succ steps =>
      unfold resolveAlong
      simp only [hparent, hnew, Bool.false_eq_true, if_false, hfound parent List.mem_cons_self]
      rw [ih hrest hroot (fun p hp => hfound p (List.mem_cons_of_mem _ hp)) hmoved
        (Nat.le_of_succ_le_succ hsteps)]
      rfl

/-- A profile at the start of a chain is resolved to what the chain comes to. Nothing was seen
before the first profile, so only the chain itself has to be free of repetitions. -/
theorem Chain.resolve_eq {lookup : String → Option Profile} {count : Nat} {child : Profile}
    {parents : List Profile} (h : Chain lookup child parents) (hlength : parents.length ≤ count) :
    resolve lookup count child = .ok (layered child parents) := by
  refine resolveAlong_eq_layered h.links h.root h.found ?_ ?_
  · rw [List.nil_append]
    exact h.distinct
  · omega

/-- A profile at the start of a chain is resolved, and has what it inherits from the chain. -/
theorem resolve_chain {lookup : String → Option Profile} {count : Nat} {child : Profile}
    {parents : List Profile} (hcount : FindsAmong lookup count)
    (h : Chain lookup child parents) :
    ∃ r, resolve lookup count child = .ok r ∧ child.Inherits parents r := by
  have hlength := h.length_le hcount
  refine ⟨layered child parents, h.resolve_eq hlength, ?_⟩
  exact inherits_layered h.root

/-- What a registry finds under a name, exactly or else in lower case, it has under some name. Which
one does not matter for counting. -/
theorem exists_key_of_findName? {r : Registry} {name : String} {entry : Shared}
    (h : r.findName? name = some entry) : ∃ key, r.byName.find? key = some entry := by
  unfold Registry.findName? at h
  cases hexact : r.byName.find? name with
  | some other =>
    rw [hexact] at h
    exact ⟨name, hexact.trans h⟩
  | none =>
    rw [hexact] at h
    exact ⟨lowercaseName name, h⟩

/-- A registry finds parents among the profiles that have a name in it. So for a registry the bound
on the steps is no restriction. -/
theorem findsAmong_registry (r : Registry) :
    FindsAmong (fun parent => (r.findName? parent).map (·.profile)) r.byName.size := by
  refine ⟨r.byName.entries.map (·.2.profile), (List.length_map _).le, ?_⟩
  intro name p hp
  obtain ⟨entry, hentry, rfl⟩ := Option.map_eq_some_iff.mp hp
  obtain ⟨key, hfind⟩ := exists_key_of_findName? hentry
  exact List.mem_map.mpr ⟨(key, entry), Table.find?_eq_some_iff.mp hfind, rfl⟩

/-- A profile that extends TypeScript, which extends JavaScript, in a registry of the three. -/
theorem resolve_chain_typescript :
    ∃ (r : Registry) (strict : Profile),
      r = Registry.registerAll {} [Builtin.javascript, Builtin.typescript, strict] ∧
      strict = {
        name := "strict"
        lexer := { skipTokens := some [] }
        parent := some "typescript" } ∧
      FindsAmong (fun parent => (r.findName? parent).map (·.profile)) r.byName.size ∧
      Chain (fun parent => (r.findName? parent).map (·.profile)) strict
        [Builtin.typescript, Builtin.javascript] ∧
      ∃ resolved, r.inherited strict = .ok resolved ∧
        strict.Inherits [Builtin.typescript, Builtin.javascript] resolved := by
  refine ⟨_, _, rfl, rfl, findsAmong_registry _, ?hchain,
    resolve_chain (findsAmong_registry _) ?hchain⟩
  exact {
    links := .cons_cons rfl (.cons_cons rfl (.singleton _))
    root := by rintro p ⟨⟩; rfl
    found := List.forall_mem_cons.mpr ⟨rfl, List.forall_mem_singleton.mpr rfl⟩
    distinct := by decide }

end Profile

end Polyglot
