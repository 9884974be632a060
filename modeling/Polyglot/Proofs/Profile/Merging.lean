import Mathlib.Logic.Relation
import Polyglot.Lexer.Basic
import Polyglot.Proofs.Profile.Inheritance
import Polyglot.Proofs.Profile.Resolution

/-!
# `Polyglot.Proofs.Profile.Merging`: how profiles are put over each other

`overlay_associative`: of three profiles it makes no difference which two are put over each other
first, and a profile that declares nothing changes nothing but names and descriptions. So what a
chain of profiles comes to does not depend on how it is cut into profiles, and a profile that
declares nothing cuts every text into tokens as its parent does.

Each part of a profile has a policy of its own, and each policy is associative: the tables because
a key is looked up in the upper one first, the block rules because the first list with a rule in
it counts (`firstRules_assoc`), the structures because one that is absent is not looked into.

`Collapses` is one step of putting a chain into fewer profiles: two adjacent ones are replaced by
the upper one over the lower one, which then extends what the lower one did (`joined`). Such a
step keeps a chain a chain (`Collapses.linked`) and keeps what it comes to
(`Collapses.stacked_eq`), and so do any number of steps.
-/

set_option autoImplicit false

namespace Polyglot

/-! ### Three in a row -/

/-- It makes no difference which two of three lexers are put over each other first. Each part is a
table or an option, and putting these over each other is associative. -/
theorem LexerConfig.overlay_assoc (a b c : LexerConfig) :
    (a.overlay b).overlay c = a.overlay (b.overlay c) := by
  simp only [overlay, Table.overlay_assoc, Option.orElse_eq_orElse, Option.orElse_eq_or,
    Option.or_assoc]

/-- The first list with a rule in it, of three. Block rules are inherited as a whole, from the first
profile that has any. -/
theorem firstRules_assoc (a b c : List BlockRule) :
    (if (if a.isEmpty then b else a).isEmpty then c else if a.isEmpty then b else a) =
      if a.isEmpty then (if b.isEmpty then c else b) else a := by
  cases a with
  | nil => rfl
  | cons rule rules => rfl

/-- It makes no difference which two of three structures are put over each other first. -/
theorem Structure.overlay_assoc (a b c : Structure) :
    (a.overlay b).overlay c = a.overlay (b.overlay c) := by
  have hblocks := firstRules_assoc a.blocks b.blocks c.blocks
  have hsymbols := List.append_assoc a.symbols b.symbols c.symbols
  have hfolding : (a.folding.or b.folding).or c.folding = a.folding.or (b.folding.or c.folding) :=
    Option.or_assoc
  simp only [overlay, Option.orElse_eq_orElse, Option.orElse_eq_or, hsymbols, hfolding]
  congr 1

/-- It makes no difference which two of three optional structures are put over each other first.
Where one is missing, the other two are put over each other, and where none is, it is the law for
structures. -/
theorem Structure.overlayOption_assoc (a b c : Option Structure) :
    overlayOption (overlayOption a b) c = overlayOption a (overlayOption b c) := by
  cases a with
  | none => rfl
  | some a =>
    cases b with
    | none => rfl
    | some b =>
      cases c with
      | none => rfl
      | some c => exact congrArg some (overlay_assoc a b c)

/-- An optional structure over none stays as it is. -/
theorem Structure.overlayOption_none (a : Option Structure) : overlayOption a none = a := by
  cases a with
  | none => rfl
  | some a => rfl

/-- A lexer over one that declares nothing stays as it is. For tables this is shown entry by entry,
because equal tables are those that find the same under every key. -/
theorem LexerConfig.overlay_empty (a : LexerConfig) : a.overlay {} = a := by
  have htable : ∀ {α : Type} (t : Table α), t.overlay ∅ = t := by
    intro α t
    apply Table.ext_of_find?
    intro key
    rw [Table.find?_overlay]
    exact Option.or_none
  simp only [overlay, htable, Option.orElse_eq_orElse, Option.orElse_eq_or, Option.or_none]

namespace Profile

/-- It makes no difference which two of three profiles are put over each other first. -/
theorem overlay_assoc (a b c : Profile) : (a.overlay b).overlay c = a.overlay (b.overlay c) := by
  simp only [overlay, LexerConfig.overlay_assoc, Structure.overlayOption_assoc,
    Option.orElse_eq_orElse, Option.orElse_eq_or, Option.or_assoc]

/-! ### Profiles that declare nothing -/

/-- A profile that has only names and descriptions. -/
structure DeclaresNothing (p : Profile) : Prop where
  /-- Its lexer is empty. -/
  lexer : p.lexer = {}
  /-- It has no structure. -/
  structure? : p.structure? = none
  /-- It has no grammar. -/
  grammar : p.grammar = none
  /-- It has no languages inside it. -/
  embeddedLanguages : p.embeddedLanguages = none

/-- A profile with the names and descriptions of another one. -/
def renamed (p names : Profile) : Profile where
  name := names.name
  displayName := names.displayName
  fileExtensions := names.fileExtensions
  mimeTypes := names.mimeTypes
  lexer := p.lexer
  structure? := p.structure?
  grammar := p.grammar
  embeddedLanguages := p.embeddedLanguages
  parent := none

/-- A profile that declares nothing gives its names to the one that it is put over. -/
theorem DeclaresNothing.overlay_eq {child : Profile} (h : child.DeclaresNothing) (p : Profile) :
    child.overlay p = p.renamed child := by
  simp only [overlay, h.lexer, h.structure?, h.grammar, h.embeddedLanguages]
  rfl

/-- A profile over one that declares nothing is as it was, and extends nothing. Putting it over
anything takes its parent away, so it is not a unit on this side in the strict sense. -/
theorem DeclaresNothing.overlay_self {base : Profile} (h : base.DeclaresNothing) (p : Profile) :
    p.overlay base = p.renamed p := by
  simp only [overlay, renamed, h.lexer, h.structure?, h.grammar, h.embeddedLanguages,
    LexerConfig.overlay_empty, Structure.overlayOption_none, Option.orElse_eq_orElse,
    Option.orElse_eq_or, Option.or_none]

/-! ### Chains -/

/-- A list of profiles of which each extends the next one, and the last extends nothing. -/
structure Linked (chain : List Profile) : Prop where
  /-- Each profile extends the next one by name. -/
  links : chain.IsChain fun p q => p.parent = some q.name
  /-- The last profile extends nothing. -/
  root : ∀ p ∈ chain.getLast?, p.parent = none
  /-- No two profiles have the same name. -/
  distinct : (chain.map (·.name)).Nodup

/-- What a chain comes to: each profile over the ones that follow it. -/
def stacked : List Profile → Option Profile
  | [] => none
  | child :: parents => some (layered child parents)

/-- A profile on top of a chain. The last profile of a chain is taken as it is, which is why the
chain below must not be empty. -/
theorem stacked_cons {p : Profile} {chain : List Profile} (h : chain ≠ []) :
    stacked (p :: chain) = (stacked chain).map p.overlay := by
  cases chain with
  | nil => exact absurd rfl h
  | cons child parents => rfl

/-- One profile for two, the upper of which extends the lower one. -/
def joined (upper lower : Profile) : Profile :=
  { upper.overlay lower with parent := lower.parent }

/-- The second chain has one profile in the place of two adjacent ones of the first. -/
inductive Collapses : List Profile → List Profile → Prop where
  /-- The two are the first ones. -/
  | here (upper lower : Profile) (rest : List Profile) :
      Collapses (upper :: lower :: rest) (upper.joined lower :: rest)
  /-- The two come later. -/
  | later (p : Profile) {long short : List Profile} (h : Collapses long short) :
      Collapses (p :: long) (p :: short)

namespace Collapses

variable {long short : List Profile}

/-- Neither chain is empty, and they start with the same name. A joined profile has the name of the
upper one, under which the profile in front of it looks it up. -/
theorem head_name (h : Collapses long short) :
    ∃ p rest q rest', long = p :: rest ∧ short = q :: rest' ∧ p.name = q.name := by
  cases h with
  | here upper lower rest => exact ⟨upper, lower :: rest, upper.joined lower, rest, rfl, rfl, rfl⟩
  | later p h => exact ⟨p, _, p, _, rfl, rfl, rfl⟩

/-- The names of the shorter chain are some of those of the longer one, in the same order. So they
differ from each other as they did before. -/
theorem names_sublist (h : Collapses long short) :
    (short.map (·.name)).Sublist (long.map (·.name)) := by
  induction h with
  | here upper lower rest => exact ((List.Sublist.refl _).cons lower.name).cons_cons upper.name
  | later p h ih => exact ih.cons_cons p.name

/-- The shorter chain is a chain. The joined profile extends what the lower one did, and so the
links in front of it and behind it hold. -/
theorem linked (h : Collapses long short) (hlong : Linked long) : Linked short := by
  have hdistinct := hlong.distinct.sublist h.names_sublist
  suffices hends : (short.IsChain fun p q => p.parent = some q.name) ∧
      ∀ p ∈ short.getLast?, p.parent = none from ⟨hends.1, hends.2, hdistinct⟩
  obtain ⟨hlinks, hroot, -⟩ := hlong
  clear hdistinct
  induction h with
  | here upper lower rest =>
    have hrest := (List.isChain_cons_cons.mp hlinks).2
    rw [List.getLast?_cons_cons] at hroot
    -- the joined profile extends what the lower one extends
    cases rest with
    | nil =>
      have hlower : lower.parent = none := hroot lower rfl
      refine ⟨.singleton _, ?_⟩
      rintro p ⟨⟩
      exact hlower
    | cons next rest =>
      obtain ⟨hnext, hrest⟩ := List.isChain_cons_cons.mp hrest
      rw [List.getLast?_cons_cons] at hroot
      refine ⟨.cons_cons hnext hrest, ?_⟩
      rw [List.getLast?_cons_cons]
      exact hroot
  | later p h ih =>
    obtain ⟨q, rest, q', rest', rfl, rfl, hname⟩ := h.head_name
    obtain ⟨hparent, hlinks⟩ := List.isChain_cons_cons.mp hlinks
    rw [List.getLast?_cons_cons] at hroot
    obtain ⟨hlinks', hroot'⟩ := ih hlinks hroot
    refine ⟨.cons_cons (hname ▸ hparent) hlinks', ?_⟩
    rw [List.getLast?_cons_cons]
    exact hroot'

/-- The shorter chain comes to the same. Where two profiles are joined, this is associativity. If
the lower one is the last, joining them is already what the chain comes to. -/
theorem stacked_eq (h : Collapses long short) (hroot : ∀ p ∈ long.getLast?, p.parent = none) :
    stacked long = stacked short := by
  induction h with
  | here upper lower rest =>
    cases rest with
    | nil =>
      -- the joined profile is the root and keeps its missing parent
      have hlower : lower.parent = none := hroot lower rfl
      show some (upper.overlay lower) = some { upper.overlay lower with parent := lower.parent }
      rw [hlower]
      rfl
    | cons next rest =>
      show some (upper.overlay (lower.overlay (layered next rest))) =
        some ((upper.overlay lower).overlay (layered next rest))
      rw [overlay_assoc]
  | later p h ih =>
    obtain ⟨q, rest, q', rest', rfl, rfl, -⟩ := h.head_name
    rw [List.getLast?_cons_cons] at hroot
    rw [stacked_cons (List.cons_ne_nil _ _), stacked_cons (List.cons_ne_nil _ _), ih hroot]

end Collapses

/-- After any number of profiles were joined, the chain is still one and comes to the same. The
induction is on the number of joins. -/
theorem linked_and_stacked_eq {long short : List Profile}
    (h : Relation.ReflTransGen Collapses long short) (hlong : Linked long) :
    Linked short ∧ stacked long = stacked short := by
  induction h with
  | refl => exact ⟨hlong, rfl⟩
  | tail hfirst hlast ih =>
    obtain ⟨hlinked, heq⟩ := ih
    exact ⟨hlast.linked hlinked, heq.trans (hlast.stacked_eq hlinked.root)⟩

/-- A chain and a shorter one that it was collapsed to are resolved to the same profile. They may be
looked up in different ways, as the joined profiles have to be registered in the place of the single
ones. -/
theorem resolve_eq_of_collapses {lookup lookup' : String → Option Profile} {count count' : Nat}
    {child child' : Profile} {parents parents' : List Profile}
    (hcount : parents.length ≤ count) (hcount' : parents'.length ≤ count')
    (hchain : Chain lookup child parents)
    (hcollapse : Relation.ReflTransGen Collapses (child :: parents) (child' :: parents'))
    (hfound : ∀ p ∈ parents', lookup' p.name = some p) :
    ∃ r, resolve lookup count child = .ok r ∧ resolve lookup' count' child' = .ok r := by
  have hlong : Linked (child :: parents) := ⟨hchain.links, hchain.root, hchain.distinct⟩
  obtain ⟨hshort, hstacked⟩ := linked_and_stacked_eq hcollapse hlong
  have hsame : layered child parents = layered child' parents' := Option.some.inj hstacked
  have hchain' : Chain lookup' child' parents' :=
    ⟨hshort.links, hshort.root, hfound, hshort.distinct⟩
  refine ⟨layered child parents, hchain.resolve_eq hcount, ?_⟩
  rw [hsame]
  exact hchain'.resolve_eq hcount'

end Profile

/-! ### Tokens -/

/-- A compiled lexer depends on the language only by bearing its name. This is said of faults and
not of errors, because an error tells the language. -/
theorem Lexer.compileFault_language (language other : String) (config : LexerConfig) :
    compileFault other config =
      (compileFault language config).map ({ · with language := other }) := by
  unfold compileFault
  dsimp only
  cases stateNumber _ StateRole.initial config.initialName with
  | error e => rfl
  | ok initial =>
    cases (declaredStates config).mapM (compileState config _) with
    | error e => rfl
    | ok states => rfl

/-- The name of the language makes no difference to the tokens. The induction follows the run, in
which the name is never read. -/
theorem Lexer.tokenize_language (lexer : Lexer) (other source : String) :
    ({ lexer with language := other } : Lexer).tokenize source = lexer.tokenize source := by
  show tokensFrom { lexer with language := other } _ _ = tokensFrom lexer _ _
  generalize (⟨lexer.initial, []⟩ : StateStack Nat) = stack
  generalize Cursor.ofString source = cursor
  fun_induction lexer.tokensFrom stack cursor with
  | case1 stack cursor hend => rw [tokensFrom, dif_pos hend]
  | case2 stack cursor hmore next ih =>
    rw [tokensFrom, dif_neg hmore]
    exact congrArg (next.1 :: ·) ih

namespace Profile

/-- The tokens of a text under a resolved profile, or what is wrong with its lexer. -/
def tokens (p : Profile) (source : String) : Except Fault (List Token) :=
  (Lexer.compileFault p.name p.lexer).map (·.tokenize source)

/-- Profiles with the same lexer cut a text into the same tokens. Their names may differ. -/
theorem tokens_congr {p q : Profile} (h : p.lexer = q.lexer) (source : String) :
    p.tokens source = q.tokens source := by
  unfold tokens
  rw [h, Lexer.compileFault_language q.name p.name]
  cases Lexer.compileFault q.name q.lexer with
  | error e => rfl
  | ok lexer => exact congrArg Except.ok (lexer.tokenize_language p.name source)

/-- A resolved profile that declares nothing has all but its names from its parent. The parent is
resolved by itself, so the walk to it is one step shorter. -/
theorem DeclaresNothing.resolve_eq {lookup : String → Option Profile} {count : Nat}
    {child resolved : Profile} {name : String} (h : child.DeclaresNothing)
    (hparent : child.parent = some name) (hresolved : resolve lookup count child = .ok resolved) :
    ∃ parent above, lookup name = some parent ∧ resolve lookup count parent = .ok above ∧
      resolved = above.renamed child := by
  obtain ⟨parent, above, hlookup, habove, rfl⟩ := exists_above_of_resolve hresolved hparent
  exact ⟨parent, above, hlookup, habove, h.overlay_eq above⟩

/-! ### All together -/

/-- Putting profiles over each other is associative, and a profile that declares nothing changes
nothing but names and descriptions. So a chain of profiles may be cut in any way, and a profile
that declares nothing cuts every text into tokens as its parent does. -/
theorem overlay_associative :
    (∀ a b c : Profile, (a.overlay b).overlay c = a.overlay (b.overlay c)) ∧
    (∀ base p : Profile, base.DeclaresNothing →
      base.overlay p = p.renamed base ∧ p.overlay base = p.renamed p) ∧
    (∀ (lookup lookup' : String → Option Profile) (count count' : Nat) (child child' : Profile)
      (parents parents' : List Profile), parents.length ≤ count → parents'.length ≤ count' →
      Chain lookup child parents →
      Relation.ReflTransGen Collapses (child :: parents) (child' :: parents') →
      (∀ p ∈ parents', lookup' p.name = some p) →
      ∃ r, resolve lookup count child = .ok r ∧ resolve lookup' count' child' = .ok r) ∧
    (∀ (lookup : String → Option Profile) (count : Nat) (child resolved : Profile) (name : String),
      child.DeclaresNothing → child.parent = some name →
      resolve lookup count child = .ok resolved →
      ∃ parent above, lookup name = some parent ∧ resolve lookup count parent = .ok above ∧
        resolved = above.renamed child ∧
        ∀ source, resolved.tokens source = above.tokens source) := by
  refine ⟨overlay_assoc, ?unit, ?cut, ?tokens⟩
  case unit =>
    intro base p hbase
    exact ⟨hbase.overlay_eq p, hbase.overlay_self p⟩
  case cut =>
    intro _ _ _ _ _ _ _ _ hcount hcount' hchain hcollapse hfound
    exact resolve_eq_of_collapses hcount hcount' hchain hcollapse hfound
  case tokens =>
    intro lookup count child resolved name hnothing hparent hresolved
    obtain ⟨parent, above, hlookup, habove, heq⟩ := hnothing.resolve_eq hparent hresolved
    have hlexer : resolved.lexer = above.lexer := by rw [heq, renamed]
    exact ⟨parent, above, hlookup, habove, heq, tokens_congr hlexer⟩

/-- Another name for TypeScript, and TypeScript joined with JavaScript, which it extends. -/
theorem overlay_associative_typescript :
    ∃ other : Profile, other = { name := "ts", parent := some "typescript" } ∧
      ∃ joined : Profile, joined = Builtin.typescript.joined Builtin.javascript ∧
      Relation.ReflTransGen Collapses [other, Builtin.typescript, Builtin.javascript]
        [other, joined] ∧
      ∃ r, resolve (byName? [Builtin.javascript, Builtin.typescript, other]) 3 other = .ok r ∧
        resolve (byName? [other, joined]) 2 other = .ok r ∧
        ∃ parent above, byName? [other, joined] "typescript" = some parent ∧
          resolve (byName? [other, joined]) 2 parent = .ok above ∧ r = above.renamed other ∧
          ∀ source, r.tokens source = above.tokens source := by
  obtain ⟨-, -, hcut, htokens⟩ := overlay_associative
  refine ⟨_, rfl, _, rfl, ?joined, ?resolved⟩
  case joined => exact .single (.later _ (.here _ _ _))
  case resolved =>
    have hchain : Chain (byName? [Builtin.javascript, Builtin.typescript,
        { name := "ts", parent := some "typescript" }])
        { name := "ts", parent := some "typescript" }
        [Builtin.typescript, Builtin.javascript] := {
      links := .cons_cons rfl (.cons_cons rfl (.singleton _))
      root := by rintro p ⟨⟩; rfl
      found := List.forall_mem_cons.mpr ⟨rfl, List.forall_mem_singleton.mpr rfl⟩
      distinct := by decide }
    have hfound : byName? [{ name := "ts", parent := some "typescript" },
        Builtin.typescript.joined Builtin.javascript] "typescript" =
          some (Builtin.typescript.joined Builtin.javascript) := rfl
    obtain ⟨r, hlong, hshort⟩ := hcut _ _ 3 2 _ _ _ _ (by decide) (by decide) hchain
      (.single (.later _ (.here _ _ _))) (List.forall_mem_singleton.mpr hfound)
    exact ⟨r, hlong, hshort, htokens _ _ _ r _ ⟨rfl, rfl, rfl, rfl⟩ rfl hshort⟩

end Profile

end Polyglot
