import Mathlib.Data.List.Lex
import Polyglot.Symbol.Pattern

/-!
# `Polyglot.Proofs.Symbol.Search`: what a search for a pattern finds

`TokenView.Matches` says what it is for a pattern to match from a place on: which choices are
made on the way, and which tokens are bound. Where a pattern leaves a choice, one is tried before
the other (`Choice.Before`), so the ways of matching are in the order of their choices, the first
choice counting most. `TokenView.First` is the first of them.

The search goes from choice to choice with all bindings in one array, and takes back what it
added when it fails. `search_eq` says that the array only gains the bindings of a way of matching
or none, so that the search can be read as a plain function of the pattern and the place
(`bindings?`). That function answers with the first way (`answers_bindings?`), and if it has no
answer there is none: an alternative of a step may be settled at once, and nothing is lost by it,
because the rest of the pattern does not depend on which one it was.

`search_finds_first` puts these together for the search and for the matches that are made of its
bindings.
-/

set_option autoImplicit false

namespace Polyglot

/-! ### Ways of matching -/

/-- What is decided where a pattern leaves a choice. -/
inductive Choice where
  /-- An optional step binds a token. -/
  | take
  /-- An optional step is left out. -/
  | leave
  /-- A skip goes on at a place. -/
  | resume (place : Nat)
deriving DecidableEq

/-- A choice is tried before another one: a token is bound before it is left out, and near places
come before far ones. -/
inductive Choice.Before : Choice → Choice → Prop where
  /-- Binding comes before leaving out. -/
  | take_leave : Before .take .leave
  /-- Near comes before far. -/
  | nearer {i j : Nat} (h : i < j) : Before (.resume i) (.resume j)

namespace TokenView

/-- A step binds the token at an index: it is not claimed, and it has the type of the step and
its value, if one is given. -/
structure Binds (view : TokenView) (step : TokenStep) (index : Nat) : Prop where
  /-- No claim has the index. -/
  free : ∀ claim ∈ view.claims, ¬ (claim.1 ≤ index ∧ index ≤ claim.2)
  /-- There is such a token. -/
  token : ∃ token, view.tokens[index]? = some token ∧ token.type = step.type ∧
    ∀ value ∈ step.value, token.value = value

/-- A step is the first one of some alternatives that binds the token at an index. -/
def FirstBinds (view : TokenView) (steps : List TokenStep) (step : TokenStep) (index : Nat) :
    Prop :=
  view.Binds step index ∧ ∃ before after, steps = before ++ step :: after ∧
    ∀ other ∈ before, ¬ view.Binds other index

/-- A pattern matches from a place on with some choices and some bindings. -/
inductive Matches (view : TokenView) :
    List PatternStep → Nat → List Choice → List Binding → Prop where
  /-- There is nothing to match. -/
  | nil (place : Nat) : Matches view [] place [] []
  /-- A token is bound. -/
  | token {step : TokenStep} {rest : List PatternStep} {place : Nat} {choices : List Choice}
      {bound : List Binding} (h : view.Binds step place)
      (hrest : Matches view rest (place + 1) choices bound) :
      Matches view (.token step :: rest) place choices (⟨place, step.capture⟩ :: bound)
  /-- An optional token is bound. -/
  | take {step : TokenStep} {rest : List PatternStep} {place : Nat} {choices : List Choice}
      {bound : List Binding} (h : view.Binds step place)
      (hrest : Matches view rest (place + 1) choices bound) :
      Matches view (.optional step :: rest) place (.take :: choices)
        (⟨place, step.capture⟩ :: bound)
  /-- An optional token is left out. -/
  | leave {step : TokenStep} {rest : List PatternStep} {place : Nat} {choices : List Choice}
      {bound : List Binding} (hrest : Matches view rest place choices bound) :
      Matches view (.optional step :: rest) place (.leave :: choices) bound
  /-- A token is bound by the first alternative that can. -/
  | anyOf {steps : List TokenStep} {step : TokenStep} {rest : List PatternStep} {place : Nat}
      {choices : List Choice} {bound : List Binding} (h : view.FirstBinds steps step place)
      (hrest : Matches view rest (place + 1) choices bound) :
      Matches view (.anyOf steps :: rest) place choices (⟨place, step.capture⟩ :: bound)
  /-- A skip at the end of the pattern matches anywhere. -/
  | lastSkip (max : Option Nat) (place : Nat) : Matches view [.skip max] place [] []
  /-- Any other skip goes on at one of so many places that have a token. -/
  | skip {max : Option Nat} {rest : List PatternStep} {place next : Nat} {choices : List Choice}
      {bound : List Binding} (hmore : rest ≠ []) (hnear : place ≤ next)
      (hfar : next < min (place + max.getD view.defaultSkip) view.tokens.size)
      (hrest : Matches view rest next choices bound) :
      Matches view (.skip max :: rest) place (.resume next :: choices) bound

/-- The first way in which a pattern matches from a place on. -/
structure First (view : TokenView) (pattern : List PatternStep) (place : Nat)
    (choices : List Choice) (bound : List Binding) : Prop where
  /-- It is a way of matching. -/
  matched : view.Matches pattern place choices bound
  /-- The choices of any other way come later. -/
  least : ∀ choices' bound', view.Matches pattern place choices' bound' →
    choices' = choices ∨ List.Lex Choice.Before choices choices'

variable {view : TokenView}

/-! ### Steps and tokens -/

/-- A token is accepted just if the step binds it. The program tests the claims and then the token;
`Binds` says the same in a form that can be taken apart. -/
theorem accepts_iff {step : TokenStep} {index : Nat} :
    view.accepts step index = true ↔ view.Binds step index := by
  have hfree : (!view.isClaimed index) = true ↔
      ∀ claim ∈ view.claims, ¬ (claim.1 ≤ index ∧ index ≤ claim.2) := by
    simp [isClaimed]
  have htoken : (view.tokens[index]?).any step.accepts = true ↔
      ∃ token, view.tokens[index]? = some token ∧ token.type = step.type ∧
        ∀ value ∈ step.value, token.value = value := by
    cases view.tokens[index]? with
    | none => simp
    | some token =>
      cases hvalue : step.value with
      | none => simp [TokenStep.accepts, hvalue]
      | some value => simp [TokenStep.accepts, hvalue, @eq_comm _ value]
  rw [accepts, Bool.and_eq_true, hfree, htoken]
  exact ⟨fun ⟨hfree, htoken⟩ => ⟨hfree, htoken⟩, fun h => ⟨h.free, h.token⟩⟩

/-- A token that is bound is there. -/
theorem Binds.lt_size {step : TokenStep} {index : Nat} (h : view.Binds step index) :
    index < view.tokens.size := by
  obtain ⟨token, htoken, -⟩ := h.token
  exact (Array.getElem?_eq_some_iff.mp htoken).choose

/-- The alternative that is found is the first one that binds. A step with several alternatives
takes this one and never comes back for another, because all of them go on at the same place. -/
theorem find?_accepts_eq_some_iff {steps : List TokenStep} {step : TokenStep} {index : Nat} :
    steps.find? (fun step => view.accepts step index) = some step ↔
      view.FirstBinds steps step index := by
  rw [List.find?_eq_some_iff_append, accepts_iff]
  simp only [Bool.not_eq_true', ← Bool.not_eq_true, accepts_iff]
  rfl

/-- Two alternatives that are the first to bind are the same. Both are what the program finds, so
there is nothing to compare between the two lists in front of them. -/
theorem FirstBinds.unique {steps : List TokenStep} {step step' : TokenStep} {index : Nat}
    (h : view.FirstBinds steps step index) (h' : view.FirstBinds steps step' index) :
    step = step' := by
  rw [← find?_accepts_eq_some_iff] at h h'
  exact Option.some.inj (h.symm.trans h')

/-- The places of a skip are the next ones that have a token. So a skip that stands behind the last
token has no place at all, whatever it may skip. -/
theorem mem_skipPlaces_iff {max : Option Nat} {place next : Nat} :
    next ∈ view.skipPlaces max place ↔
      place ≤ next ∧ next < min (place + max.getD view.defaultSkip) view.tokens.size := by
  rw [skipPlaces, List.mem_range'_1]
  omega

/-! ### The first way -/

namespace Matches

variable {pattern : List PatternStep} {place : Nat} {choices : List Choice}
  {bound bound' : List Binding}

/-- The choices of a way of matching say what is bound. Apart from them a pattern is deterministic:
the alternatives of a step are taken in order, and the first one that binds leaves no choice. -/
theorem bound_unique (h : view.Matches pattern place choices bound)
    (h' : view.Matches pattern place choices bound') : bound = bound' := by
  induction h generalizing bound' with
  | nil => cases h'; rfl
  | token _ _ ih =>
    cases h' with
    | token _ hrest' => rw [ih hrest']
  | take _ _ ih =>
    cases h' with
    | take _ hrest' => rw [ih hrest']
  | leave _ ih =>
    cases h' with
    | leave hrest' => exact ih hrest'
  | anyOf h _ ih =>
    -- the choice of a step is its first alternative that fits
    cases h' with
    | anyOf h' hrest' =>
      cases h.unique h'
      rw [ih hrest']
  | lastSkip => cases h'; rfl
  | skip _ _ _ _ ih =>
    cases h' with
    | skip _ _ _ hrest' => exact ih hrest'

/-- The tokens that are bound are at or behind the place, and each is behind the one before. A
binding goes on at the next place, and nothing ever goes back. -/
theorem sorted (h : view.Matches pattern place choices bound) :
    (bound.map (·.index)).Pairwise (· < ·) ∧ ∀ b ∈ bound, place ≤ b.index := by
  -- a binding at the place, before others behind it
  have hcons : ∀ {place : Nat} {capture : Option String} {bound : List Binding},
      ((bound.map (·.index)).Pairwise (· < ·) ∧ ∀ b ∈ bound, place + 1 ≤ b.index) →
      (((⟨place, capture⟩ :: bound).map (·.index)).Pairwise (· < ·) ∧
        ∀ b ∈ (⟨place, capture⟩ : Binding) :: bound, place ≤ b.index) := by
    rintro place capture bound ⟨hsorted, hbehind⟩
    refine ⟨List.pairwise_cons.mpr ⟨?_, hsorted⟩, List.forall_mem_cons.mpr ⟨Nat.le_refl _, ?_⟩⟩
    · intro index hindex
      obtain ⟨b, hb, rfl⟩ := List.mem_map.mp hindex
      exact hbehind b hb
    · exact fun b hb => Nat.le_of_succ_le (hbehind b hb)
  induction h with
  | nil => exact ⟨List.Pairwise.nil, fun _ hb => nomatch hb⟩
  | token _ _ ih => exact hcons ih
  | take _ _ ih => exact hcons ih
  | leave _ ih => exact ih
  | anyOf _ _ ih => exact hcons ih
  | lastSkip => exact ⟨List.Pairwise.nil, fun _ hb => nomatch hb⟩
  | skip _ hnear _ _ ih => exact ⟨ih.1, fun b hb => Nat.le_trans hnear (ih.2 b hb)⟩

/-- The tokens that are bound are there and not claimed. A skip may pass over claimed tokens, and it
may go on at one, but a step that binds will not take it. -/
theorem free (h : view.Matches pattern place choices bound) :
    ∀ b ∈ bound, b.index < view.tokens.size ∧
      ∀ claim ∈ view.claims, ¬ (claim.1 ≤ b.index ∧ b.index ≤ claim.2) := by
  induction h with
  | nil => exact fun _ hb => nomatch hb
  | token h _ ih => exact List.forall_mem_cons.mpr ⟨⟨h.lt_size, h.free⟩, ih⟩
  | take h _ ih => exact List.forall_mem_cons.mpr ⟨⟨h.lt_size, h.free⟩, ih⟩
  | leave _ ih => exact ih
  | anyOf h _ ih => exact List.forall_mem_cons.mpr ⟨⟨h.1.lt_size, h.1.free⟩, ih⟩
  | lastSkip => exact fun _ hb => nomatch hb
  | skip _ _ _ _ ih => exact ih

end Matches

/-- No choice comes before one that comes before it. -/
instance : Std.Asymm Choice.Before where
  asymm := by
    intro a b hab hba
    cases hab with
    | take_leave => cases hba
    | nearer h =>
      cases hba with
      | nearer h' => exact Nat.lt_asymm h h'

namespace First

variable {step : TokenStep} {steps : List TokenStep} {rest : List PatternStep}
  {place next : Nat} {choices choices' : List Choice} {bound bound' : List Binding}

/-- There is only one first way. Of two, each would come before the other, which `Choice.Before`
does not allow, so they have the same choices and with them the same bindings. -/
theorem unique {pattern : List PatternStep} (h : view.First pattern place choices bound)
    (h' : view.First pattern place choices' bound') : bound = bound' := by
  have hsame : choices' = choices := by
    rcases h.least _ _ h'.matched with heq | hlt
    · exact heq
    · rcases h'.least _ _ h.matched with heq | hgt
      · exact heq.symm
      · exact absurd hgt (Std.Asymm.asymm _ _ hlt)
  subst hsame
  exact h.matched.bound_unique h'.matched

/-- Choices that come first do so after a common one. This is the step of the lexicographic order
that the lemmas on the steps of a pattern share. -/
theorem cons_or (choice : Choice)
    (h : choices' = choices ∨ List.Lex Choice.Before choices choices') :
    choice :: choices' = choice :: choices ∨
      List.Lex Choice.Before (choice :: choices) (choice :: choices') :=
  h.imp (congrArg _) .cons

/-- A token is bound in one way. There is no choice at this step, so a first way of the rest is one
of the whole. -/
theorem token (h : view.Binds step place) (hrest : view.First rest (place + 1) choices bound) :
    view.First (.token step :: rest) place choices (⟨place, step.capture⟩ :: bound) := by
  refine ⟨.token h hrest.matched, fun choices' bound' h' => ?_⟩
  cases h' with
  | token _ hrest' => exact hrest.least _ _ hrest'

/-- A token is bound by an alternative in one way. -/
theorem anyOf (h : view.FirstBinds steps step place)
    (hrest : view.First rest (place + 1) choices bound) :
    view.First (.anyOf steps :: rest) place choices (⟨place, step.capture⟩ :: bound) := by
  refine ⟨.anyOf h hrest.matched, fun choices' bound' h' => ?_⟩
  cases h' with
  | anyOf _ hrest' => exact hrest.least _ _ hrest'

/-- Binding an optional token comes first if the rest matches behind it. Leaving it out comes later,
however early the choices behind that are. -/
theorem take (h : view.Binds step place) (hrest : view.First rest (place + 1) choices bound) :
    view.First (.optional step :: rest) place (.take :: choices)
      (⟨place, step.capture⟩ :: bound) := by
  refine ⟨.take h hrest.matched, fun choices' bound' h' => ?_⟩
  cases h' with
  | take _ hrest' => exact cons_or _ (hrest.least _ _ hrest')
  | leave _ => exact .inr (.rel .take_leave)

/-- Leaving an optional token out comes first if it cannot be bound. It is not enough that the token
differs: the step may bind and the rest fail behind it, and then it is left out as well. -/
theorem leave (hnot : ∀ choices bound, view.Binds step place →
      ¬ view.Matches rest (place + 1) choices bound)
    (hrest : view.First rest place choices bound) :
    view.First (.optional step :: rest) place (.leave :: choices) bound := by
  refine ⟨.leave hrest.matched, fun choices' bound' h' => ?_⟩
  cases h' with
  | take h hrest' => exact absurd hrest' (hnot _ _ h)
  | leave hrest' => exact cons_or _ (hrest.least _ _ hrest')

/-- The first place of a skip at which the rest matches comes first. At nearer places the rest does
not match at all, and a farther place is a later choice. -/
theorem skip {max : Option Nat} (hmore : rest ≠ []) (hnext : next ∈ view.skipPlaces max place)
    (hnot : ∀ nearer ∈ view.skipPlaces max place, nearer < next →
      ∀ choices bound, ¬ view.Matches rest nearer choices bound)
    (hrest : view.First rest next choices bound) :
    view.First (.skip max :: rest) place (.resume next :: choices) bound := by
  obtain ⟨hnear, hfar⟩ := mem_skipPlaces_iff.mp hnext
  refine ⟨.skip hmore hnear hfar hrest.matched, fun choices' bound' h' => ?_⟩
  cases h' with
  | lastSkip => exact absurd rfl hmore
  | @skip _ _ _ next' _ _ _ hnear' hfar' hrest' =>
    rcases Nat.lt_trichotomy next' next with hlt | rfl | hgt
    · exact absurd hrest' (hnot next' (mem_skipPlaces_iff.mpr ⟨hnear', hfar'⟩) hlt _ _)
    · exact cons_or _ (hrest.least _ _ hrest')
    · exact .inr (.rel (.nearer hgt))

end First

/-! ### The search as a plain function -/

/-- The bindings of a token at a place and of what follows behind it. -/
def bindingThen? (view : TokenView) (step : TokenStep) (place : Nat)
    (next : Nat → Option (List Binding)) : Option (List Binding) :=
  if view.accepts step place then (next (place + 1)).map (⟨place, step.capture⟩ :: ·) else none

/-- The bindings of the first way in which a pattern matches from a place on. -/
def bindings? (view : TokenView) : List PatternStep → Nat → Option (List Binding)
  | [], _ => some []
  | .token step :: rest, place => view.bindingThen? step place (bindings? view rest)
  | .optional step :: rest, place =>
    (view.bindingThen? step place (bindings? view rest)).or (bindings? view rest place)
  | .anyOf steps :: rest, place =>
    (steps.find? fun step => view.accepts step place).bind fun step =>
      view.bindingThen? step place (bindings? view rest)
  | .skip max :: rest, place =>
    match rest with
    | [] => some []
    | next :: others => (view.skipPlaces max place).findSome? (bindings? view (next :: others))

/-- What a search comes to if it adds some bindings, or fails. -/
def outcome (bound : Array Binding) : Option (List Binding) → Bool × Array Binding
  | some added => (true, bound ++ added.toArray)
  | none => (false, bound)

/-- A token is bound for as long as the rest may match behind it. The program pushes the binding,
goes on and cuts the array back if that fails. A failed rest has added nothing, so cutting back to
the old size gives the old array. -/
theorem bindThen_eq {step : TokenStep} {place : Nat} {bound : Array Binding}
    {next : Nat → Array Binding → Bool × Array Binding} {next? : Nat → Option (List Binding)}
    (h : ∀ place bound, next place bound = outcome bound (next? place)) :
    view.bindThen step place next bound =
      outcome bound (view.bindingThen? step place next?) := by
  unfold bindThen bindingThen?
  split
  · rw [h]
    cases next? (place + 1) with
    | none => simp [outcome]
    | some added => simp [outcome]
  · rfl

/-- Places are tried until the rest matches at one of them. A place at which it fails leaves the
array as it was, so the next one starts from the same bindings. -/
theorem tryPlaces_eq {places : List Nat} {bound : Array Binding}
    {next : Nat → Array Binding → Bool × Array Binding} {next? : Nat → Option (List Binding)}
    (h : ∀ place bound, next place bound = outcome bound (next? place)) :
    tryPlaces next places bound = outcome bound (places.findSome? next?) := by
  induction places with
  | nil => rfl
  | cons place others ih =>
    rw [tryPlaces, List.findSome?_cons, h]
    cases next? place with
    | none => exact ih
    | some added => rfl

/-- A search adds the bindings of the first way of matching, or it fails and adds none. The
induction is on the pattern for all places and arrays. From here on the array is out of the way, and
only `bindings?` is looked at. -/
theorem search_eq (pattern : List PatternStep) (place : Nat) (bound : Array Binding) :
    view.search pattern place bound = outcome bound (view.bindings? pattern place) := by
  induction pattern generalizing place bound with
  | nil => simp [search, bindings?, outcome]
  | cons step rest ih =>
    cases step with
    | token step => exact bindThen_eq ih
    | optional step =>
      rw [search, bindings?, bindThen_eq ih]
      cases view.bindingThen? step place (view.bindings? rest) with
      | none => exact ih place bound
      | some added => rfl
    | anyOf steps =>
      rw [search, bindings?]
      cases steps.find? fun step => view.accepts step place with
      | none => rfl
      | some step => exact bindThen_eq ih
    | skip max =>
      cases rest with
      | nil => simp [search, bindings?, outcome]
      | cons next others => exact tryPlaces_eq ih

/-! ### The search and the first way -/

/-- An answer is the bindings of the first way of matching, or says that there is none. -/
def Answers (view : TokenView) (pattern : List PatternStep) (place : Nat) :
    Option (List Binding) → Prop
  | some bound => ∃ choices, view.First pattern place choices bound
  | none => ∀ choices bound, ¬ view.Matches pattern place choices bound

/-- Of places in order, the first one with an answer, and none before it. A list says which places
come earlier in it; when it is sorted, these are the nearer ones. -/
theorem findSome?_eq_some_of_sorted {places : List Nat} {f : Nat → Option (List Binding)}
    {bound : List Binding} (hsorted : places.Pairwise (· < ·))
    (h : places.findSome? f = some bound) :
    ∃ place ∈ places, f place = some bound ∧ ∀ nearer ∈ places, nearer < place →
      f nearer = none := by
  obtain ⟨before, place, after, rfl, hplace, hbefore⟩ := List.findSome?_eq_some_iff.mp h
  refine ⟨place, List.mem_append_right _ List.mem_cons_self, hplace, fun nearer hmem hlt => ?_⟩
  rcases List.mem_append.mp hmem with hmem | hmem
  · exact hbefore nearer hmem
  · -- what comes later is not nearer
    obtain ⟨-, htail, -⟩ := List.pairwise_append.mp hsorted
    rcases List.mem_cons.mp hmem with rfl | hmem
    · exact absurd hlt (Nat.lt_irrefl _)
    · exact absurd hlt (Nat.lt_asymm (List.rel_of_pairwise_cons htail hmem))

/-- A token is bound and the rest matches behind it in a first way, or that cannot be done. All
three kinds of steps that bind tokens need this alternative, so they share it. -/
theorem bindingThen?_cases (step : TokenStep) {rest : List PatternStep} {place : Nat}
    (h : view.Answers rest (place + 1) (view.bindings? rest (place + 1))) :
    (∃ choices bound, view.Binds step place ∧ view.First rest (place + 1) choices bound ∧
      view.bindingThen? step place (view.bindings? rest) =
        some (⟨place, step.capture⟩ :: bound)) ∨
    ((∀ choices bound, view.Binds step place → ¬ view.Matches rest (place + 1) choices bound) ∧
      view.bindingThen? step place (view.bindings? rest) = none) := by
  unfold bindingThen?
  by_cases haccepts : view.accepts step place = true
  · rw [if_pos haccepts]
    cases hanswer : view.bindings? rest (place + 1) with
    | some bound =>
      rw [hanswer] at h
      obtain ⟨choices, hfirst⟩ := h
      exact .inl ⟨choices, bound, accepts_iff.mp haccepts, hfirst, rfl⟩
    | none =>
      rw [hanswer] at h
      exact .inr ⟨fun choices bound _ => h choices bound, rfl⟩
  · rw [if_neg haccepts]
    exact .inr ⟨fun _ _ hbinds => absurd (accepts_iff.mpr hbinds) haccepts, rfl⟩

section

variable {rest : List PatternStep} {place : Nat}

/-- A token is bound in the first way if the rest is matched in the first way behind it. If it
cannot be bound, or the rest does not match behind it, there is no other way. -/
theorem answers_token (step : TokenStep)
    (hbehind : view.Answers rest (place + 1) (view.bindings? rest (place + 1))) :
    view.Answers (.token step :: rest) place (view.bindings? (.token step :: rest) place) := by
  rw [bindings?]
  obtain ⟨choices, bound, hbinds, hfirst, heq⟩ | ⟨hnot, heq⟩ := bindingThen?_cases step hbehind
  · rw [heq]
    exact ⟨choices, .token hbinds hfirst⟩
  · rw [heq]
    intro choices bound h
    cases h with
    | token hbinds hrest => exact hnot _ _ hbinds hrest

/-- An optional token is bound if the rest matches behind it, and is left out if not. -/
theorem answers_optional (step : TokenStep)
    (hbehind : view.Answers rest (place + 1) (view.bindings? rest (place + 1)))
    (hhere : view.Answers rest place (view.bindings? rest place)) :
    view.Answers (.optional step :: rest) place
      (view.bindings? (.optional step :: rest) place) := by
  rw [bindings?]
  obtain ⟨choices, bound, hbinds, hfirst, heq⟩ | ⟨hnot, heq⟩ := bindingThen?_cases step hbehind
  · rw [heq]
    exact ⟨.take :: choices, .take hbinds hfirst⟩
  · -- only now, when binding has failed, the token is left out
    rw [heq, Option.none_or]
    generalize view.bindings? rest place = answer at hhere
    cases answer with
    | some bound =>
      obtain ⟨choices, hfirst⟩ := hhere
      exact ⟨.leave :: choices, .leave hnot hfirst⟩
    | none =>
      intro choices bound h
      cases h with
      | take hbinds hrest => exact hnot _ _ hbinds hrest
      | leave hrest => exact hhere _ _ hrest

/-- The first alternative that binds a token is the only one to try: the rest goes on behind the
token, whichever of them bound it. So nothing is lost when the program does not come back for the
others. They could only give the token another name. -/
theorem answers_anyOf (steps : List TokenStep)
    (hbehind : view.Answers rest (place + 1) (view.bindings? rest (place + 1))) :
    view.Answers (.anyOf steps :: rest) place (view.bindings? (.anyOf steps :: rest) place) := by
  rw [bindings?]
  cases hfind : steps.find? fun step => view.accepts step place with
  | some step =>
    have hbinds := find?_accepts_eq_some_iff.mp hfind
    rw [Option.bind_some]
    obtain ⟨choices, bound, -, hfirst, heq⟩ | ⟨hnot, heq⟩ := bindingThen?_cases step hbehind
    · rw [heq]
      exact ⟨choices, .anyOf hbinds hfirst⟩
    · rw [heq]
      intro choices bound h
      cases h with
      | anyOf hbinds' hrest =>
        cases hbinds.unique hbinds'
        exact hnot _ _ hbinds.1 hrest
  | none =>
    intro choices bound h
    cases h with
    | anyOf hbinds hrest => cases hfind.symm.trans (find?_accepts_eq_some_iff.mpr hbinds)

/-- A skip goes on at the first place at which the rest matches. The places are listed from near to
far, so the first answer in the list is the one with the earliest choice. -/
theorem answers_skip (max : Option Nat) (hmore : rest ≠ [])
    (hrest : ∀ next, view.Answers rest next (view.bindings? rest next)) :
    view.Answers (.skip max :: rest) place
      ((view.skipPlaces max place).findSome? (view.bindings? rest)) := by
  have hnone : ∀ next, view.bindings? rest next = none →
      ∀ choices bound, ¬ view.Matches rest next choices bound := by
    intro next hnone
    have hnext := hrest next
    rw [hnone] at hnext
    exact hnext
  cases hfound : (view.skipPlaces max place).findSome? (view.bindings? rest) with
  | some bound =>
    -- the first place with an answer is the nearest one from which the rest matches
    obtain ⟨next, hmem, heq, hnearer⟩ :=
      findSome?_eq_some_of_sorted (List.pairwise_lt_range' 1) hfound
    have hnext := hrest next
    rw [heq] at hnext
    obtain ⟨choices, hfirst⟩ := hnext
    exact ⟨.resume next :: choices, .skip hmore hmem
      (fun nearer hmem hlt => hnone nearer (hnearer nearer hmem hlt)) hfirst⟩
  | none =>
    intro choices bound h
    cases h with
    | lastSkip => exact absurd rfl hmore
    | skip _ hnear hfar hmatched =>
      exact hnone _ (List.findSome?_eq_none_iff.mp hfound _
        (mem_skipPlaces_iff.mpr ⟨hnear, hfar⟩)) _ _ hmatched

end

/-- The bindings that the search adds are those of the first way of matching. The induction is on
the pattern, for all places at once, since a skip asks for the rest at many of them. Each kind of
step has its own lemma above. -/
theorem answers_bindings? (pattern : List PatternStep) (place : Nat) :
    view.Answers pattern place (view.bindings? pattern place) := by
  induction pattern generalizing place with
  | nil =>
    refine ⟨[], .nil place, fun choices bound h => ?_⟩
    cases h
    exact .inl rfl
  | cons step rest ih =>
    cases step with
    | token step => exact answers_token step (ih (place + 1))
    | optional step => exact answers_optional step (ih (place + 1)) (ih place)
    | anyOf steps => exact answers_anyOf steps (ih (place + 1))
    | skip max =>
      cases rest with
      | nil =>
        refine ⟨[], .lastSkip max place, fun choices bound h => ?_⟩
        cases h with
        | lastSkip => exact .inl rfl
        | skip hmore => exact absurd rfl hmore
      | cons next others => exact answers_skip max (List.cons_ne_nil _ _) ih

/-- The answer is some bindings just if they are those of the first way of matching. -/
theorem bindings?_eq_some_iff {pattern : List PatternStep} {place : Nat} {bound : List Binding} :
    view.bindings? pattern place = some bound ↔
      ∃ choices, view.First pattern place choices bound := by
  have hanswers := view.answers_bindings? pattern place
  constructor
  · intro h
    rw [h] at hanswers
    exact hanswers
  · rintro ⟨choices, hfirst⟩
    cases hbindings : view.bindings? pattern place with
    | some bound' =>
      rw [hbindings] at hanswers
      obtain ⟨choices', hfirst'⟩ := hanswers
      rw [hfirst.unique hfirst']
    | none =>
      rw [hbindings] at hanswers
      exact absurd hfirst.matched (hanswers _ _)

/-- There is an answer just if there is a way of matching. So the search does not only find first
ways: if there is any way, it finds one. -/
theorem isSome_bindings?_iff {pattern : List PatternStep} {place : Nat} :
    (view.bindings? pattern place).isSome ↔
      ∃ choices bound, view.Matches pattern place choices bound := by
  have hanswers := view.answers_bindings? pattern place
  cases hbindings : view.bindings? pattern place with
  | some bound =>
    rw [hbindings] at hanswers
    obtain ⟨choices, hfirst⟩ := hanswers
    exact ⟨fun _ => ⟨choices, bound, hfirst.matched⟩, fun _ => rfl⟩
  | none =>
    rw [hbindings] at hanswers
    exact ⟨(nomatch ·), fun ⟨choices, bound, h⟩ => absurd h (hanswers choices bound)⟩

/-- A search succeeds just if there is a way of matching, whatever is bound already. -/
theorem search_fst_iff {pattern : List PatternStep} {place : Nat} {bound : Array Binding} :
    (view.search pattern place bound).1 = true ↔ (view.bindings? pattern place).isSome := by
  rw [search_eq]
  cases view.bindings? pattern place <;> simp [outcome]

/-- A match is made of the bindings of the search: the first one, the last one, and those with
a name. -/
theorem match?_eq_some_iff {pattern : List PatternStep} {start : Nat} {found : PatternMatch} :
    view.match? pattern start = some found ↔
      ∃ bound first last, view.bindings? pattern start = some bound ∧
        bound.head? = some first ∧ bound.getLast? = some last ∧
        found = ⟨first.index, last.index,
          bound.filterMap fun b => b.capture.map fun name => (name, b.index)⟩ := by
  rw [match?, search_eq]
  cases view.bindings? pattern start with
  | none => simp [outcome]
  | some bound =>
    simp only [outcome, Array.empty_append, Option.bind_eq_bind, Option.pure_def,
      Option.bind_eq_some_iff, Option.some.injEq, List.getElem?_toArray, List.back?_toArray,
      ← List.head?_eq_getElem?]
    constructor
    · rintro ⟨first, hfirst, last, hlast, rfl⟩
      exact ⟨bound, first, last, rfl, hfirst, hlast, rfl⟩
    · rintro ⟨bound', first, last, rfl, hfirst, hlast, rfl⟩
      exact ⟨first, hfirst, last, hlast, rfl⟩

/-- There is a match just if the first way of matching binds a token. If the first way binds
nothing, there is no match, even when a later way would bind something. -/
theorem isSome_match?_iff {pattern : List PatternStep} {start : Nat} :
    (view.match? pattern start).isSome ↔
      ∃ choices bound, view.First pattern start choices bound ∧ bound ≠ [] := by
  rw [Option.isSome_iff_exists]
  simp only [match?_eq_some_iff, bindings?_eq_some_iff]
  constructor
  · rintro ⟨_, bound, first, last, ⟨choices, hfirst⟩, hhead, -, -⟩
    refine ⟨choices, bound, hfirst, ?_⟩
    rintro rfl
    cases hhead
  · rintro ⟨choices, bound, hfirst, hbound⟩
    exact ⟨_, bound, bound.head hbound, bound.getLast hbound, ⟨choices, hfirst⟩,
      List.head?_eq_some_head hbound, List.getLast?_eq_some_getLast hbound, rfl⟩

/-- The search for a pattern from a place on, with the bindings of earlier steps in the array.
It succeeds just if the pattern matches, and then it adds the bindings of the first way of
matching and no others; if it fails, the array is as it was. What is bound are tokens that are
not claimed, one behind the other, at or behind the place. A match is made of these bindings if
there are any, from the first one to the last one. -/
theorem search_finds_first (view : TokenView) (pattern : List PatternStep) (start : Nat)
    (bound : Array Binding) :
    ((view.search pattern start bound).1 = true ↔
      ∃ choices added, view.Matches pattern start choices added) ∧
    (∀ added : List Binding,
      view.search pattern start bound = (true, bound ++ added.toArray) ↔
        ∃ choices, view.First pattern start choices added) ∧
    ((view.search pattern start bound).1 = false →
      (view.search pattern start bound).2 = bound) ∧
    (∀ choices added, view.First pattern start choices added →
      (added.map (·.index)).Pairwise (· < ·) ∧
      ∀ b ∈ added, start ≤ b.index ∧ b.index < view.tokens.size ∧
        ∀ claim ∈ view.claims, ¬ (claim.1 ≤ b.index ∧ b.index ≤ claim.2)) ∧
    (∀ found, view.match? pattern start = some found ↔
      ∃ choices added first last, view.First pattern start choices added ∧
        added.head? = some first ∧ added.getLast? = some last ∧
        found = ⟨first.index, last.index,
          added.filterMap fun b => b.capture.map fun name => (name, b.index)⟩) := by
  refine ⟨?_, fun added => ?_, ?_, fun choices added hfirst => ?_, fun found => ?_⟩
  · rw [search_fst_iff, isSome_bindings?_iff]
  · rw [← bindings?_eq_some_iff, search_eq]
    cases view.bindings? pattern start with
    | none => simp [outcome]
    | some added' => simp [outcome, Array.append_right_inj]
  · rw [search_eq]
    cases view.bindings? pattern start with
    | none => exact fun _ => rfl
    | some added => exact fun h => nomatch h
  · obtain ⟨hsorted, hbehind⟩ := hfirst.matched.sorted
    exact ⟨hsorted, fun b hb => ⟨hbehind b hb, hfirst.matched.free b hb⟩⟩
  · rw [match?_eq_some_iff]
    simp only [bindings?_eq_some_iff]
    constructor
    · rintro ⟨added, first, last, ⟨choices, hfirst⟩, hrest⟩
      exact ⟨choices, added, first, last, hfirst, hrest⟩
    · rintro ⟨choices, added, first, last, hfirst, hrest⟩
      exact ⟨added, first, last, ⟨choices, hfirst⟩, hrest⟩

end TokenView

end Polyglot
