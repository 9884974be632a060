import Polyglot.Symbol.Rule

/-!
# `Polyglot.Symbol.Pattern`: matching patterns over tokens

A pattern is matched from left to right over an array of tokens, of which some may be claimed
and cannot be bound. Where a pattern can go on in several ways they are tried in turn: an
optional step binds before it is left out, and a skip tries near places before far ones. The
first way that matches to the end counts. The bindings are kept in one array, to which a step
adds when it binds a token and from which it takes when the rest of the pattern fails behind it.
-/

set_option autoImplicit false

namespace Polyglot

/-- What a pattern is matched over. -/
structure TokenView where
  /-- The tokens. -/
  tokens : Array Token
  /-- The intervals of tokens, ends included, that cannot be bound. -/
  claims : List (Nat × Nat) := []
  /-- The number of places that a skip tries if it does not say. -/
  defaultSkip : Nat
deriving Repr, Inhabited

/-- A token that a pattern bound, and the name under which it is remembered. -/
structure Binding where
  /-- The index of the token. -/
  index : Nat
  /-- The name. -/
  capture : Option String
deriving DecidableEq, Repr, Inhabited

namespace TokenView

/-- Whether the token at an index cannot be bound. -/
def isClaimed (view : TokenView) (index : Nat) : Bool :=
  view.claims.any fun claim => claim.1 ≤ index && index ≤ claim.2

/-- Whether the token at an index is there, not claimed, and meets a condition. -/
def accepts (view : TokenView) (step : TokenStep) (index : Nat) : Bool :=
  !view.isClaimed index && (view.tokens[index]?).any step.accepts

/-- The places at which a skip tries the rest of its pattern. -/
def skipPlaces (view : TokenView) (max : Option Nat) (place : Nat) : List Nat :=
  List.range' place (min (place + max.getD view.defaultSkip) view.tokens.size - place)

/-- Bind the token at a place and go on behind it. If that fails, the token is let go again. -/
def bindThen (view : TokenView) (step : TokenStep) (place : Nat)
    (next : Nat → Array Binding → Bool × Array Binding) (bound : Array Binding) :
    Bool × Array Binding :=
  if view.accepts step place then
    match next (place + 1) (bound.push ⟨place, step.capture⟩) with
    | (true, bound) => (true, bound)
    | (false, bound) => (false, bound.pop)
  else (false, bound)

/-- Go on at the first one of some places at which that succeeds. -/
def tryPlaces (next : Nat → Array Binding → Bool × Array Binding) :
    List Nat → Array Binding → Bool × Array Binding
  | [], bound => (false, bound)
  | place :: others, bound =>
    match next place bound with
    | (true, bound) => (true, bound)
    | (false, bound) => tryPlaces next others bound

/-- Whether a pattern matches from a place on, and the bindings after that. `bound` holds the
bindings of the steps before, and all ways of going on add to it in turn. -/
def search (view : TokenView) :
    List PatternStep → Nat → Array Binding → Bool × Array Binding
  | [], _, bound => (true, bound)
  | .token step :: rest, place, bound => view.bindThen step place (search view rest) bound
  | .optional step :: rest, place, bound =>
    match view.bindThen step place (search view rest) bound with
    | (true, bound) => (true, bound)
    | (false, bound) => search view rest place bound
  | .anyOf steps :: rest, place, bound =>
    match steps.find? fun step => view.accepts step place with
    | some step => view.bindThen step place (search view rest) bound
    | none => (false, bound)
  | .skip max :: rest, place, bound =>
    match rest with
    | [] => (true, bound)
    | next :: others =>
      tryPlaces (search view (next :: others)) (view.skipPlaces max place) bound

end TokenView

/-- A match of a pattern. -/
structure PatternMatch where
  /-- The index of the first token that was bound. -/
  first : Nat
  /-- The index of the last token that was bound. -/
  last : Nat
  /-- The remembered tokens in the order of the pattern. -/
  captures : List (String × Nat)
deriving DecidableEq, Repr, Inhabited

/-- The match of a pattern from a place on; at least one token has to be bound. -/
def TokenView.match? (view : TokenView) (pattern : List PatternStep) (start : Nat) :
    Option PatternMatch :=
  match view.search pattern start #[] with
  | (false, _) => none
  | (true, bound) => do
    let first ← bound[0]?
    let last ← bound.back?
    return ⟨first.index, last.index,
      bound.toList.filterMap fun b => b.capture.map fun name => (name, b.index)⟩

end Polyglot
