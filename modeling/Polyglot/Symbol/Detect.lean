import Polyglot.Lexer.Basic
import Polyglot.Symbol.Extent
import Polyglot.Symbol.Pattern

/-!
# `Polyglot.Symbol.Detect`: finding declarations

The rules are tried one after the other, each at every token that is looked at. A match claims
the tokens from the first to the last one that it bound, so that an earlier rule keeps its
tokens from later ones. The symbols are answered by start line; those on one line stay in the
order in which they were found.
-/

set_option autoImplicit false

namespace Polyglot

/-- What declarations are looked for in. -/
structure Detector where
  /-- All tokens. -/
  tokens : Array Token
  /-- The indices of the tokens that are looked at. -/
  significant : Array Nat
  /-- The tokens that are looked at. -/
  view : Array Token
  /-- The number of places that a skip tries if it does not say. -/
  defaultSkip : Nat
  /-- What extents are found from. -/
  extent : Extent
deriving Inhabited

namespace Detector

/-- A detector over the tokens of a source. The tab width is the one of the lexer, if it has
one. -/
def new (source : String) (tokens : List Token) (spans : List BlockSpan) (lexer : Lexer)
    (defaultSkip defaultTabWidth : Nat) : Detector :=
  let kept := tokens.zipIdx.filter fun t => !lexer.isSkipped t.1.type
  let all := tokens.toArray
  { tokens := all
    significant := (kept.map (·.2)).toArray
    view := (kept.map (·.1)).toArray
    defaultSkip := defaultSkip
    extent := .new source all spans lexer.skipTypes (lexer.tabWidth.getD defaultTabWidth) }

/-- The token that names a match: the one remembered as `name`, or else the first one. -/
def nameToken? (d : Detector) (found : PatternMatch) : Option Token := do
  let named ← found.captures.find? (·.1 == "name") <|> found.captures.head?
  let index ← d.significant[named.2]?
  d.tokens[index]?

/-- The symbol of a match. -/
def symbol? (d : Detector) (rule : SymbolRule) (found : PatternMatch) : Option Symbol := do
  let firstIndex ← d.significant[found.first]?
  let lastIndex ← d.significant[found.last]?
  let first ← d.tokens[firstIndex]?
  let stop ← d.tokens[d.extent.endOf rule firstIndex lastIndex]?
  let named := d.nameToken? found
  return {
    name := (named.map (·.value)).getD rule.name
    kind := rule.kind
    startLine := first.range.start.line
    stopLine := stop.range.stop.line
    nameRange := named.map (·.range)
    contentRange := ⟨first.range.start, stop.range.stop⟩ }

/-- The claims and symbols of a run. -/
structure Found where
  /-- The intervals of tokens that matches claimed, the latest first. -/
  claims : List (Nat × Nat) := []
  /-- The symbols, the latest first. -/
  symbols : List Symbol := []
deriving Repr, Inhabited

/-- Try a rule at a token. -/
def tryAt (d : Detector) (rule : SymbolRule) (found : Found) (start : Nat) : Found :=
  let view : TokenView := ⟨d.view, found.claims, d.defaultSkip⟩
  if view.isClaimed start then found
  else
    match view.match? rule.pattern start with
    | none => found
    | some m =>
      { claims := (m.first, m.last) :: found.claims
        symbols := (d.symbol? rule m).toList ++ found.symbols }

/-- Try a rule at every token. -/
def tryRule (d : Detector) (found : Found) (rule : SymbolRule) : Found :=
  (List.range d.view.size).foldl (d.tryAt rule) found

/-- The symbols that the rules find, by start line. -/
def detect (d : Detector) (rules : List SymbolRule) : List Symbol :=
  (rules.foldl d.tryRule {}).symbols.reverse.mergeSort fun a b => a.startLine ≤ b.startLine

end Detector

end Polyglot
