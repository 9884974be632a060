import Polyglot.Token

/-!
# `Polyglot.Symbol.Rule`: what a declaration looks like

A symbol rule is a pattern over the tokens that structural analysis looks at, and how far the
declaration goes after the pattern.
-/

set_option autoImplicit false

namespace Polyglot

/-- A condition on one token. -/
structure TokenStep where
  /-- The type that the token must have. -/
  type : String
  /-- The text that the token must have, if any. -/
  value : Option String := none
  /-- The name under which the token is remembered. -/
  capture : Option String := none
deriving DecidableEq, Repr, Inhabited

/-- Whether a token meets the condition. -/
def TokenStep.accepts (step : TokenStep) (token : Token) : Bool :=
  token.type == step.type && step.value.all (· == token.value)

/-- One step of a pattern. -/
inductive PatternStep where
  /-- A token. -/
  | token (step : TokenStep)
  /-- A token, or nothing. -/
  | optional (step : TokenStep)
  /-- A token that meets one of the conditions. -/
  | anyOf (steps : List TokenStep)
  /-- Tokens up to where the rest of the pattern matches; `max` is the number of places at
  which that is tried. -/
  | skip (max : Option Nat)
deriving DecidableEq, Repr, Inhabited

/-- How the body of a declaration is found. -/
inductive BodyStyle where
  /-- The next block in braces. -/
  | braces
  /-- The lines that are indented deeper. -/
  | indentation
deriving DecidableEq, Repr, Inhabited

namespace BodyStyle

/-- The name of a body style. -/
def name : BodyStyle → String
  | .braces => "braces"
  | .indentation => "indentation"

/-- The body style with a name. -/
def ofName? (name : String) : Option BodyStyle :=
  [BodyStyle.braces, .indentation].find? (·.name == name)

/-- A body style is found under its name. -/
@[simp] theorem ofName?_name (style : BodyStyle) : ofName? style.name = some style := by
  cases style <;> decide

end BodyStyle

/-- What a declaration looks like. -/
structure SymbolRule where
  /-- The name of the rule, and of symbols without a name of their own. -/
  name : String
  /-- The kind of the symbols. -/
  kind : String
  /-- The pattern. -/
  pattern : List PatternStep
  /-- Whether the declaration has a body. -/
  hasBody : Bool := false
  /-- How the body is found; by braces if not said. -/
  bodyStyle : Option BodyStyle := none
deriving DecidableEq, Repr, Inhabited

/-- A declaration that was found. -/
structure Symbol where
  /-- The declared name. -/
  name : String
  /-- The kind that the rule gives. -/
  kind : String
  /-- The first line. -/
  startLine : Nat
  /-- The last line. -/
  stopLine : Nat
  /-- Where the name stands, if a token gave it. -/
  nameRange : Option Range
  /-- From the first token of the pattern to the end of the body. -/
  contentRange : Range
deriving DecidableEq, Repr, Inhabited

end Polyglot
