import Polyglot.Matcher.Spec
import Polyglot.Table
import Polyglot.Token

/-!
# `Polyglot.Lexer.Config`: the lexical half of a profile

A lexer is declared as named states, each with a list of rules. A rule has a matcher, the
type of the token it emits, and what happens to the stack of states afterwards.
-/

set_option autoImplicit false

namespace Polyglot

/-- A rule of a state. -/
structure RuleSpec where
  /-- What the rule matches. -/
  matcher : Matcher.Spec
  /-- The type of the token. -/
  token : String
  /-- A state to put on top afterwards. -/
  push : Option String := none
  /-- Whether the current state is left afterwards. -/
  pop : Bool := false
  /-- A state that replaces the current one afterwards. -/
  switchTo : Option String := none
deriving Repr, Inhabited

/-- How indentation is measured. -/
structure Indentation where
  /-- The width of a tab. -/
  tabWidth : Nat := 4
deriving DecidableEq, Repr, Inhabited

/-- The lexical half of a profile. -/
structure LexerConfig where
  /-- The character classes that have a name. -/
  charClasses : Table CharClass.Spec := ∅
  /-- The categories of token types. -/
  tokenTypes : Table Category := ∅
  /-- The rules of each state. -/
  states : Table (List RuleSpec) := ∅
  /-- The state to start in. -/
  initialState : Option String := none
  /-- The token types that structural analysis passes over. -/
  skipTokens : Option (List String) := none
  /-- How indentation is measured. -/
  indentation : Option Indentation := none
deriving Inhabited

namespace LexerConfig

/-- The name of the state to start in; `default` if none is declared. -/
def initialName (config : LexerConfig) : String := config.initialState.getD "default"

/-- The category of a token type; plain if none is declared. -/
def categoryOf (config : LexerConfig) (type : String) : Category :=
  (config.tokenTypes.find? type).getD .plain

/-- The token types that structural analysis passes over. -/
def skipTypes (config : LexerConfig) : List String := config.skipTokens.getD []

end LexerConfig

end Polyglot
