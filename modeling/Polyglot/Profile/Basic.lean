import Polyglot.Block
import Polyglot.Fold
import Polyglot.Json.Basic
import Polyglot.Lexer.Config
import Polyglot.Symbol.Rule

/-!
# `Polyglot.Profile.Basic`: language profiles

A profile is all that is known about a language: how to cut its texts into tokens, how to find
blocks, declarations and regions in them, and some facts for other programs. A profile may
extend another one by name.
-/

set_option autoImplicit false

namespace Polyglot

/-- The structural half of a profile. -/
structure Structure where
  /-- The pairs of brackets. -/
  blocks : List BlockRule := []
  /-- What declarations look like, the most important first. -/
  symbols : List SymbolRule := []
  /-- Which regions fold. -/
  folding : Option Folding := none
deriving DecidableEq, Repr, Inhabited

/-- A language that stands inside another one. -/
structure EmbeddedLanguage where
  /-- The name of the language. -/
  language : String
  /-- The text that opens it. -/
  opening : String
  /-- The text that closes it. -/
  closing : String
deriving DecidableEq, Repr, Inhabited

/-- A language profile. -/
structure Profile where
  /-- The name under which it is registered. -/
  name : String
  /-- The name to show; the registered one if empty. -/
  displayName : String := ""
  /-- The extensions of files in the language, with or without a dot. -/
  fileExtensions : List String := []
  /-- The media types of the language. -/
  mimeTypes : List String := []
  /-- How texts are cut into tokens. -/
  lexer : LexerConfig := {}
  /-- How structure is found in them. -/
  structure? : Option Structure := none
  /-- A free-form description of the grammar. -/
  grammar : Option Json := none
  /-- The languages inside this one. -/
  embeddedLanguages : Option (List EmbeddedLanguage) := none
  /-- The name of the profile that this one extends. -/
  parent : Option String := none
deriving Inhabited

namespace Profile

/-- A profile that is shown under its name and has nothing but a lexer. -/
def ofLexer (name : String) (lexer : LexerConfig) : Profile :=
  { name := name, displayName := name, lexer := lexer }

/-- The name to show. -/
def title (p : Profile) : String := if p.displayName.isEmpty then p.name else p.displayName

end Profile

/-- The settings of an engine. -/
structure Settings where
  /-- How many compiled lexers are kept. -/
  lexerCacheCapacity : Nat := 64
  /-- The number of places that a skip tries if it does not say. -/
  maxSkipLookahead : Nat := 50
  /-- The width of a tab where a profile does not say. -/
  defaultTabWidth : Nat := 4
deriving DecidableEq, Repr, Inhabited

end Polyglot
