import Polyglot.Error
import Polyglot.Profile.Basic

/-!
# `Polyglot.Profile.Inherit`: profiles that extend others

A profile that extends another one is put over it (`Profile.overlay`), after the other one was
put over the one that it extends, and so on:

* the named things of the lexer (classes, token types, states) are those of both, and the
  profile's own win;
* the block rules are its own if there are any, and the symbol rules are its own and then the
  other's;
* every other part of lexer, structure and description is its own if given;
* the names, file extensions and media types are its own.

`Profile.resolve` follows the chain of parents. A parent that is already on the chain is a
cycle. Parents are looked up by a function that may find them under other spellings, and then
a chain can go round without meeting a name in the spelling that it looks for; the bound on
the number of steps makes that an answer of its own.
-/

set_option autoImplicit false

namespace Polyglot

/-- One lexer over another. -/
def LexerConfig.overlay (child parent : LexerConfig) : LexerConfig where
  charClasses := child.charClasses.overlay parent.charClasses
  tokenTypes := child.tokenTypes.overlay parent.tokenTypes
  states := child.states.overlay parent.states
  initialState := child.initialState <|> parent.initialState
  skipTokens := child.skipTokens <|> parent.skipTokens
  indentation := child.indentation <|> parent.indentation

/-- One structure over another. -/
def Structure.overlay (child parent : Structure) : Structure where
  blocks := if child.blocks.isEmpty then parent.blocks else child.blocks
  symbols := child.symbols ++ parent.symbols
  folding := child.folding <|> parent.folding

/-- One optional structure over another. -/
def Structure.overlayOption : Option Structure → Option Structure → Option Structure
  | some child, some parent => some (child.overlay parent)
  | some child, none => some child
  | none, parent => parent

namespace Profile

/-- One profile over another. The result extends nothing. -/
def overlay (child parent : Profile) : Profile where
  name := child.name
  displayName := child.displayName
  fileExtensions := child.fileExtensions
  mimeTypes := child.mimeTypes
  lexer := child.lexer.overlay parent.lexer
  structure? := Structure.overlayOption child.structure? parent.structure?
  grammar := child.grammar <|> parent.grammar
  embeddedLanguages := child.embeddedLanguages <|> parent.embeddedLanguages
  parent := none

/-- A profile over all that it extends, in at most `steps` steps to a parent. `chain` holds
the names of the profiles that lead to it. -/
def resolveAlong (lookup : String → Option Profile) :
    Nat → List String → Profile → Except Error Profile
  | steps, chain, p =>
    match p.parent with
    | none => .ok p
    | some parent =>
      let chain := chain ++ [p.name]
      if chain.contains parent then
        .error (.config (chain.headD p.name) (.extendsCycle chain parent))
      else
        match lookup parent with
        | none => .error (.config p.name (.unknownParent parent))
        | some declared =>
          match steps with
          | 0 => .error (.config (chain.headD p.name) .endlessChain)
          | steps + 1 => (resolveAlong lookup steps chain declared).map p.overlay

/-- A profile over all that it extends, where `lookup` finds one of `count` profiles. A chain
that goes round comes back to a profile after at most `count` steps, and one more round meets
the names of all profiles on it; if none of them is the parent that is looked for, it goes
round for ever. -/
def resolve (lookup : String → Option Profile) (count : Nat) (p : Profile) :
    Except Error Profile :=
  resolveAlong lookup (2 * count + 2) [] p

/-- The first profile of a list with a name. -/
def byName? (profiles : List Profile) (name : String) : Option Profile :=
  profiles.find? (·.name == name)

end Profile

end Polyglot
