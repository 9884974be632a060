import Polyglot.Lexer.Cache
import Polyglot.Registry
import Polyglot.Symbol.Detect

/-!
# `Polyglot.Engine`: analysing texts in registered languages

An engine has registered profiles, a store of compiled lexers and settings. Its operations
answer or fail, and leave a new engine in either case, because a profile may have been
resolved and a lexer compiled on the way.
-/

set_option autoImplicit false

namespace Polyglot

/-- Tokens and the structure found in them. -/
structure Analysis where
  /-- The tokens in the order of the text. -/
  tokens : List Token := []
  /-- The blocks in the order of their opening tokens. -/
  spans : List BlockSpan := []
  /-- The declarations by start line. -/
  symbols : List Symbol := []
deriving DecidableEq, Repr, Inhabited

/-- An analysis engine. -/
structure Engine where
  /-- The registered profiles. -/
  registry : Registry
  /-- The compiled lexers. -/
  cache : LexerCache
  /-- The settings. -/
  settings : Settings
deriving Inhabited

/-- An operation on an engine. -/
abbrev EngineM := ExceptT Error (StateM Engine)

namespace Engine

/-- An engine over a registry. -/
def new (registry : Registry) (settings : Settings) : Engine :=
  ⟨registry, LexerCache.new settings.lexerCacheCapacity, settings⟩

/-- Register a profile. -/
def register (e : Engine) (profile : Profile) : Engine :=
  { e with registry := e.registry.register profile }

/-- Register a profile from a text. -/
def registerText (text : String) : EngineM Unit := do
  let profile ← ExceptT.mk (pure (Profile.parse "<json>" text))
  modify (·.register profile)

/-- The resolved profile of a language. -/
def profile (language : String) : EngineM Shared := do
  let e ← get
  let (answer, registry) := e.registry.resolve language
  set { e with registry }
  ExceptT.mk (pure answer)

/-- The resolved profile for a path. -/
def profileForPath (path : String) : EngineM Shared := do
  let e ← get
  let (answer, registry) := e.registry.resolvePath path
  set { e with registry }
  ExceptT.mk (pure answer)

/-- The compiled lexer of a resolved profile. -/
def lexerFor (shared : Shared) : EngineM LexerCache.Entry := do
  let e ← get
  let (answer, cache) := e.cache.get shared.profile.name shared.id shared.profile.lexer
  set { e with cache }
  ExceptT.mk (pure answer)

/-- The compiled lexer of a language. -/
def compiledLexer (language : String) : EngineM LexerCache.Entry := do
  lexerFor (← profile language)

/-- The tokens of a text. -/
def tokenize (source language : String) : EngineM (List Token) := do
  let entry ← compiledLexer language
  return entry.lexer.tokenize source

/-- The blocks in a text. -/
def blockSpans (source language : String) : EngineM (List BlockSpan) := do
  let shared ← profile language
  let entry ← lexerFor shared
  match shared.profile.structure? with
  | none => return []
  | some s => return Polyglot.blockSpans (entry.lexer.tokenize source) s.blocks

/-- The analysis of a text with a lexer. -/
def analysisOf (settings : Settings) (lexer : Lexer) (structure? : Option Structure)
    (source : String) : Analysis :=
  let tokens := lexer.tokenize source
  match structure? with
  | none => { tokens }
  | some s =>
    let spans := Polyglot.blockSpans tokens s.blocks
    let detector := Detector.new source tokens spans lexer settings.maxSkipLookahead
      settings.defaultTabWidth
    { tokens, spans, symbols := detector.detect s.symbols }

/-- The analysis of a text under a resolved profile. -/
def analyzeWith (shared : Shared) (source : String) : EngineM Analysis := do
  let entry ← lexerFor shared
  let e ← get
  return analysisOf e.settings entry.lexer shared.profile.structure? source

/-- The tokens of a text and the structure found in them. -/
def analyze (source language : String) : EngineM Analysis := do
  analyzeWith (← profile language) source

/-- The declarations in a text. -/
def symbols (source language : String) : EngineM (List Symbol) := do
  return (← analyze source language).symbols

/-- The regions of a text that fold. Under a profile that folds nothing the text is not looked
at. -/
def folds (source language : String) : EngineM (List Fold) := do
  let shared ← profile language
  match shared.profile.structure?.bind (·.folding) with
  | none => return []
  | some folding =>
    let analysis ← analyzeWith shared source
    return Polyglot.folds analysis.tokens analysis.spans folding

end Engine

end Polyglot
