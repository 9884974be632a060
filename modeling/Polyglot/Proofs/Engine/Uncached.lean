import Polyglot.Engine
import Polyglot.Proofs.Registry.History

/-!
# `Polyglot.Proofs.Engine.Uncached`: an engine that remembers nothing

Every operation of an engine, said of the plain list of the profiles that were registered: look
the profile up, put it over all that it extends, compile its lexer and run it. Nothing is kept
from one operation to the next but the list, which grows by every document that is registered.

`Operation` lists the operations and `Answer` what they answer with. `Engine.answers` are the
answers of an engine to a run of operations, `History.answers` those without a memo and a cache.
-/

set_option autoImplicit false

namespace Polyglot

/-! ### Operations -/

/-- An operation of an engine. -/
inductive Operation where
  /-- Register the profile of a document. -/
  | register (document : String)
  /-- The resolved profile of a language. -/
  | profile (language : String)
  /-- The resolved profile for a path. -/
  | profileForPath (path : String)
  /-- The compiled lexer of a language. -/
  | compiledLexer (language : String)
  /-- The tokens of a text. -/
  | tokenize (source language : String)
  /-- The blocks in a text. -/
  | blockSpans (source language : String)
  /-- The declarations in a text. -/
  | symbols (source language : String)
  /-- The regions of a text that fold. -/
  | folds (source language : String)
  /-- The tokens of a text and the structure found in them. -/
  | analyze (source language : String)

/-- What an operation answers with. -/
inductive Answer where
  /-- A profile was registered. -/
  | registered
  /-- The contents of a resolved profile. -/
  | profile (profile : Profile)
  /-- A compiled lexer. -/
  | lexer (lexer : Lexer)
  /-- The tokens of a text. -/
  | tokens (tokens : List Token)
  /-- The blocks in a text. -/
  | spans (spans : List BlockSpan)
  /-- The declarations in a text. -/
  | symbols (symbols : List Symbol)
  /-- The regions of a text that fold. -/
  | folds (folds : List Fold)
  /-- The tokens of a text and the structure found in them. -/
  | analysis (analysis : Analysis)

namespace Engine

/-- Perform an operation. -/
def perform : Operation → EngineM Answer
  | .register document => do
    registerText document
    return .registered
  | .profile language => return .profile (← profile language).profile
  | .profileForPath path => return .profile (← profileForPath path).profile
  | .compiledLexer language => return .lexer (← compiledLexer language).lexer
  | .tokenize source language => return .tokens (← tokenize source language)
  | .blockSpans source language => return .spans (← blockSpans source language)
  | .symbols source language => return .symbols (← symbols source language)
  | .folds source language => return .folds (← folds source language)
  | .analyze source language => return .analysis (← analyze source language)

/-- The answers to operations that are performed one after the other. -/
def answers (e : Engine) : List Operation → List (Except Error Answer)
  | [] => []
  | operation :: rest =>
    let (answer, e) := (perform operation).run.run e
    answer :: answers e rest

end Engine

/-! ### Without a memo and a cache -/

namespace History

/-- The lexer of a profile, compiled for it. -/
def lexerOf (p : Profile) : Except Error Lexer := Lexer.compile p.name p.lexer

/-- The lexer of a language. -/
def lexer (history : History) (language : String) : Except Error Lexer := do
  lexerOf (← history.profile language)

/-- The tokens of a text. -/
def tokenize (history : History) (source language : String) : Except Error (List Token) := do
  let lexer ← history.lexer language
  return lexer.tokenize source

/-- The blocks in a text. -/
def blockSpans (history : History) (source language : String) :
    Except Error (List BlockSpan) := do
  let p ← history.profile language
  let lexer ← lexerOf p
  match p.structure? with
  | none => return []
  | some s => return Polyglot.blockSpans (lexer.tokenize source) s.blocks

/-- The analysis of a text under a resolved profile. -/
def analyzeUnder (settings : Settings) (p : Profile) (source : String) :
    Except Error Analysis := do
  let lexer ← lexerOf p
  return Engine.analysisOf settings lexer p.structure? source

/-- The tokens of a text and the structure found in them. -/
def analyze (settings : Settings) (history : History) (source language : String) :
    Except Error Analysis := do
  analyzeUnder settings (← history.profile language) source

/-- The declarations in a text. -/
def symbols (settings : Settings) (history : History) (source language : String) :
    Except Error (List Symbol) := do
  return (← history.analyze settings source language).symbols

/-- The regions of a text that fold. -/
def folds (settings : Settings) (history : History) (source language : String) :
    Except Error (List Fold) := do
  let p ← history.profile language
  match p.structure?.bind (·.folding) with
  | none => return []
  | some folding =>
    let analysis ← analyzeUnder settings p source
    return Polyglot.folds analysis.tokens analysis.spans folding

/-- The answer to an operation after the profiles of a history were registered. -/
def answer (settings : Settings) (history : History) : Operation → Except Error Answer
  | .register document => do
    let _ ← Profile.parse "<json>" document
    return .registered
  | .profile language => return .profile (← history.profile language)
  | .profileForPath path => return .profile (← history.profileForPath path)
  | .compiledLexer language => return .lexer (← history.lexer language)
  | .tokenize source language => return .tokens (← history.tokenize source language)
  | .blockSpans source language => return .spans (← history.blockSpans source language)
  | .symbols source language => return .symbols (← history.symbols settings source language)
  | .folds source language => return .folds (← history.folds settings source language)
  | .analyze source language => return .analysis (← history.analyze settings source language)

/-- The profiles that are registered after an operation: one more if it is a document that can
be read. -/
def after (history : History) : Operation → History
  | .register document =>
    match Profile.parse "<json>" document with
    | .ok p => history ++ [p]
    | .error _ => history
  | _ => history

/-- The answers to operations that are performed one after the other. -/
def answers (settings : Settings) (history : History) :
    List Operation → List (Except Error Answer)
  | [] => []
  | operation :: rest =>
    history.answer settings operation :: answers settings (history.after operation) rest

/-- Only a registration changes what is registered. All other operations may fill a memo or a cache,
but these are not part of a history. -/
theorem after_eq_self (history : History) {operation : Operation}
    (h : ∀ document, operation ≠ .register document) : history.after operation = history := by
  cases operation with
  | register document => exact absurd rfl (h document)
  | _ => rfl

/-- Operations after others are answered with what those have registered. Their answers do not
depend on anything else that was asked before. -/
theorem answers_append (settings : Settings) (history : History)
    (before later : List Operation) :
    history.answers settings (before ++ later) =
      history.answers settings before ++
        answers settings (before.foldl after history) later := by
  induction before generalizing history with
  | nil => rfl
  | cons operation rest ih =>
    rw [List.cons_append, answers, answers, List.foldl_cons, ih, List.cons_append]

/-- There is one answer to each operation. -/
theorem length_answers (settings : Settings) (history : History)
    (operations : List Operation) :
    (history.answers settings operations).length = operations.length := by
  induction operations generalizing history with
  | nil => rfl
  | cons operation rest ih => rw [answers, List.length_cons, ih, List.length_cons]

/-- A document that cannot be read is answered with the error, and all later operations are answered
as without it. It registers nothing, so the history behind it is the one in front of it. -/
theorem answers_of_unreadable (settings : Settings) (history : History) {document : String}
    {x : Error} (h : Profile.parse "<json>" document = .error x)
    (before later : List Operation) :
    history.answers settings (before ++ .register document :: later) =
      history.answers settings before ++
        .error x :: (history.answers settings (before ++ later)).drop before.length := by
  have hanswer : ∀ history : History,
      history.answer settings (.register document) = .error x := by
    intro history
    rw [answer, h]
    rfl
  have hafter : ∀ history : History, history.after (.register document) = history := by
    intro history
    rw [after, h]
  rw [answers_append, answers, hanswer, hafter, answers_append]
  congr 2
  rw [← length_answers settings history before, List.drop_left]

end History

end Polyglot
