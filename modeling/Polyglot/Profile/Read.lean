import Polyglot.Error
import Polyglot.Json.Decode
import Polyglot.Json.Parser
import Polyglot.Profile.Basic

/-!
# `Polyglot.Profile.Read`: reading profiles from documents

One reader for each type of the data model, with the rules of `Polyglot.Json.Decode`: the
names of fields in declaration order, and for each whether it is required, optional or has a
default. `Profile.parse` reads a profile from a text.

Classes and matchers nest. The reader of each is made of a reader for its alternatives, which is
given a reader for the classes or matchers inside.
-/

set_option autoImplicit false

namespace Polyglot

open Json (Raw)
open Json.Raw (fields? required withDefault optional string? bool? word? char? list? table?
  choice? tagged? tag?)

/-! ### Positions and tokens -/

/-- Read a position. -/
def Position.read? (r : Raw) : Option Position := do
  match ← r.fields? ["line", "column", "offset"] with
  | [line, column, offset] =>
    return ⟨← required (word? 32) line, ← required (word? 32) column, ← required (word? 64) offset⟩
  | _ => none

/-- Read a range. -/
def Range.read? (r : Raw) : Option Range := do
  match ← r.fields? ["start", "end"] with
  | [start, stop] => return ⟨← required Position.read? start, ← required Position.read? stop⟩
  | _ => none

/-- Read a category. -/
def Category.read? (r : Raw) : Option Category := choice? false Category.ofName? r

/-- Read a token. -/
def Token.read? (r : Raw) : Option Token := do
  match ← r.fields? ["type", "value", "category", "range"] with
  | [type, value, category, range] =>
    return ⟨← required string? type, ← required string? value,
      ← required Category.read? category, ← required Range.read? range⟩
  | _ => none

/-! ### Character classes -/

namespace CharClass

/-- The kinds of declared classes, in their fixed order. -/
def kinds : List String := ["predefined", "chars", "range", "union", "negate", "ref"]

/-- Read a predefined class. -/
def Predefined.read? (inner : Bool) (r : Raw) : Option Predefined :=
  choice? inner Predefined.ofName? r

/-- Read the fields of a declared class of a kind; `nested` reads the classes inside. -/
def Spec.readKind? (nested : Raw → Option Spec) (kind : String) (body : Raw) : Option Spec :=
  match kind with
  | "predefined" => do
    match ← body.fields? ["name"] with
    | [name] => return .predefined (← required (Predefined.read? true) name)
    | _ => none
  | "chars" => do
    match ← body.fields? ["chars"] with
    | [members] => return .chars (← required string? members)
    | _ => none
  | "range" => do
    match ← body.fields? ["from", "to"] with
    | [first, last] => return .range (← required char? first) (← required char? last)
    | _ => none
  | "union" => do
    match ← body.fields? ["classes"] with
    | [classes] => return .union (← required (list? nested) classes)
    | _ => none
  | "negate" => do
    match ← body.fields? ["class"] with
    | [k] => return .negate (← required nested k)
    | _ => none
  | "ref" => do
    match ← body.fields? ["name"] with
    | [name] => return .ref (← required string? name)
    | _ => none
  | _ => none

/-- Read a declared class inside a tagged alternative (`inner`) or not. -/
def Spec.readIn? (inner : Bool) (r : Raw) : Option Spec :=
  r.nested? "kind" kinds Spec.readKind? inner

/-- Read a declared class. -/
def Spec.read? (r : Raw) : Option Spec := do
  guard r.isRead
  Spec.readIn? false r

end CharClass

/-! ### Matchers -/

namespace Matcher

/-- Read one literal or a list of them. -/
def Literals.read? : Raw → Option Literals
  | .str value => some (.one value)
  | r => (list? string? r).map .many

/-- Read the parameters of a delimited region. -/
def DelimitedSpec.read? (r : Raw) : Option DelimitedSpec := do
  match ← r.fields? ["open", "close", "escape", "multiline", "nested"] with
  | [opening, closing, escape, multiline, nested] =>
    return ⟨← required string? opening, ← required string? closing, ← optional char? escape,
      ← withDefault false bool? multiline, ← withDefault false bool? nested⟩
  | _ => none

/-- Read the parameters of numbers. -/
def NumberSpec.read? (r : Raw) : Option NumberSpec := do
  match ← r.fields? ["hex", "octal", "binary", "float", "scientific", "separator", "suffixes"] with
  | [hex, octal, binary, float, scientific, separator, suffixes] =>
    return ⟨← withDefault false bool? hex, ← withDefault false bool? octal,
      ← withDefault false bool? binary, ← withDefault false bool? float,
      ← withDefault false bool? scientific, ← optional char? separator,
      ← withDefault [] (list? string?) suffixes⟩
  | _ => none

/-- Read the fields of a declared matcher of a kind; `nested` reads the matchers inside. -/
def Spec.readKind? (nested : Raw → Option Spec) (kind : String) (body : Raw) : Option Spec :=
  match kind with
  | "string" => do
    match ← body.fields? ["value"] with
    | [value] => return .literal (← required Literals.read? value)
    | _ => none
  | "keywords" => do
    match ← body.fields? ["words"] with
    | [words] => return .keywords (← required (list? string?) words)
    | _ => none
  | "delimited" => return .delimited (← DelimitedSpec.read? body)
  | "line" => do
    match ← body.fields? ["start"] with
    | [start] => return .line (← required string? start)
    | _ => none
  | "charSequence" => do
    match ← body.fields? ["first", "rest"] with
    | [first, rest] =>
      return .charSequence (← required (CharClass.Spec.readIn? true) first)
        (← optional (CharClass.Spec.readIn? true) rest)
    | _ => none
  | "number" => return .number (← NumberSpec.read? body)
  | "sequence" => do
    match ← body.fields? ["matchers"] with
    | [parts] => return .sequence (← required (list? nested) parts)
    | _ => none
  | "pattern" => do
    match ← body.fields? ["regex"] with
    | [regex] => return .pattern (← required string? regex)
    | _ => none
  | _ => none

/-- Read a declared matcher inside a tagged alternative (`inner`) or not. -/
def Spec.readIn? (inner : Bool) (r : Raw) : Option Spec :=
  r.nested? "kind" kinds Spec.readKind? inner

/-- Read a declared matcher. -/
def Spec.read? (r : Raw) : Option Spec := do
  guard r.isRead
  Spec.readIn? false r

end Matcher

/-! ### Lexers -/

/-- Read a rule of a state. -/
def RuleSpec.read? (r : Raw) : Option RuleSpec := do
  match ← r.fields? ["match", "token", "push", "pop", "switchTo"] with
  | [matcher, token, push, pop, switchTo] =>
    return ⟨← required Matcher.Spec.read? matcher, ← required string? token,
      ← optional string? push, ← withDefault false bool? pop, ← optional string? switchTo⟩
  | _ => none

/-- Read how indentation is measured. -/
def Indentation.read? (r : Raw) : Option Indentation := do
  match ← r.fields? ["tabWidth"] with
  | [tabWidth] => return ⟨← withDefault 4 (word? 32) tabWidth⟩
  | _ => none

/-- Read the lexical half of a profile. -/
def LexerConfig.read? (r : Raw) : Option LexerConfig := do
  let names := ["charClasses", "tokenTypes", "states", "initialState", "skipTokens", "indentation"]
  match ← r.fields? names with
  | [charClasses, tokenTypes, states, initialState, skipTokens, indentation] =>
    return ⟨← withDefault ∅ (table? CharClass.Spec.read?) charClasses,
      ← withDefault ∅ (table? Category.read?) tokenTypes,
      ← withDefault ∅ (table? (list? RuleSpec.read?)) states,
      ← optional string? initialState, ← optional (list? string?) skipTokens,
      ← optional Indentation.read? indentation⟩
  | _ => none

/-! ### Structure -/

/-- Read a pair of brackets. -/
def BlockRule.read? (r : Raw) : Option BlockRule := do
  match ← r.fields? ["name", "open", "close"] with
  | [name, opening, closing] =>
    return ⟨← required string? name, ← required string? opening, ← required string? closing⟩
  | _ => none

/-- Read a block that was opened and closed. -/
def BlockSpan.read? (r : Raw) : Option BlockSpan := do
  match ← r.fields? ["name", "openIndex", "closeIndex", "depth"] with
  | [name, openIndex, closeIndex, depth] =>
    return ⟨← required string? name, ← required (word? 64) openIndex,
      ← required (word? 64) closeIndex, ← required (word? 64) depth⟩
  | _ => none

/-- Read a condition on a token. -/
def TokenStep.read? (r : Raw) : Option TokenStep := do
  match ← r.fields? ["type", "value", "capture"] with
  | [type, value, capture] =>
    return ⟨← required string? type, ← optional string? value, ← optional string? capture⟩
  | _ => none

/-- Read one step of a pattern: an object with the kind of step as its only name. -/
def PatternStep.read? : Raw → Option PatternStep
  | .obj [("token", body)] => (TokenStep.read? body).map .token
  | .obj [("optional", body)] => (TokenStep.read? body).map .optional
  | .obj [("anyOf", body)] => (list? TokenStep.read? body).map .anyOf
  | .obj [("skip", body)] => do
    match ← body.fields? ["max"] with
    | [max] => return .skip (← Raw.optional (word? 64) max)
    | _ => none
  | _ => none

/-- Read a body style. -/
def BodyStyle.read? (r : Raw) : Option BodyStyle := choice? false BodyStyle.ofName? r

/-- Read what a declaration looks like. -/
def SymbolRule.read? (r : Raw) : Option SymbolRule := do
  match ← r.fields? ["name", "kind", "pattern", "hasBody", "bodyStyle"] with
  | [name, kind, pattern, hasBody, bodyStyle] =>
    return ⟨← required string? name, ← required string? kind,
      ← required (list? PatternStep.read?) pattern, ← withDefault false bool? hasBody,
      ← optional BodyStyle.read? bodyStyle⟩
  | _ => none

/-- Read a declaration that was found. -/
def Symbol.read? (r : Raw) : Option Symbol := do
  match ← r.fields? ["name", "kind", "startLine", "endLine", "nameRange", "contentRange"] with
  | [name, kind, startLine, stopLine, nameRange, contentRange] =>
    return ⟨← required string? name, ← required string? kind, ← required (word? 32) startLine,
      ← required (word? 32) stopLine, ← optional Range.read? nameRange,
      ← required Range.read? contentRange⟩
  | _ => none

/-- Read which regions fold. -/
def Folding.read? (r : Raw) : Option Folding := do
  match ← r.fields? ["blocks", "comments", "minLines"] with
  | [blocks, comments, minLines] =>
    return ⟨← withDefault [] (list? string?) blocks, ← withDefault false bool? comments,
      ← withDefault 2 (word? 32) minLines⟩
  | _ => none

/-- Read a region that folds. -/
def Fold.read? (r : Raw) : Option Fold := do
  match ← r.fields? ["startLine", "endLine", "kind"] with
  | [startLine, stopLine, kind] =>
    return ⟨← required (word? 32) startLine, ← required (word? 32) stopLine,
      ← required string? kind⟩
  | _ => none

/-- Read the structural half of a profile. -/
def Structure.read? (r : Raw) : Option Structure := do
  match ← r.fields? ["blocks", "symbols", "folding"] with
  | [blocks, symbols, folding] =>
    return ⟨← withDefault [] (list? BlockRule.read?) blocks,
      ← withDefault [] (list? SymbolRule.read?) symbols, ← optional Folding.read? folding⟩
  | _ => none

/-! ### Profiles and settings -/

/-- Read a language inside another one. -/
def EmbeddedLanguage.read? (r : Raw) : Option EmbeddedLanguage := do
  match ← r.fields? ["language", "open", "close"] with
  | [language, opening, closing] =>
    return ⟨← required string? language, ← required string? opening, ← required string? closing⟩
  | _ => none

/-- Read a profile. -/
def Profile.read? (r : Raw) : Option Profile := do
  let names := ["name", "displayName", "fileExtensions", "mimeTypes", "lexer", "structure",
    "grammar", "embeddedLanguages", "extends"]
  match ← r.fields? names with
  | [name, displayName, fileExtensions, mimeTypes, lexer, structure?, grammar, embedded, parent] =>
    return {
      name := ← required string? name
      displayName := ← withDefault "" string? displayName
      fileExtensions := ← withDefault [] (list? string?) fileExtensions
      mimeTypes := ← withDefault [] (list? string?) mimeTypes
      lexer := ← withDefault {} LexerConfig.read? lexer
      structure? := ← optional Structure.read? structure?
      grammar := ← optional Raw.value? grammar
      embeddedLanguages := ← optional (list? EmbeddedLanguage.read?) embedded
      parent := ← optional string? parent }
  | _ => none

/-- Read a profile from a text; faults are those of the place the text comes from. -/
def Profile.parse (origin text : String) : Except Error Profile :=
  match (Json.parse? text).bind Profile.read? with
  | some p => .ok p
  | none => .error (.config origin .malformed)

/-- Read the settings of an engine. -/
def Settings.read? (r : Raw) : Option Settings := do
  match ← r.fields? ["lexerCacheCapacity", "maxSkipLookahead", "defaultTabWidth"] with
  | [capacity, skip, tab] =>
    return ⟨← withDefault 64 (word? 64) capacity, ← withDefault 50 (word? 64) skip,
      ← withDefault 4 (word? 32) tab⟩
  | _ => none

end Polyglot
