import Polyglot.CharClass.Basic
import Polyglot.Profile.Basic

/-!
# `Polyglot.Profile.Write`: writing profiles as values

The counterpart of the readers: every type of the data model as a value. Fields that are
absent are left out; where a field with a default is left out when it has it, the writer of
the type says so.
-/

set_option autoImplicit false

namespace Polyglot

namespace Json

/-- The field of a record if it is present. -/
def field? (name : String) (value : Option Json) : List (String × Json) :=
  value.toList.map fun v => (name, v)

/-- The field of a record unless a condition holds. -/
def fieldUnless (name : String) (isDefault : Bool) (value : Json) : List (String × Json) :=
  if isDefault then [] else [(name, value)]

end Json

/-- A table as a value. -/
def Table.json {α : Type} (value : α → Json) (t : Table α) : Json :=
  .obj (t.entries.map fun e => (e.1, value e.2))

/-! ### Positions and tokens -/

/-- A position as a value. -/
def Position.json (p : Position) : Json :=
  .object [("line", .nat p.line), ("column", .nat p.column), ("offset", .nat p.offset)]

/-- A range as a value. -/
def Range.json (r : Range) : Json := .object [("start", r.start.json), ("end", r.stop.json)]

/-- A category as a value. -/
def Category.json (c : Category) : Json := .str c.name

/-- A token as a value. -/
def Token.json (t : Token) : Json :=
  .object [("type", .str t.type), ("value", .str t.value), ("category", t.category.json),
    ("range", t.range.json)]

/-! ### Character classes -/

namespace CharClass

mutual

/-- A declared class as a value. -/
def Spec.json : Spec → Json
  | .predefined p => .object [("kind", .str "predefined"), ("name", .str p.name)]
  | .chars members => .object [("kind", .str "chars"), ("chars", .str members)]
  | .range first last =>
    .object [("kind", .str "range"), ("from", .str (String.singleton first)),
      ("to", .str (String.singleton last))]
  | .union classes => .object [("kind", .str "union"), ("classes", .arr (Spec.jsonAll classes))]
  | .negate inner => .object [("kind", .str "negate"), ("class", Spec.json inner)]
  | .ref name => .object [("kind", .str "ref"), ("name", .str name)]

/-- Declared classes as values. -/
def Spec.jsonAll : List Spec → List Json
  | [] => []
  | k :: rest => Spec.json k :: Spec.jsonAll rest

end

mutual

/-- A class without references as a value. -/
def json : CharClass → Json
  | .predefined p => .object [("predefined", .str p.name)]
  | .chars members => .object [("chars", .str (String.ofList members.toList))]
  | .range first last =>
    .object [("range", .arr [.str (String.singleton first), .str (String.singleton last)])]
  | .union classes => .object [("union", .arr (jsonAll classes))]
  | .negate inner => .object [("negate", json inner)]

/-- Classes without references as values. -/
def jsonAll : List CharClass → List Json
  | [] => []
  | k :: rest => json k :: jsonAll rest

end

end CharClass

/-! ### Matchers -/

namespace Matcher

/-- Literals as a value; a single one is a string and a list stays a list. -/
def Literals.json : Literals → Json
  | .one value => .str value
  | .many values => .strings values

/-- A character as a value. -/
def charJson (c : Char) : Json := .str (String.singleton c)

/-- The fields of a delimited region. -/
def DelimitedSpec.fields (d : DelimitedSpec) : List (String × Json) :=
  [("open", .str d.opening), ("close", .str d.closing)] ++
    Json.field? "escape" (d.escape.map charJson) ++
    [("multiline", .bool d.multiline), ("nested", .bool d.nested)]

/-- The fields of numbers; an empty list of suffixes is left out. -/
def NumberSpec.fields (n : NumberSpec) : List (String × Json) :=
  [("hex", .bool n.hex), ("octal", .bool n.octal), ("binary", .bool n.binary),
      ("float", .bool n.float), ("scientific", .bool n.scientific)] ++
    Json.field? "separator" (n.separator.map charJson) ++
    Json.fieldUnless "suffixes" n.suffixes.isEmpty (.strings n.suffixes)

mutual

/-- A declared matcher as a value. -/
def Spec.json : Spec → Json
  | .literal value => .object [("kind", .str "string"), ("value", value.json)]
  | .keywords words => .object [("kind", .str "keywords"), ("words", .strings words)]
  | .delimited d => .object (("kind", .str "delimited") :: d.fields)
  | .line start => .object [("kind", .str "line"), ("start", .str start)]
  | .charSequence first rest =>
    .object ([("kind", .str "charSequence"), ("first", first.json)] ++
      Json.field? "rest" (rest.map CharClass.Spec.json))
  | .number n => .object (("kind", .str "number") :: n.fields)
  | .sequence parts => .object [("kind", .str "sequence"), ("matchers", .arr (Spec.jsonAll parts))]
  | .pattern regex => .object [("kind", .str "pattern"), ("regex", .str regex)]

/-- Declared matchers as values. -/
def Spec.jsonAll : List Spec → List Json
  | [] => []
  | part :: rest => Spec.json part :: Spec.jsonAll rest

end

end Matcher

/-! ### Lexers -/

/-- A rule of a state as a value; not to pop is left out. -/
def RuleSpec.json (r : RuleSpec) : Json :=
  .object ([("match", r.matcher.json), ("token", .str r.token)] ++
    Json.field? "push" (r.push.map .str) ++ Json.fieldUnless "pop" (!r.pop) (.bool r.pop) ++
    Json.field? "switchTo" (r.switchTo.map .str))

/-- How indentation is measured, as a value. -/
def Indentation.json (i : Indentation) : Json := .object [("tabWidth", .nat i.tabWidth)]

/-- The lexical half of a profile as a value; empty tables of classes and token types are left
out. -/
def LexerConfig.json (c : LexerConfig) : Json :=
  .object (Json.fieldUnless "charClasses" c.charClasses.isEmpty
      (c.charClasses.json CharClass.Spec.json) ++
    Json.fieldUnless "tokenTypes" c.tokenTypes.isEmpty (c.tokenTypes.json Category.json) ++
    [("states", c.states.json fun rules => .arr (rules.map RuleSpec.json))] ++
    Json.field? "initialState" (c.initialState.map .str) ++
    Json.field? "skipTokens" (c.skipTokens.map Json.strings) ++
    Json.field? "indentation" (c.indentation.map Indentation.json))

/-! ### Structure -/

/-- A pair of brackets as a value. -/
def BlockRule.json (r : BlockRule) : Json :=
  .object [("name", .str r.name), ("open", .str r.opening), ("close", .str r.closing)]

/-- A block that was opened and closed, as a value. -/
def BlockSpan.json (s : BlockSpan) : Json :=
  .object [("name", .str s.name), ("openIndex", .nat s.openIndex),
    ("closeIndex", .nat s.closeIndex), ("depth", .nat s.depth)]

/-- A condition on a token as a value. -/
def TokenStep.json (s : TokenStep) : Json :=
  .object ([("type", .str s.type)] ++ Json.field? "value" (s.value.map .str) ++
    Json.field? "capture" (s.capture.map .str))

/-- The parameters of a skip as a value. -/
def skipJson (max : Option Nat) : Json := .object (Json.field? "max" (max.map .nat))

/-- One step of a pattern as a value. -/
def PatternStep.json : PatternStep → Json
  | .token step => .object [("token", step.json)]
  | .optional step => .object [("optional", step.json)]
  | .anyOf steps => .object [("anyOf", .arr (steps.map TokenStep.json))]
  | .skip max => .object [("skip", skipJson max)]

/-- What a declaration looks like, as a value. -/
def SymbolRule.json (r : SymbolRule) : Json :=
  .object ([("name", .str r.name), ("kind", .str r.kind),
      ("pattern", .arr (r.pattern.map PatternStep.json)), ("hasBody", .bool r.hasBody)] ++
    Json.field? "bodyStyle" (r.bodyStyle.map fun s => .str s.name))

/-- A declaration that was found, as a value. -/
def Symbol.json (s : Symbol) : Json :=
  .object ([("name", .str s.name), ("kind", .str s.kind), ("startLine", .nat s.startLine),
      ("endLine", .nat s.stopLine)] ++ Json.field? "nameRange" (s.nameRange.map Range.json) ++
    [("contentRange", s.contentRange.json)])

/-- Which regions fold, as a value. -/
def Folding.json (f : Folding) : Json :=
  .object [("blocks", .strings f.blocks), ("comments", .bool f.comments),
    ("minLines", .nat f.minLines)]

/-- A region that folds, as a value. -/
def Fold.json (f : Fold) : Json :=
  .object [("startLine", .nat f.startLine), ("endLine", .nat f.stopLine), ("kind", .str f.kind)]

/-- The structural half of a profile as a value. -/
def Structure.json (s : Structure) : Json :=
  .object ([("blocks", .arr (s.blocks.map BlockRule.json)),
      ("symbols", .arr (s.symbols.map SymbolRule.json))] ++
    Json.field? "folding" (s.folding.map Folding.json))

/-! ### Profiles and settings -/

/-- A language inside another one, as a value. -/
def EmbeddedLanguage.json (e : EmbeddedLanguage) : Json :=
  .object [("language", .str e.language), ("open", .str e.opening), ("close", .str e.closing)]

/-- A profile as a value. -/
def Profile.json (p : Profile) : Json :=
  .object ([("name", .str p.name), ("displayName", .str p.displayName),
      ("fileExtensions", .strings p.fileExtensions), ("mimeTypes", .strings p.mimeTypes),
      ("lexer", p.lexer.json)] ++
    Json.field? "structure" (p.structure?.map Structure.json) ++
    Json.field? "grammar" p.grammar ++
    Json.field? "embeddedLanguages"
      (p.embeddedLanguages.map fun es => .arr (es.map EmbeddedLanguage.json)) ++
    Json.field? "extends" (p.parent.map .str))

/-- The settings of an engine as a value. -/
def Settings.json (s : Settings) : Json :=
  .object [("lexerCacheCapacity", .nat s.lexerCacheCapacity),
    ("maxSkipLookahead", .nat s.maxSkipLookahead), ("defaultTabWidth", .nat s.defaultTabWidth)]

end Polyglot
