import Polyglot.Block
import Polyglot.Symbol.Rule

/-!
# `Polyglot.Symbol.Extent`: how far a declaration goes

After the tokens of its pattern, a declaration goes on

* to the end of the statement (`Extent.statementEnd`): a semicolon, which is included, or in
  front of a line break or of a closing bracket that was not opened since;
* to the end of the next block in braces, or to the end of the statement if there is none;
* over the lines that are indented deeper than its first line (`Extent.indentedEnd`).

The indentation of a line is a 32-bit word: a space adds one and a tab moves to the next
multiple of the tab width.
-/

set_option autoImplicit false

namespace Polyglot

/-! ### Lines -/

/-- The start of a line: its byte offset, and the text from there on. -/
structure LineStart where
  /-- The byte offset. -/
  offset : Nat
  /-- The text from there on. -/
  text : List Char
deriving DecidableEq, Repr, Inhabited

/-- The starts of the lines after the one that a text at an offset starts in. A carriage return
before a line feed does not end a line by itself. -/
def laterLineStarts (offset : Nat) : List Char → List LineStart
  | [] => []
  | c :: rest =>
    let next := offset + c.utf8Size
    if c = '\n' ∨ (c = '\r' ∧ rest.head? ≠ some '\n') then
      ⟨next, rest⟩ :: laterLineStarts next rest
    else laterLineStarts next rest

/-- The starts of the lines of a text. -/
def lineStarts (source : List Char) : List LineStart := ⟨0, source⟩ :: laterLineStarts 0 source

/-- The least multiple of `n` that is not below `w`, as a 32-bit word. -/
def nextMultiple (w n : UInt32) : UInt32 :=
  if w % n = 0 then w else w + (n - w % n)

/-- The width of the blanks at the start of a line, after a width of `w`. -/
def indentFrom (tabWidth w : UInt32) : List Char → UInt32
  | ' ' :: rest => indentFrom tabWidth (w + 1) rest
  | '\t' :: rest => indentFrom tabWidth (nextMultiple (w + 1) tabWidth) rest
  | _ => w

/-! ### Extents -/

/-- What the extent of a declaration is found from. -/
structure Extent where
  /-- All tokens. -/
  tokens : Array Token
  /-- The blocks among them. -/
  spans : List BlockSpan
  /-- The types of tokens that are passed over. -/
  skipTypes : List String
  /-- The starts of the lines. -/
  lines : Array LineStart
  /-- The width of a tab, at least one. -/
  tabWidth : UInt32
deriving Inhabited

namespace Extent

/-- What extents in a source are found from. -/
def new (source : String) (tokens : Array Token) (spans : List BlockSpan)
    (skipTypes : List String) (tabWidth : Nat) : Extent where
  tokens := tokens
  spans := spans
  skipTypes := skipTypes
  lines := (lineStarts source.toList).toArray
  tabWidth := UInt32.ofNat (max tabWidth 1)

/-- Whether a token is passed over. -/
def isSkipped (x : Extent) (token : Token) : Bool := x.skipTypes.contains token.type

/-- The indentation of a line, counted from one; zero if there is no such line. -/
def indentOf (x : Extent) (line : Nat) : UInt32 :=
  if line = 0 then 0 else ((x.lines[line - 1]?).map fun l => indentFrom x.tabWidth 0 l.text).getD 0

/-- Whether a token breaks a line: a line break, or a blank that holds one. -/
def isLineBreak (token : Token) : Bool :=
  token.category == .newline ||
    (token.category == .whitespace && token.value.toList.any Position.endsLine)

/-- Whether a text opens a bracket. -/
def isOpening (value : String) : Bool := value == "(" || value == "[" || value == "\x7b"

/-- Whether a text closes a bracket. -/
def isClosing (value : String) : Bool := value == ")" || value == "]" || value == "\x7d"

/-- The end of a statement among the tokens from `index` on, `depth` brackets being open and
`stop` being the end so far. -/
def statementFrom (x : Extent) (depth stop index : Nat) : List Token → Nat
  | [] => stop
  | token :: rest =>
    let extended := if x.isSkipped token then stop else index
    if isOpening token.value then statementFrom x (depth + 1) extended (index + 1) rest
    else if isClosing token.value then
      if depth = 0 then stop else statementFrom x (depth - 1) extended (index + 1) rest
    else if token.value == ";" && depth == 0 then index
    else if depth == 0 && isLineBreak token then stop
    else statementFrom x depth extended (index + 1) rest

/-- The index of the last token of the statement that goes on after token `last`. -/
def statementEnd (x : Extent) (last : Nat) : Nat :=
  statementFrom x 0 last (last + 1) (x.tokens.toList.drop (last + 1))

/-- The end of an indented body among the tokens from `index` on. `base` is the indentation
of the declaration, `line` the last line that belongs to it so far and `stop` its end so far. -/
def indentedFrom (x : Extent) (base : UInt32) (line stop index : Nat) : List Token → Nat
  | [] => stop
  | token :: rest =>
    if x.isSkipped token then indentedFrom x base line stop (index + 1) rest
    else
      let start := token.range.start.line
      if start > line && x.indentOf start ≤ base then stop
      else indentedFrom x base (max (max line start) token.range.stop.line) index (index + 1) rest

/-- The index of the last token of an indented body after the tokens `first` to `last`. -/
def indentedEnd (x : Extent) (first last : Nat) : Nat :=
  match x.tokens[first]? with
  | none => last
  | some start =>
    let base := x.indentOf start.range.start.line
    let line := ((x.tokens[last]?).map (·.range.stop.line)).getD 0
    indentedFrom x base line last (last + 1) (x.tokens.toList.drop (last + 1))

/-- The block in braces that opens first from token `last` on. -/
def nextBraces? (x : Extent) (last : Nat) : Option BlockSpan :=
  (x.spans.filter fun span => span.name == "braces" && last ≤ span.openIndex).foldl
    (fun best span =>
      match best with
      | none => some span
      | some b => if span.openIndex < b.openIndex then some span else some b)
    none

/-- The index of the last token of a declaration whose pattern took the tokens `first` to
`last`. -/
def endOf (x : Extent) (rule : SymbolRule) (first last : Nat) : Nat :=
  if !rule.hasBody then x.statementEnd last
  else
    match rule.bodyStyle.getD .braces with
    | .braces =>
      match x.nextBraces? last with
      | some span => span.closeIndex
      | none => x.statementEnd last
    | .indentation => x.indentedEnd first last

end Extent

end Polyglot
