import Polyglot.Text.Position

/-!
# `Polyglot.Token`: tokens and their categories

A token has a type, which is a name that the profile chooses, and a category, which is one
of a closed list that renderers know. `Category.all` is that list in its fixed order.
-/

set_option autoImplicit false

namespace Polyglot

/-- How a token is presented. -/
inductive Category where
  /-- Reserved words. -/
  | keyword
  /-- Names. -/
  | identifier
  /-- Strings and their parts. -/
  | string
  /-- Numbers. -/
  | number
  /-- Comments. -/
  | comment
  /-- Operators. -/
  | operator
  /-- Brackets and separators. -/
  | punctuation
  /-- Names of types. -/
  | type
  /-- Decorators and annotations. -/
  | decorator
  /-- Tags of markup. -/
  | tag
  /-- Attributes of markup. -/
  | attribute
  /-- Directives. -/
  | directive
  /-- Regular expressions. -/
  | regexp
  /-- Escapes inside strings. -/
  | escape
  /-- Variables. -/
  | variableName
  /-- Named constants. -/
  | constant
  /-- Characters that no rule matched. -/
  | error
  /-- Text without a more specific category. -/
  | plain
  /-- Blanks within a line. -/
  | whitespace
  /-- Line breaks. -/
  | newline
deriving DecidableEq, Repr

namespace Category

/-- All categories in their fixed order. -/
def all : List Category :=
  [.keyword, .identifier, .string, .number, .comment, .operator, .punctuation, .type,
    .decorator, .tag, .attribute, .directive, .regexp, .escape, .variableName, .constant, .error,
    .plain, .whitespace, .newline]

/-- The name of a category. -/
def name : Category → String
  | .keyword => "keyword"
  | .identifier => "identifier"
  | .string => "string"
  | .number => "number"
  | .comment => "comment"
  | .operator => "operator"
  | .punctuation => "punctuation"
  | .type => "type"
  | .decorator => "decorator"
  | .tag => "tag"
  | .attribute => "attribute"
  | .directive => "meta"
  | .regexp => "regexp"
  | .escape => "escape"
  | .variableName => "variable"
  | .constant => "constant"
  | .error => "error"
  | .plain => "plain"
  | .whitespace => "whitespace"
  | .newline => "newline"

/-- The category with a name. -/
def ofName? (name : String) : Option Category := all.find? (·.name == name)

/-- A category is found under its name. -/
@[simp] theorem ofName?_name (c : Category) : ofName? c.name = some c := by
  cases c <;> decide

/-- The wording for a name that no category has. -/
def unknownMessage (name : String) : String := "unknown token category: '" ++ name ++ "'"

/-- Where a category stands in the list of all. -/
def index (c : Category) : Nat := all.idxOf c

instance : Inhabited Category := ⟨.plain⟩

end Category

/-- A piece of a source text. -/
structure Token where
  /-- The type that the profile gave it. -/
  type : String
  /-- The text. -/
  value : String
  /-- How it is presented. -/
  category : Category
  /-- Where it stands. -/
  range : Range
deriving DecidableEq, Repr, Inhabited

namespace Token

/-- The number of bytes of the text. -/
def size (t : Token) : Nat := t.value.utf8ByteSize

/-- Whether the token has no text. -/
def isEmpty (t : Token) : Bool := t.value.isEmpty

/-- Whether the token ends on a later line than it starts. -/
def spansLines (t : Token) : Bool := t.range.start.line < t.range.stop.line

end Token

end Polyglot
