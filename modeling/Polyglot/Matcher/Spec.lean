import Polyglot.CharClass.Spec

/-!
# `Polyglot.Matcher.Spec`: matchers as profiles declare them

A matcher recognises a piece of text at a place. There are eight kinds, from literal words to
regular expressions; `Matcher.Spec` has the parameters of each.
-/

set_option autoImplicit false

namespace Polyglot.Matcher

/-- One literal or a list of them. The two forms are told apart when they are written. -/
inductive Literals where
  /-- A single literal. -/
  | one (value : String)
  /-- A list of literals. -/
  | many (values : List String)
deriving DecidableEq, Repr, Inhabited

/-- The literals in the order of their declaration. -/
def Literals.toList : Literals → List String
  | .one value => [value]
  | .many values => values

/-- A region between two delimiters. -/
structure DelimitedSpec where
  /-- The text that opens the region. -/
  opening : String
  /-- The text that closes the region. -/
  closing : String
  /-- A character that takes the meaning from the one after it. -/
  escape : Option Char := none
  /-- Whether the region may hold a line break. -/
  multiline : Bool := false
  /-- Whether regions of this kind nest. -/
  nested : Bool := false
deriving DecidableEq, Repr, Inhabited

/-- The numbers of a language. -/
structure NumberSpec where
  /-- Hexadecimal numbers after `0x`. -/
  hex : Bool := false
  /-- Octal numbers after `0o`. -/
  octal : Bool := false
  /-- Binary numbers after `0b`. -/
  binary : Bool := false
  /-- Fractions. -/
  float : Bool := false
  /-- Exponents. -/
  scientific : Bool := false
  /-- A character that may stand between two digits. -/
  separator : Option Char := none
  /-- What may follow a number directly. -/
  suffixes : List String := []
deriving DecidableEq, Repr, Inhabited

/-- A matcher as declared. -/
inductive Spec where
  /-- The longest of some literals. -/
  | literal (value : Literals)
  /-- The longest of some words that no word character touches. -/
  | keywords (words : List String)
  /-- A region between two delimiters. -/
  | delimited (spec : DelimitedSpec)
  /-- From a text to the end of the line. -/
  | line (start : String)
  /-- A character of one class and then a run of characters of another. -/
  | charSequence (first : CharClass.Spec) (rest : Option CharClass.Spec)
  /-- A number. -/
  | number (spec : NumberSpec)
  /-- Several matchers one after the other. -/
  | sequence (parts : List Spec)
  /-- A regular expression. -/
  | pattern (regex : String)
deriving Repr, Inhabited

/-- The names of the kinds, in their fixed order. -/
def kinds : List String :=
  ["string", "keywords", "delimited", "line", "charSequence", "number", "sequence", "pattern"]

/-- The name of a matcher's kind. -/
def Spec.kind : Spec → String
  | .literal _ => "string"
  | .keywords _ => "keywords"
  | .delimited _ => "delimited"
  | .line _ => "line"
  | .charSequence _ _ => "charSequence"
  | .number _ => "number"
  | .sequence _ => "sequence"
  | .pattern _ => "pattern"

end Polyglot.Matcher
