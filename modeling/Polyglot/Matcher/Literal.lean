import Polyglot.Text.Cursor
import Polyglot.Unicode.Numeric

/-!
# `Polyglot.Matcher.Literal`: literals, keywords and line regions

Literals are tried in the order of their length in bytes, longest first. All functions here
answer with a number of code points, zero standing for no match.
-/

set_option autoImplicit false

namespace Polyglot.Matcher

/-- The literals that are not empty, longest first; literals of one length keep their order. -/
def longestFirst (words : List String) : List (List Char) :=
  ((words.map String.toList).filter fun w => !w.isEmpty).mergeSort
    fun a b => byteSize b ≤ byteSize a

/-- The length of the first literal that the text starts with. -/
def literalLength (words : List (List Char)) (text : List Char) : Nat :=
  ((words.find? fun w => w.isPrefixOf text).map List.length).getD 0

/-- Whether a character extends a word, for which keywords may not touch it. -/
def isWordChar (c : Char) : Bool := Unicode.isAlphanumeric c || c == '_' || c == '$'

/-- The length of the first word that the text starts with and that is not followed by a word
character; nothing matches after a word character. -/
def keywordLength (words : List (List Char)) (behind : Option Char) (text : List Char) : Nat :=
  if behind.any isWordChar then 0
  else
    ((words.find? fun w =>
      w.isPrefixOf text && !(text.drop w.length).head?.any isWordChar).map List.length).getD 0

/-- The length of a line region: from its start to the next line break. -/
def lineLength (start : List Char) (text : List Char) : Nat :=
  if start.isPrefixOf text then
    start.length + ((text.drop start.length).takeWhile fun c => !Position.endsLine c).length
  else 0

end Polyglot.Matcher
