import Polyglot.CharClass.Basic
import Polyglot.Matcher.Delimited
import Polyglot.Matcher.Literal
import Polyglot.Matcher.Number
import Polyglot.Regex.Search

/-!
# `Polyglot.Matcher.Basic`: matchers ready for use

`Matcher.length` says how many code points a matcher takes from the start of a text, zero
standing for no match. It is given the text from the cursor on and the one character in front
of the cursor, and nothing else, so a match cannot depend on what was read before that.

`Matcher.compile` prepares a declared matcher; it fails on a broken class reference, on an
empty delimiter or line start, and on a pattern that is no regular expression.
-/

set_option autoImplicit false

namespace Polyglot

/-- A matcher ready for use. -/
inductive Matcher where
  /-- Literals, longest first. -/
  | literal (words : List (List Char))
  /-- Words that no word character touches, longest first. -/
  | keywords (words : List (List Char))
  /-- A region between two delimiters. -/
  | delimited (region : Matcher.Delimited)
  /-- From a text to the end of the line. -/
  | line (start : List Char)
  /-- A character of one class and then a run of characters of another. -/
  | charSequence (first : CharClass) (rest : Option CharClass)
  /-- A number. -/
  | number (n : Matcher.Number)
  /-- Several matchers one after the other. -/
  | sequence (parts : List Matcher)
  /-- A regular expression. -/
  | pattern (program : Regex.Program)
deriving Repr, Inhabited

namespace Matcher

/-! ### Matching -/

/-- The length of a character of the first class and the run of the second after it. -/
def charSequenceLength (first : CharClass) (rest : Option CharClass) : List Char → Nat
  | [] => 0
  | c :: text =>
    if first.contains c then
      match rest with
      | none => 1
      | some k => 1 + (text.takeWhile k.contains).length
    else 0

/-- The last of the first `n` characters of a text, or `behind` if there is none. -/
def lastOf (behind : Option Char) (text : List Char) : Nat → Option Char
  | 0 => behind
  | n + 1 => text[n]? <|> behind

mutual

/-- How many code points a matcher takes from the start of `text`, `behind` being the
character in front of it. -/
def length : Matcher → Option Char → List Char → Nat
  | .literal words, _, text => literalLength words text
  | .keywords words, behind, text => keywordLength words behind text
  | .delimited region, _, text => region.length text
  | .line start, _, text => lineLength start text
  | .charSequence first rest, _, text => charSequenceLength first rest text
  | .number n, _, text => n.length text
  | .sequence parts, behind, text => (sequenceLength? parts behind text).getD 0
  | .pattern program, _, text => (program.search? text).getD 0

/-- How many code points several matchers take one after the other; each has to take some. -/
def sequenceLength? : List Matcher → Option Char → List Char → Option Nat
  | [], _, _ => some 0
  | part :: parts, behind, text =>
    let n := length part behind text
    if n = 0 then none
    else (sequenceLength? parts (lastOf behind text n) (text.drop n)).map (n + ·)

end

/-- How many bytes a matcher takes from the start of `text`. -/
def byteLength (m : Matcher) (behind : Option Char) (text : List Char) : Nat :=
  byteSize (text.take (m.length behind text))

/-! ### Compilation -/

mutual

/-- A declared matcher, ready for use. -/
def compile (classes : Table CharClass.Spec) : Spec → Except Fault Matcher
  | .literal value => .ok (.literal (longestFirst value.toList))
  | .keywords words => .ok (.keywords (longestFirst words))
  | .delimited d =>
    if d.opening.isEmpty || d.closing.isEmpty then .error .emptyDelimiter
    else
      .ok (.delimited ⟨d.opening.toList, d.closing.toList, d.escape, d.multiline, d.nested⟩)
  | .line start => if start.isEmpty then .error .emptyLineStart else .ok (.line start.toList)
  | .charSequence first rest => do
    let first ← CharClass.compile classes first
    let rest ← rest.mapM (CharClass.compile classes)
    return .charSequence first rest
  | .number spec => .ok (.number (.ofSpec spec))
  | .sequence parts => (compileAll classes parts).map .sequence
  | .pattern regex =>
    match Regex.compile? regex with
    | some program => .ok (.pattern program)
    | none => .error (.badPattern regex)

/-- Several declared matchers, ready for use; the first fault counts. -/
def compileAll (classes : Table CharClass.Spec) : List Spec → Except Fault (List Matcher)
  | [] => .ok []
  | part :: rest => do
    let first ← compile classes part
    let others ← compileAll classes rest
    return first :: others

end

end Matcher

end Polyglot
