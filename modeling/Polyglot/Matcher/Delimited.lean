import Polyglot.Matcher.Spec
import Polyglot.Text.Position

/-!
# `Polyglot.Matcher.Delimited`: regions between delimiters

After its opening text, a region is read unit by unit. A unit is the first that applies of:
the escape character and the character after it, the closing text, the opening text (if
regions nest), a single character. The region ends with the closing text that balances the
opening one. It does not match if it never ends, if an escape has nothing after it, or if a
single character is a line break and the region has to stay on one line.
-/

set_option autoImplicit false

namespace Polyglot.Matcher

/-- A region between delimiters, ready for use. -/
structure Delimited where
  /-- The text that opens the region. -/
  opening : List Char
  /-- The text that closes the region. -/
  closing : List Char
  /-- A character that takes the meaning from the one after it. -/
  escape : Option Char
  /-- Whether the region may hold a line break. -/
  multiline : Bool
  /-- Whether regions of this kind nest. -/
  nested : Bool
deriving DecidableEq, Repr, Inhabited

namespace Delimited

/-- The number of code points up to the end of the region, `depth` openings being unbalanced.
A unit is at least one character, so what follows it is part of what follows its first. -/
def scan (d : Delimited) (depth : Nat) : List Char → Option Nat
  | [] => none
  | c :: rest =>
    if d.escape = some c then
      match rest with
      | [] => none
      | '\r' :: '\n' :: after => (scan d depth after).map (· + 3)
      | _ :: after => (scan d depth after).map (· + 2)
    else if d.closing.isPrefixOf (c :: rest) then
      if depth ≤ 1 then some d.closing.length
      else
        (scan d (depth - 1) (rest.drop (d.closing.length - 1))).map (· + d.closing.length)
    else if d.nested && d.opening.isPrefixOf (c :: rest) then
      (scan d (depth + 1) (rest.drop (d.opening.length - 1))).map (· + d.opening.length)
    else if !d.multiline && Position.endsLine c then none
    else (scan d depth rest).map (· + 1)
termination_by text => text.length
decreasing_by all_goals simp <;> omega

/-- The length of the region at the start of a text, in code points, or zero. -/
def length (d : Delimited) (text : List Char) : Nat :=
  if d.opening.isPrefixOf text then
    ((scan d 1 (text.drop d.opening.length)).map (· + d.opening.length)).getD 0
  else 0

end Delimited

end Polyglot.Matcher
