import Polyglot.Regex.Property.Word

/-!
# `Polyglot.Regex.Basic`: regular expressions

The expressions that a pattern may denote, and what an assertion says about the two
characters around a position. There are no back references and no look-around, so what
matches at a position depends on the text from there on and the character in front of it.
-/

set_option autoImplicit false

namespace Polyglot.Regex

/-- What is asked about the word characters around a position. -/
inductive WordTest where
  /-- One side is in a word and the other is not. -/
  | boundary
  /-- Both sides are in a word, or neither is. -/
  | notBoundary
  /-- A word starts here. -/
  | start
  /-- A word ends here. -/
  | stop
  /-- No word character in front. -/
  | startHalf
  /-- No word character behind. -/
  | stopHalf
deriving DecidableEq, Repr

/-- A condition on a position that reads no character. -/
inductive Assertion where
  /-- The start of the text. -/
  | textStart
  /-- The end of the text. -/
  | textStop
  /-- The start of a line; lines end with a line feed. -/
  | lineStart
  /-- The end of a line; lines end with a line feed. -/
  | lineStop
  /-- The start of a line; lines end with a line feed, a carriage return or both. -/
  | crlfStart
  /-- The end of a line; lines end with a line feed, a carriage return or both. -/
  | crlfStop
  /-- A condition on the words around, only ASCII word characters counting if `ascii`. -/
  | word (ascii : Bool) (test : WordTest)
deriving DecidableEq, Repr

/-- Whether an assertion holds between two neighbours; there is none at an end of the text. -/
def Assertion.holds (a : Assertion) (before after : Option Char) : Bool :=
  match a with
  | .textStart => before.isNone
  | .textStop => after.isNone
  | .lineStart => before.isNone || before == some '\n'
  | .lineStop => after.isNone || after == some '\n'
  | .crlfStart =>
    before.isNone || before == some '\n' || (before == some '\r' && after != some '\n')
  | .crlfStop =>
    after.isNone || after == some '\r' || (after == some '\n' && before != some '\r')
  | .word ascii test =>
    let word := if ascii then CharSet.asciiWord else Property.word
    let left := before.any word.contains
    let right := after.any word.contains
    match test with
    | .boundary => left != right
    | .notBoundary => left == right
    | .start => !left && right
    | .stop => left && !right
    | .startHalf => !left
    | .stopHalf => !right

end Polyglot.Regex

namespace Polyglot

/-- A regular expression. -/
inductive Regex where
  /-- The empty text. -/
  | empty
  /-- One character of a set. -/
  | set (s : Regex.CharSet)
  /-- No text, at a position where the assertion holds. -/
  | assert (a : Regex.Assertion)
  /-- One expression after the other. -/
  | seq (first second : Regex)
  /-- Either expression, the first one preferred. -/
  | alt (first second : Regex)
  /-- A captured group. -/
  | group (body : Regex)
  /-- At least `least` and at most `most` times; more is preferred if `greedy`, else fewer. -/
  | rep (body : Regex) (least : Nat) (most : Option Nat) (greedy : Bool)
deriving DecidableEq, Repr, Inhabited

namespace Regex

/-- Whether the expression may match without reading a character. -/
def mayBeEmpty : Regex → Bool
  | .empty => true
  | .set _ => false
  | .assert _ => true
  | .seq a b => a.mayBeEmpty && b.mayBeEmpty
  | .alt a b => a.mayBeEmpty || b.mayBeEmpty
  | .group a => a.mayBeEmpty
  | .rep a least _ _ => least == 0 || a.mayBeEmpty

/-- Whether the expression can read a character at all. -/
def reads : Regex → Bool
  | .empty => false
  | .set _ => true
  | .assert _ => false
  | .seq a b => a.reads || b.reads
  | .alt a b => a.reads || b.reads
  | .group a => a.reads
  | .rep a _ most _ => a.reads && most != some 0

/-- Whether every match starts by asserting the start of the text. -/
def isAnchored : Regex → Bool
  | .assert .textStart => true
  | .seq a b => a.isAnchored || (!a.reads && b.isAnchored)
  | .alt a b => a.isAnchored && b.isAnchored
  | .group a => a.isAnchored
  | .rep a least _ _ => least != 0 && a.isAnchored
  | _ => false

/-- Whether every match stops by asserting the end of the text. -/
def isAnchoredAtStop : Regex → Bool
  | .assert .textStop => true
  | .seq a b => b.isAnchoredAtStop || (!b.reads && a.isAnchoredAtStop)
  | .alt a b => a.isAnchoredAtStop && b.isAnchoredAtStop
  | .group a => a.isAnchoredAtStop
  | .rep a least _ _ => least != 0 && a.isAnchoredAtStop
  | _ => false

/-! ### Building expressions

The functions of this section build expressions in a simple form, from parts in that form: what
matches nothing is left out, sets are joined, and a common start of alternatives is written
once. -/

/-- A repetition. To repeat an expression that reads nothing is to match it once or to leave it
out. -/
def repeated (body : Regex) (least : Nat) (most : Option Nat) (greedy : Bool) : Regex :=
  let (least, most) :=
    if body.reads then (least, most) else (min least 1, some (min (most.getD 1) 1))
  if most = some 0 then .empty
  else if least = 1 ∧ most = some 1 then body
  else .rep body least most greedy

/-- Expressions in a row. -/
def row : List Regex → Regex
  | [] => .empty
  | [r] => r
  | r :: rest => .seq r (row rest)

/-- The parts of an expression that match one after the other. -/
def parts : Regex → List Regex
  | .empty => []
  | .seq a b => a.parts ++ b.parts
  | r => [r]

/-- The expressions of a list one after the other. -/
def seqAll (items : List Regex) : Regex := row (items.flatMap parts)

/-- Whether an expression is a single character. -/
def isLiteral : Regex → Bool
  | .set s => s.only?.isSome
  | _ => false

/-- Whether an expression is a set of characters, but not a single one. -/
def isClass : Regex → Bool
  | .set s => s.only?.isNone
  | _ => false

/-- The set of an expression that is one. -/
def charSet : Regex → CharSet
  | .set s => s
  | _ => .empty

/-- The parts of an expression with adjacent literals put together. -/
def segments : List Regex → List (List Regex)
  | [] => []
  | r :: rest =>
    match segments rest with
    | (next :: run) :: runs =>
      if r.isLiteral && next.isLiteral then (r :: next :: run) :: runs
      else [r] :: (next :: run) :: runs
    | runs => [r] :: runs

/-- The alternatives of an expression. -/
def alternatives : Regex → List Regex
  | .alt a b => a :: b.alternatives
  | r => [r]

/-- Alternatives in a row. -/
def choice : List Regex → Regex
  | [] => .empty
  | [r] => r
  | r :: rest => .alt r (choice rest)

/-- One of the expressions of a list, earlier ones preferred. Characters, and likewise sets, are
joined to one set. -/
def altPlain (branches : List Regex) : Regex :=
  match branches.flatMap alternatives with
  | [] => .empty
  | [r] => r
  | branches =>
    if branches.all isLiteral || branches.all isClass then
      .set (CharSet.unionAll (branches.map charSet))
    else choice branches

/-- Whether the expression has a captured group. Two groups are never the same one. -/
def hasGroup : Regex → Bool
  | .group _ => true
  | .seq a b => a.hasGroup || b.hasGroup
  | .alt a b => a.hasGroup || b.hasGroup
  | .rep a _ _ _ => a.hasGroup
  | _ => false

/-- The longest common start of two lists. -/
def commonStart {α : Type} [DecidableEq α] : List α → List α → List α
  | a :: as, b :: bs => if a = b then a :: commonStart as bs else []
  | _, _ => []

/-- One of the expressions of a list, earlier ones preferred. A start that all of them have in
common is matched first and once, so that the way in which it matches counts for more than the
choice of the alternative. A start with a captured group is not shared, and neither is one if
an alternative has a single segment. -/
def altAll (branches : List Regex) : Regex :=
  match altPlain branches with
  | .alt a b =>
    let split := (Regex.alt a b).alternatives.map fun r => segments r.parts
    if split.all (2 ≤ ·.length) then
      let first := (split.headD []).takeWhile fun segment => !segment.any hasGroup
      let shared := split.tail.foldl commonStart first
      if shared.isEmpty then .alt a b
      else
        let rests := split.map fun s => seqAll (s.drop shared.length).flatten
        seqAll (shared.flatten ++ [altPlain rests])
    else .alt a b
  | r => r

end Regex

end Polyglot
