import Polyglot.CharClass.Spec
import Polyglot.Error
import Polyglot.Table
import Polyglot.Unicode.Case
import Polyglot.Unicode.Alphabetic

/-!
# `Polyglot.CharClass.Basic`: character classes ready for use

`CharClass.compile` replaces every reference of a declared class by the class it names, so
that membership needs no table. It fails if a name is not declared, or if following names
leads back to one that is being followed.

References are followed one at a time. The names on the way are different from each other
and declared, so a table of `n` classes is left after at most `n` of them; this bounds the
recursion.
-/

set_option autoImplicit false

namespace Polyglot

/-- A character class without references. -/
inductive CharClass where
  /-- A predefined class. -/
  | predefined (name : CharClass.Predefined)
  /-- The listed characters, in increasing order. -/
  | chars (members : Array Char)
  /-- The characters between two, both included. -/
  | range (first last : Char)
  /-- The characters of any of the classes. -/
  | union (classes : List CharClass)
  /-- All other characters. -/
  | negate (inner : CharClass)
deriving Repr, Inhabited

namespace CharClass

/-! ### Membership -/

/-- Membership in a predefined class. -/
def Predefined.contains : Predefined → Char → Bool
  | .letter, c => Unicode.isAlphabetic c
  | .upper, c => Unicode.isUppercase c
  | .lower, c => Unicode.isLowercase c
  | .digit, c => c.isDigit
  | .hexDigit, c => c.isDigit || ('a' ≤ c && c ≤ 'f') || ('A' ≤ c && c ≤ 'F')
  | .alphanumeric, c => Unicode.isAlphabetic c || c.isDigit
  | .whitespace, c => c == ' ' || c == '\t'
  | .newline, c => c == '\n' || c == '\r'
  | .any, _ => true

mutual

/-- Membership. -/
def contains : CharClass → Char → Bool
  | .predefined p, c => p.contains c
  | .chars members, c => members.binSearchContains c (· < ·)
  | .range first last, c => first ≤ c && c ≤ last
  | .union classes, c => anyContains classes c
  | .negate inner, c => !contains inner c

/-- Membership in one of several classes. -/
def anyContains : List CharClass → Char → Bool
  | [], _ => false
  | k :: rest, c => contains k c || anyContains rest c

end

/-- Membership of what comes next in a text; the end of the text is in no class. -/
def test (k : CharClass) (next : Option Char) : Bool := next.any k.contains

/-! ### Compilation -/

/-- Insert a character into an increasing list that does not hold it yet. -/
def insertChar (c : Char) : List Char → List Char
  | [] => [c]
  | d :: rest => if c < d then c :: d :: rest else if c = d then d :: rest else d :: insertChar c rest

/-- The characters of a list in increasing order, each once. -/
def sortChars (chars : List Char) : List Char := chars.foldr insertChar []

mutual

/-- A declared class without its references, each of which `follow` replaces. -/
def Spec.inline (follow : String → Except Fault CharClass) : Spec → Except Fault CharClass
  | .predefined p => .ok (.predefined p)
  | .chars members => .ok (.chars (sortChars members.toList).toArray)
  | .range first last => .ok (.range first last)
  | .union classes => (inlineAll follow classes).map .union
  | .negate inner => (Spec.inline follow inner).map .negate
  | .ref name => follow name

/-- Several declared classes without their references; the first fault counts. -/
def inlineAll (follow : String → Except Fault CharClass) :
    List Spec → Except Fault (List CharClass)
  | [] => .ok []
  | k :: rest => do
    let first ← Spec.inline follow k
    let others ← inlineAll follow rest
    return first :: others

end

/-- The class under a name, `path` being the names that are being followed. -/
def follow (table : Table Spec) : Nat → List String → String → Except Fault CharClass
  | 0, path, name => .error (.classCycle path name)
  | fuel + 1, path, name =>
    if path.contains name then .error (.classCycle path name)
    else
      match table.find? name with
      | none => .error (.unknownClass name)
      | some spec => spec.inline (follow table fuel (path ++ [name]))

/-- The class that a declaration denotes in a table of named classes. -/
def compile (table : Table Spec) (spec : Spec) : Except Fault CharClass :=
  spec.inline (follow table (table.size + 1) [])

end CharClass

end Polyglot
