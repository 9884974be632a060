/-!
# `Polyglot.CharClass.Spec`: character classes as profiles declare them

A declared class may refer to other classes of the profile by name.
-/

set_option autoImplicit false

namespace Polyglot.CharClass

/-- The classes that have a name of their own. -/
inductive Predefined where
  /-- Alphabetic characters. -/
  | letter
  /-- Upper-case characters. -/
  | upper
  /-- Lower-case characters. -/
  | lower
  /-- The ASCII digits. -/
  | digit
  /-- The ASCII hexadecimal digits. -/
  | hexDigit
  /-- Alphabetic characters and ASCII digits. -/
  | alphanumeric
  /-- Space and tab. -/
  | whitespace
  /-- Line feed and carriage return. -/
  | newline
  /-- Every character. -/
  | any
deriving DecidableEq, Repr, Inhabited

namespace Predefined

/-- The predefined classes in their fixed order. -/
def all : List Predefined :=
  [.letter, .upper, .lower, .digit, .hexDigit, .alphanumeric, .whitespace, .newline, .any]

/-- The name of a predefined class. -/
def name : Predefined → String
  | .letter => "letter"
  | .upper => "upper"
  | .lower => "lower"
  | .digit => "digit"
  | .hexDigit => "hexDigit"
  | .alphanumeric => "alphanumeric"
  | .whitespace => "whitespace"
  | .newline => "newline"
  | .any => "any"

/-- The predefined class with a name. -/
def ofName? (name : String) : Option Predefined := all.find? (·.name == name)

/-- A predefined class is found under its name. -/
@[simp] theorem ofName?_name (p : Predefined) : ofName? p.name = some p := by
  cases p <;> decide

end Predefined

/-- A character class as declared. -/
inductive Spec where
  /-- A predefined class. -/
  | predefined (name : Predefined)
  /-- The characters of a string. -/
  | chars (members : String)
  /-- The characters between two, both included. -/
  | range (first last : Char)
  /-- The characters of any of the classes. -/
  | union (classes : List Spec)
  /-- All other characters. -/
  | negate (inner : Spec)
  /-- The class that the profile declares under a name. -/
  | ref (name : String)
deriving Repr, Inhabited

end Polyglot.CharClass
