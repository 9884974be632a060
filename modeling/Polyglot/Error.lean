/-!
# `Polyglot.Error`: what can go wrong

Two things can go wrong: a profile is faulty, or a language is asked for that nobody
registered. Scanning a text never fails. `Fault` lists the causes of the first kind and
`Error.message` holds the wording of all of them.
-/

set_option autoImplicit false

namespace Polyglot

/-- Where a lexer names one of its states. -/
inductive StateRole where
  /-- As the state to start in. -/
  | initial
  /-- As the state that replaces the current one. -/
  | switchTarget
  /-- As the state that is put on top of the current one. -/
  | pushTarget
deriving DecidableEq, Repr

/-- The wording of a role. -/
def StateRole.text : StateRole → String
  | .initial => "initial state"
  | .switchTarget => "switchTo target"
  | .pushTarget => "push target"

/-- What is wrong with a profile. -/
inductive Fault where
  /-- The document does not describe a profile. -/
  | malformed
  /-- A character class refers to itself; `path` leads to the name. -/
  | classCycle (path : List String) (name : String)
  /-- A character class is referred to and not declared. -/
  | unknownClass (name : String)
  /-- A delimited region without an opening or closing text. -/
  | emptyDelimiter
  /-- A line region without a text that starts it. -/
  | emptyLineStart
  /-- A pattern that is no regular expression, or too large a one. -/
  | badPattern (pattern : String)
  /-- A state is named and not declared. -/
  | unknownState (role : StateRole) (name : String)
  /-- A profile extends itself; `chain` leads to the parent. -/
  | extendsCycle (chain : List String) (parent : String)
  /-- A parent profile is named and not registered. -/
  | unknownParent (name : String)
  /-- The chain of parents never ends, though no name on it is spelled twice. -/
  | endlessChain
deriving DecidableEq, Repr

/-- Names joined by arrows. -/
def arrows (names : List String) : String := " -> ".intercalate names

/-- The wording of a fault. -/
def Fault.text : Fault → String
  | .malformed => "not a profile document"
  | .classCycle path name => "char class reference cycle: " ++ arrows path ++ " -> " ++ name
  | .unknownClass name => "unknown char class '" ++ name ++ "'"
  | .emptyDelimiter => "delimited matcher needs non-empty open and close literals"
  | .emptyLineStart => "line matcher needs a non-empty start marker"
  | .badPattern pattern => "invalid pattern '" ++ pattern ++ "'"
  | .unknownState role name => "unknown " ++ role.text ++ " '" ++ name ++ "'"
  | .extendsCycle chain parent => "extends cycle: " ++ arrows chain ++ " -> " ++ parent
  | .unknownParent name => "unknown parent profile '" ++ name ++ "'"
  | .endlessChain => "endless chain of parents"

/-- Why an operation has no answer. -/
inductive Error where
  /-- A profile is faulty. -/
  | config (language : String) (fault : Fault)
  /-- No profile is registered for a language. -/
  | unknownLanguage (name : String)
deriving DecidableEq, Repr

/-- The wording of an error. -/
def Error.message : Error → String
  | .config language fault => "invalid profile '" ++ language ++ "': " ++ fault.text
  | .unknownLanguage name => "unknown language: '" ++ name ++ "'"

end Polyglot
