import Polyglot.Lexer.Basic
import Polyglot.Proofs.Text.Cursor

/-!
# `Polyglot.Proofs.Lexer.Interpreter`: what a declared lexer means

A lexer is declared as states with names, and a compiled one runs on their numbers. This module
runs the declaration itself: `LexerConfig.interpret` cuts a text into tokens with a stack of
state *names*, and looks rules up in the declaration at every step.

It borrows little from the compiled run. The stack is a plain list of names, the top first, and
`RuleSpec.transition` spells out what a rule does to it; a place in the text is the pair of what
was read and what is still there; and the positions of a token are those after the text in front
of it (`Position.after`), so no cursor moves. What the two share is the matcher of a rule.

`LexerConfig.WellFormed` collects what a declaration has to satisfy to be run at all.
-/

set_option autoImplicit false

namespace Polyglot

/-- The stack of names after a rule. The top is left, unless it is the only name; then the top
is replaced; then a name is put on top. -/
def RuleSpec.transition (rule : RuleSpec) (names : List String) : List String :=
  let left := if rule.pop ∧ 1 < names.length then names.tail else names
  let switched := rule.switchTo.elim left (· :: left.tail)
  rule.push.elim switched (· :: switched)

namespace LexerConfig

/-! ### Declarations -/

/-- Whether a state is declared. -/
def Declares (config : LexerConfig) (name : String) : Prop :=
  (config.states.find? name).isSome

/-- The rules of a state in the order of their declaration; none if it is not declared. -/
def rulesNamed (config : LexerConfig) (name : String) : List RuleSpec :=
  (config.states.find? name).getD []

/-- A rule that can be run: its matcher compiles, and the states that it goes to are
declared. -/
structure Accepts (config : LexerConfig) (rule : RuleSpec) : Prop where
  /-- The matcher compiles. -/
  matcher : ∃ m, Matcher.compile config.charClasses rule.matcher = .ok m
  /-- The state that replaces the current one is declared. -/
  switchTo : ∀ target ∈ rule.switchTo, config.Declares target
  /-- The state that is put on top is declared. -/
  push : ∀ target ∈ rule.push, config.Declares target

/-- A declaration that can be run: every rule of every state can be, whether the state is ever
entered or not, and the state to start in is declared, unless nothing at all is said about
states. -/
structure WellFormed (config : LexerConfig) : Prop where
  /-- The rules of all states can be run. -/
  rules : ∀ name rules, config.states.find? name = some rules →
    ∀ rule ∈ rules, config.Accepts rule
  /-- The state to start in is declared. -/
  initial : config.Declares config.initialName ∨
    config.states.isEmpty ∧ config.initialState = none

/-! ### Running a declaration -/

/-- How many characters a declared rule takes; none if its matcher does not compile. -/
def ruleLength (config : LexerConfig) (rule : RuleSpec) (behind : Option Char)
    (text : List Char) : Nat :=
  match Matcher.compile config.charClasses rule.matcher with
  | .ok m => m.length behind text
  | .error _ => 0

/-- The first rule of the state on top that takes something. -/
def ruleAt? (config : LexerConfig) (names : List String) (before rest : List Char) :
    Option RuleSpec :=
  (config.rulesNamed (names.headD "")).find? fun rule =>
    config.ruleLength rule before.getLast? rest != 0

/-- The token of a piece of text that stands after another one. -/
def tokenAfter (before value : List Char) (type : String) (category : Category) : Token where
  type := type
  value := String.ofList value
  category := category
  range := ⟨Position.after before, Position.after (before ++ value)⟩

/-- One step: the token after what was read, how many characters it takes, and the stack of
names after it. Where no rule takes anything, one character is an error and the stack stays. -/
def interpretStep (config : LexerConfig) (names : List String) (before rest : List Char) :
    Token × Nat × List String :=
  match config.ruleAt? names before rest with
  | some rule =>
    let n := config.ruleLength rule before.getLast? rest
    (tokenAfter before (rest.take n) rule.token (config.categoryOf rule.token), n,
      rule.transition names)
  | none => (tokenAfter before (rest.take 1) "error" .error, 1, names)

/-- A step takes at least one character. A rule that takes nothing is passed over, and where no rule
takes anything one character is an error. So the run over a text comes to its end, whatever is
declared. -/
theorem interpretStep_pos (config : LexerConfig) (names : List String)
    (before rest : List Char) : 0 < (config.interpretStep names before rest).2.1 := by
  unfold interpretStep
  split
  · rename_i rule hrule
    have hlength := List.find?_some hrule
    exact Nat.pos_of_ne_zero (by simpa using hlength)
  · exact Nat.one_pos

/-- The tokens of the rest of a text, after what was read. -/
def interpretFrom (config : LexerConfig) (names : List String) (before rest : List Char) :
    List Token :=
  if _hne : rest = [] then []
  else
    let next := config.interpretStep names before rest
    next.1 :: config.interpretFrom next.2.2 (before ++ rest.take next.2.1) (rest.drop next.2.1)
termination_by rest.length
decreasing_by
  have hpos := config.interpretStep_pos names before rest
  have hlen : 0 < rest.length := List.length_pos_iff.mpr _hne
  rw [List.length_drop]
  omega

/-- The tokens of a text, from the stack with the state to start in. -/
def interpret (config : LexerConfig) (source : String) : List Token :=
  config.interpretFrom [config.initialName] [] source.toList

/-- The stacks and places that the run over a text comes through. -/
inductive Reaches (config : LexerConfig) (source : String) :
    List String → List Char → List Char → Prop
  /-- The run starts with the state to start in. -/
  | start : Reaches config source [config.initialName] [] source.toList
  /-- A step goes on until nothing is left. -/
  | step {names : List String} {before rest : List Char} :
      Reaches config source names before rest → rest ≠ [] →
      Reaches config source (config.interpretStep names before rest).2.2
        (before ++ rest.take (config.interpretStep names before rest).2.1)
        (rest.drop (config.interpretStep names before rest).2.1)

end LexerConfig

/-- The stacks and cursors that the run of a compiled lexer over a text comes through. -/
inductive Lexer.Reaches (lexer : Lexer) (source : String) : StateStack Nat → Cursor → Prop
  /-- The run starts with the state to start in. -/
  | start : Reaches lexer source ⟨lexer.initial, []⟩ (.ofString source)
  /-- A step goes on until nothing is left. -/
  | step {stack : StateStack Nat} {cursor : Cursor} :
      Reaches lexer source stack cursor → cursor.rest ≠ [] →
      Reaches lexer source (lexer.step stack cursor).2.2
        (cursor.skip (lexer.step stack cursor).2.1)

end Polyglot
