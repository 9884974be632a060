import Polyglot.Lexer.Config
import Polyglot.Lexer.StateStack
import Polyglot.Matcher.Basic
import Polyglot.Text.Cursor

/-!
# `Polyglot.Lexer.Basic`: lexers

`Lexer.compile` prepares a declared lexer: the states are numbered in the order of their
names, and every name of a state is replaced by its number. `Lexer.tokenize` cuts a text into
tokens. At each place the first rule of the current state that matches gives the token; if
none matches, one character becomes an error token. So every character of the text is in
exactly one token, and the run ends because every token takes at least one character.
-/

set_option autoImplicit false

namespace Polyglot

/-- A rule, ready for use. -/
structure Lexer.Rule where
  /-- What the rule matches. -/
  matcher : Matcher
  /-- The type of the token. -/
  type : String
  /-- The category of the token. -/
  category : Category
  /-- Whether the current state is left afterwards. -/
  pop : Bool
  /-- The number of a state that replaces the current one afterwards. -/
  switchTo : Option Nat
  /-- The number of a state to put on top afterwards. -/
  push : Option Nat
deriving Repr, Inhabited

/-- A state, ready for use. -/
structure Lexer.State where
  /-- The name of the state. -/
  name : String
  /-- Its rules in the order in which they are tried. -/
  rules : List Lexer.Rule
deriving Repr, Inhabited

/-- A lexer, ready for use. -/
structure Lexer where
  /-- The language it was compiled for. -/
  language : String
  /-- The states by number. -/
  states : Array Lexer.State
  /-- The number of the state to start in. -/
  initial : Nat
  /-- The token types that structural analysis passes over. -/
  skipTypes : List String
  /-- The width of a tab, if declared. -/
  tabWidth : Option Nat
deriving Repr, Inhabited

namespace Lexer

/-! ### Compilation -/

/-- The number of a state among the names of all states. -/
def stateNumber (names : List String) (role : StateRole) (name : String) : Except Fault Nat :=
  match names.idxOf? name with
  | some n => .ok n
  | none => .error (.unknownState role name)

/-- A declared rule, ready for use. The matcher is looked at first, then the state to switch
to, then the state to push. -/
def compileRule (config : LexerConfig) (names : List String) (rule : RuleSpec) :
    Except Fault Rule := do
  let matcher ← Matcher.compile config.charClasses rule.matcher
  let switchTo ← rule.switchTo.mapM (stateNumber names .switchTarget)
  let push ← rule.push.mapM (stateNumber names .pushTarget)
  return ⟨matcher, rule.token, config.categoryOf rule.token, rule.pop, switchTo, push⟩

/-- A declared state, ready for use. -/
def compileState (config : LexerConfig) (names : List String)
    (state : String × List RuleSpec) : Except Fault State := do
  let rules ← state.2.mapM (compileRule config names)
  return ⟨state.1, rules⟩

/-- The declared states. A lexer that declares neither states nor a state to start in has one
state without rules. -/
def declaredStates (config : LexerConfig) : List (String × List RuleSpec) :=
  if config.states.isEmpty && config.initialState.isNone then [(config.initialName, [])]
  else config.states.entries

/-- A declared lexer, ready for use, or the first fault in it. -/
def compileFault (language : String) (config : LexerConfig) : Except Fault Lexer := do
  let declared := declaredStates config
  let names := declared.map (·.1)
  let initial ← stateNumber names .initial config.initialName
  let states ← declared.mapM (compileState config names)
  return ⟨language, states.toArray, initial, config.skipTypes, config.indentation.map (·.tabWidth)⟩

/-- A declared lexer, ready for use; faults are those of the language it is compiled for. -/
def compile (language : String) (config : LexerConfig) : Except Error Lexer :=
  (compileFault language config).mapError (.config language)

/-- The names of the states by number. -/
def stateNames (lexer : Lexer) : List String := lexer.states.toList.map (·.name)

/-- Whether structural analysis passes over a token type. -/
def isSkipped (lexer : Lexer) (type : String) : Bool := lexer.skipTypes.contains type

/-! ### Running -/

/-- The rules of a state. -/
def rulesOf (lexer : Lexer) (state : Nat) : List Rule :=
  ((lexer.states[state]?).map (·.rules)).getD []

/-- The first rule that matches at a cursor, with the number of characters it takes. -/
def firstMatch? (rules : List Rule) (cursor : Cursor) : Option (Rule × Nat) :=
  rules.findSome? fun rule =>
    let n := rule.matcher.length cursor.behind? cursor.rest
    if n = 0 then none else some (rule, n)

/-- The type of tokens that no rule matched. -/
def errorType : String := "error"

/-- The token of the next `n` characters. -/
def tokenAt (cursor : Cursor) (n : Nat) (type : String) (category : Category) : Token where
  type := type
  value := String.ofList (cursor.rest.take n)
  category := category
  range := ⟨cursor.position, (cursor.skip n).position⟩

/-- The token at a cursor that is not at the end, how many characters it takes, and the stack
after it. -/
def step (lexer : Lexer) (stack : StateStack Nat) (cursor : Cursor) :
    Token × Nat × StateStack Nat :=
  match firstMatch? (lexer.rulesOf stack.current) cursor with
  | some (rule, n) =>
    (tokenAt cursor n rule.type rule.category, n,
      stack.transition rule.pop rule.switchTo rule.push)
  | none => (tokenAt cursor 1 errorType .error, 1, stack)

/-- A rule that matches takes at least one character. -/
theorem firstMatch?_pos {rules : List Rule} {cursor : Cursor} {rule : Rule} {n : Nat}
    (h : firstMatch? rules cursor = some (rule, n)) : 0 < n := by
  obtain ⟨r, _, hr⟩ := List.exists_of_findSome?_eq_some h
  simp only at hr
  split at hr
  · simp at hr
  · simp only [Option.some.injEq, Prod.mk.injEq] at hr
    omega

/-- Every token takes at least one character. -/
theorem step_pos (lexer : Lexer) (stack : StateStack Nat) (cursor : Cursor) :
    0 < (lexer.step stack cursor).2.1 := by
  rw [step]
  split
  · rename_i h
    exact firstMatch?_pos h
  · exact Nat.one_pos

/-- The tokens from a cursor on. -/
def tokensFrom (lexer : Lexer) (stack : StateStack Nat) (cursor : Cursor) : List Token :=
  if _hne : cursor.rest = [] then []
  else
    let next := lexer.step stack cursor
    next.1 :: lexer.tokensFrom next.2.2 (cursor.skip next.2.1)
termination_by cursor.rest.length
decreasing_by
  have hpos := lexer.step_pos stack cursor
  have hlen : 0 < cursor.rest.length := List.length_pos_iff.mpr _hne
  rw [Cursor.rest_skip, List.length_drop]
  omega

/-- The tokens of a text. -/
def tokenize (lexer : Lexer) (source : String) : List Token :=
  lexer.tokensFrom ⟨lexer.initial, []⟩ (.ofString source)

end Lexer

end Polyglot
