import Polyglot.Regex.Basic

/-!
# `Polyglot.Regex.Program`: expressions as instructions

An expression is run as a list of instructions with numbered places. A thread of the run
stands at one place; a `split` sends it to two places, the first of which is preferred.

`Regex.emit` writes the instructions of an expression so that they end at a given place. It
works from the end of the expression to its start, so a place that is named exists already;
only a loop reserves its place first and fills it in when its body is there.
-/

set_option autoImplicit false

namespace Polyglot.Regex

/-- One instruction. -/
inductive Instr where
  /-- The whole expression has matched. -/
  | accept
  /-- Read a character of the set and go on. -/
  | read (s : CharSet) (next : Nat)
  /-- Go on if the assertion holds. -/
  | test (a : Assertion) (next : Nat)
  /-- Go on at both places, the first one preferred. -/
  | split (first second : Nat)
deriving Repr, Inhabited

/-- The choice between going into a loop or an option and going past it. -/
def Instr.choice (greedy : Bool) (into past : Nat) : Instr :=
  if greedy then .split into past else .split past into

/-- Write one instruction; the result has its place. -/
def write (instr : Instr) (code : Array Instr) : Array Instr × Nat :=
  let place := code.size
  (code.push instr, place)

/-- Repeat an emission `count` times, the first copy in the text being the last one written. -/
def emitTimes (body : Nat → Array Instr → Array Instr × Nat) :
    Nat → Nat → Array Instr → Array Instr × Nat
  | 0, next, code => (code, next)
  | count + 1, next, code =>
    let (code, entry) := body next code
    emitTimes body count entry code

/-- Emit `count` optional copies, each one holding the copies after it: `a{0,2}` is
`(a(a)?)?`. Past a copy the run goes on at `past`. -/
def emitOptions (body : Nat → Array Instr → Array Instr × Nat) (greedy : Bool) (past : Nat) :
    Nat → Nat → Array Instr → Array Instr × Nat
  | 0, next, code => (code, next)
  | count + 1, next, code =>
    let (code, entry) := body next code
    let (code, choice) := write (.choice greedy entry past) code
    emitOptions body greedy past count choice code

/-- Write the instructions of an expression that goes on at `next`; the result has the place
at which it starts. -/
def emit : Regex → Nat → Array Instr → Array Instr × Nat
  | .empty, next, code => (code, next)
  | .set s, next, code => write (.read s next) code
  | .assert a, next, code => write (.test a next) code
  | .seq a b, next, code =>
    let (code, second) := emit b next code
    emit a second code
  | .alt a b, next, code =>
    let (code, first) := emit a next code
    let (code, second) := emit b next code
    write (.split first second) code
  | .group a, next, code => emit a next code
  | .rep a least (some most) greedy, next, code =>
    let (code, options) := emitOptions (emit a) greedy next (most - least) next code
    emitTimes (emit a) least options code
  | .rep a least none greedy, next, code =>
    -- the body goes back to the choice after it
    let loop := code.size
    let (code, entry) := emit a loop (code.push .accept)
    let code := code.setIfInBounds loop (.choice greedy entry next)
    if least = 0 then
      -- a body that can be empty is entered through a choice of its own, so that the loop is
      -- left, and not abandoned, when the body reads nothing
      if a.mayBeEmpty then write (.choice greedy entry next) code else (code, loop)
    else emitTimes (emit a) (least - 1) entry code

end Polyglot.Regex

namespace Polyglot

/-- An expression that is ready to run. -/
structure Regex.Program where
  /-- The instructions; the one at place 0 accepts. -/
  code : Array Regex.Instr
  /-- The place at which a run starts. -/
  entry : Nat
  /-- Whether a match can only start at the start of the text. -/
  anchored : Bool
deriving Repr, Inhabited

/-- The program of an expression. -/
def Regex.program (r : Regex) : Regex.Program :=
  let (code, entry) := Regex.emit r 0 #[.accept]
  ⟨code, entry, r.isAnchored⟩

end Polyglot
