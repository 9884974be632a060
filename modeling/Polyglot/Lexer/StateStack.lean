/-!
# `Polyglot.Lexer.StateStack`: the stack of states

The stack has a top by construction, so a lexer always has rules to try. Leaving the only
state on it changes nothing.
-/

set_option autoImplicit false

namespace Polyglot

universe u

/-- A stack of states that is never empty. -/
structure StateStack (σ : Type u) where
  /-- The current state. -/
  current : σ
  /-- The states below, the nearest first. -/
  below : List σ := []
deriving DecidableEq, Repr, Inhabited

namespace StateStack

variable {σ : Type u}

/-- The number of states on the stack. -/
def depth (s : StateStack σ) : Nat := s.below.length + 1

/-- Enter a state. -/
def push (s : StateStack σ) (state : σ) : StateStack σ := ⟨state, s.current :: s.below⟩

/-- Leave the current state, unless it is the only one. -/
def pop (s : StateStack σ) : StateStack σ :=
  match s.below with
  | [] => s
  | state :: below => ⟨state, below⟩

/-- Replace the current state. -/
def switchTo (s : StateStack σ) (state : σ) : StateStack σ := { s with current := state }

/-- Entering a state and leaving it again changes nothing. -/
@[simp] theorem pop_push (s : StateStack σ) (state : σ) : (s.push state).pop = s := rfl

/-- Entering a state adds one to the depth. -/
@[simp] theorem depth_push (s : StateStack σ) (state : σ) :
    (s.push state).depth = s.depth + 1 := rfl

/-- Leaving a state takes one from the depth, which stays above zero. -/
@[simp] theorem depth_pop (s : StateStack σ) : s.pop.depth = max (s.depth - 1) 1 := by
  obtain ⟨current, below⟩ := s
  cases below with
  | nil => rfl
  | cons state below => simp [pop, depth]

/-- Replacing a state keeps the depth. -/
@[simp] theorem depth_switchTo (s : StateStack σ) (state : σ) :
    (s.switchTo state).depth = s.depth := rfl

/-- What a rule does to the stack: leave, then replace, then enter. -/
def transition (s : StateStack σ) (pop : Bool) (switchTo push : Option σ) : StateStack σ :=
  let s := if pop then s.pop else s
  let s := (switchTo.map s.switchTo).getD s
  (push.map s.push).getD s

end StateStack

end Polyglot
