import Polyglot.Regex.Automaton
import Polyglot.Regex.Parser
import Polyglot.Regex.Program

/-!
# `Polyglot.Regex.Search`: finding the preferred match

All threads of a program advance through the text together, in order of preference; two
threads never stand at one place of the program and one position of the text, the preferred
one staying. The match is the leftmost one, and of those the one of the most preferred
thread: once a thread accepts, threads behind it are dropped, and threads before it may
still find a match that is preferred.

`Regex.search?` answers with the number of characters from the start of the text to the
*end* of the match. `Regex.compile?` reads a pattern so that it is tried at the start of the
text, by writing it between `^(?:` and `)`.
-/

set_option autoImplicit false

namespace Polyglot.Regex

/-- Follow threads through instructions that read nothing, from the places of `work` on. The
result has the places that read or accept, last first. `seen` has a bit for every place that
was visited at this position; a step takes one place from `work` and puts at most two there
once for every place of the program, which bounds the fuel. -/
def close (code : Array Instr) (before after : Option Char) :
    Nat → List Nat → Nat → List Nat → List Nat
  | 0, _, _, found => found
  | _ + 1, [], _, found => found
  | fuel + 1, place :: work, seen, found =>
    if seen.testBit place then close code before after fuel work seen found
    else
      let seen := seen ||| (1 <<< place)
      match code[place]? with
      | some (.split a b) => close code before after fuel (a :: b :: work) seen found
      | some (.test a next) =>
        if a.holds before after then close code before after fuel (next :: work) seen found
        else close code before after fuel work seen found
      | some (.read _ _) => close code before after fuel work seen (place :: found)
      | some .accept => close code before after fuel work seen (place :: found)
      | none => close code before after fuel work seen found

/-- The threads in front of the first one that accepts, and whether there is one. -/
def untilAccept (code : Array Instr) : List Nat → List Nat × Bool
  | [] => ([], false)
  | place :: rest =>
    match code[place]? with
    | some .accept => ([], true)
    | _ => let (kept, accepted) := untilAccept code rest; (place :: kept, accepted)

/-- Where a thread goes when it reads a character. -/
def Instr.next? (c : Char) : Instr → Option Nat
  | .read s next => if s.contains c then some next else none
  | _ => none

/-- Let threads arrive at the places `pending`, `position` characters after the start of the
text and between two neighbours. Until something has matched, a new thread starts at each
position, behind all others. The result has the threads that go on reading and the end of the
best match so far. -/
def arrive (p : Program) (before after : Option Char) (pending : List Nat) (position : Nat)
    (best : Option Nat) : List Nat × Option Nat :=
  let starts := if best.isNone && (position == 0 || !p.anchored) then [p.entry] else []
  let work := pending ++ starts
  let reached := close p.code before after (2 * p.code.size + work.length + 1) work 0 []
  let (threads, accepted) := untilAccept p.code reached.reverse
  (threads, if accepted then some position else best)

/-- Run threads over the rest of a text and answer with the end of the best match. -/
def run (p : Program) (before : Option Char) (pending : List Nat) (position : Nat)
    (best : Option Nat) : List Char → Option Nat
  | [] => (arrive p before none pending position best).2
  | c :: rest =>
    let (threads, best) := arrive p before (some c) pending position best
    if threads.isEmpty && (best.isSome || p.anchored) then best
    else
      let pending := threads.filterMap fun place => (p.code[place]?).bind (Instr.next? c)
      run p (some c) pending (position + 1) best rest

/-- The number of characters up to the end of the match in a text. -/
def Program.search? (p : Program) (text : List Char) : Option Nat :=
  run p none [] 0 none text

/-- The program of a pattern that is tried at the start of a text. The pattern is put between
`^(?:` and `)` as text, so a pattern that closes that group itself has branches that are not
tied to the start. -/
def compile? (pattern : String) : Option Program := do
  let r ← parse? ("^(?:".toList ++ pattern.toList ++ [')'])
  guard r.isLight
  return r.program

end Polyglot.Regex
