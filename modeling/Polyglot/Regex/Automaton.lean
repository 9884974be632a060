import Polyglot.Regex.Basic
import Polyglot.Regex.Utf8
import Std.Data.HashMap

/-!
# `Polyglot.Regex.Automaton`: how large the automaton of an expression is

An expression is recognised by an automaton that reads the bytes of a text, and by another one
that reads them backwards. Repetitions that count multiply their states, so the size of both
is bounded: a pattern whose automaton takes more than ten mebibytes is refused.

`Tally` counts states and the links between them while the automaton is laid out; nothing
else of it is kept. A state takes 32 bytes, in which there is room for one link. A list of
links takes 8 bytes more for each link by a range of bytes and 4 for each one that reads
nothing.

A set of characters is laid out along its sequences of byte ranges. Forwards, the states are
made from the end of the sequences to their start, and states with equal links are one state.
Backwards, the sequences are taken one after the other, and two of them share states for
their leading bytes, which come last. In both cases a state is found again through a `Memo`
of fixed size, which forgets a state when another one takes its slot.
-/

set_option autoImplicit false

namespace Polyglot.Regex

/-! ### Counting -/

/-- The size of an automaton so far. -/
structure Tally where
  /-- The number of states, which is also the number of the next one. -/
  states : Nat
  /-- The bytes of the links. -/
  links : Nat
deriving DecidableEq, Repr

/-- The size in bytes. -/
def Tally.bytes (t : Tally) : Nat := 32 * t.states + t.links

/-- One more state, with the bytes of its links. -/
def Tally.state (t : Tally) (links : Nat) : Tally := ⟨t.states + 1, t.links + links⟩

/-- The greatest size of an automaton: ten mebibytes. -/
def maxBytes : Nat := 10 * 1024 * 1024

/-- The tally, unless it is too large. -/
def Tally.within (t : Tally) : Option Tally := if t.bytes ≤ maxBytes then some t else none

/-- Take a step `count` times, unless the tally gets too large. -/
def Tally.times (step : Tally → Option Tally) : Nat → Tally → Option Tally
  | 0, t => some t
  | count + 1, t => (step t).bind (Tally.times step count)

/-! ### Shared states -/

/-- The states that can be found again, by what makes them equal. Each has one slot. -/
structure Memo where
  /-- The number of slots. -/
  size : Nat
  /-- The last state of each slot, with its key. -/
  slots : Std.HashMap Nat (List Nat × Nat) := {}

/-- The slot of a key: its numbers are mixed into a hash of 64 bits. -/
def Memo.slot (m : Memo) (key : List Nat) : Nat :=
  let mixed : UInt64 :=
    key.foldl (fun h n => (h ^^^ n.toUInt64) * 1099511628211) 14695981039346656037
  mixed.toNat % m.size

/-- The state with a key, if it has not been forgotten. -/
def Memo.find? (m : Memo) (key : List Nat) : Option Nat :=
  match m.slots[m.slot key]? with
  | some (held, state) => if held = key then some state else none
  | none => none

/-- Remember a state. -/
def Memo.insert (m : Memo) (key : List Nat) (state : Nat) : Memo :=
  { m with slots := m.slots.insert (m.slot key) (key, state) }

/-! ### Sets -/

/-- Lay out one sequence backwards, from `next` on: the state of a byte goes to that of the
byte in front. -/
def backwardSequence : List Span → Nat → Tally × Memo → Tally × Memo
  | [], _, layout => layout
  | (low, high) :: rest, next, (t, memo) =>
    let key := [next, low, high]
    match memo.find? key with
    | some state => backwardSequence rest state (t, memo)
    | none => backwardSequence rest t.states (t.state 0, memo.insert key t.states)

/-- Lay out a set backwards: a choice between its sequences and a state where they meet. -/
def Tally.backwardSet (t : Tally) (s : CharSet) : Tally :=
  let sequences := s.sequences
  let stop := t.states + 1
  let t := (t.state (4 * sequences.length)).state 0
  (sequences.foldl (fun layout sequence => backwardSequence sequence stop layout)
    (t, { size := 1000 })).1

/-- Lay out sequences with a common start forwards, to `stop`; the result has the state in
front. Sequences next to each other with the same first range go through one link. -/
def forwardSequences (stop : Nat) :
    Nat → List (List Span) → Tally × Memo → Nat × Tally × Memo
  | 0, _, layout => (stop, layout)
  | length + 1, sequences, layout =>
    if sequences.all List.isEmpty then (stop, layout)
    else
      let (links, t, memo) :=
        (sequences.splitBy fun a b => a.head? == b.head?).foldl
          (fun (links, layout) group =>
            let (next, layout) := forwardSequences stop length (group.map List.tail) layout
            match group.head?.bind List.head? with
            | some (low, high) => (links ++ [low, high, next], layout)
            | none => (links, layout))
          (([] : List Nat), layout)
      match memo.find? links with
      | some state => (state, t, memo)
      | none => (t.states, t.state (8 * (links.length / 3)), memo.insert links t.states)

/-- Lay out a set forwards. -/
def Tally.forwardSet (t : Tally) (s : CharSet) : Tally :=
  (forwardSequences t.states 4 s.sequences (t.state 0, { size := 10000 })).2.1

/-- Lay out a set. A single character has a state for each of its bytes, and a set of ASCII
characters one state for all. -/
def Tally.set (t : Tally) (backwards : Bool) (s : CharSet) : Tally :=
  match s.only? with
  | some c => ⟨t.states + c.utf8Size, t.links⟩
  | none =>
    if s.isAscii then (t.state 0).state (8 * s.ranges.length)
    else if backwards then t.backwardSet s
    else t.forwardSet s

/-! ### Alternatives that are plain texts

They are laid out as a tree: words with a common start share the states for it. -/

/-- The text of an expression that matches nothing else. -/
def text? : Regex → Option (List Char)
  | .set s => s.only?.map fun c => [c]
  | .seq a b => do return (← text? a) ++ (← text? b)
  | _ => none

/-- The alternatives of an expression, if all of them are plain texts. -/
def texts? : Regex → Option (List (List Char))
  | .alt a b => do return (← text? a) :: (← texts? b)
  | r => do return [← text? r]

/-- The words between words that are empty. -/
def wordRuns : List (List Nat) → List (List (List Nat))
  | [] => [[]]
  | [] :: rest => [] :: wordRuns rest
  | word :: rest =>
    match wordRuns rest with
    | run :: runs => (word :: run) :: runs
    | [] => [[word]]

/-- Lay out the tree of words that have a common start; `length` bounds what is left of them.
A word that ends where others go on stands between those before it and those after it in
order of preference, so these do not share states. -/
def Tally.tree : Nat → List (List Nat) → Tally → Tally
  | 0, _, t => t
  | length + 1, words, t =>
    if words.all List.isEmpty then t
    else
      let words :=
        match words with
        | [] :: rest => [] :: rest.dropWhile List.isEmpty
        | words => words
      let runs := wordRuns words
      let t := runs.foldl
        (fun t run =>
          let heads := (run.filterMap List.head?).eraseDups
          let t := heads.foldl
            (fun t head =>
              Tally.tree length
                (run.filterMap fun word =>
                  if word.head? = some head then some word.tail else none) t)
            t
          match heads.length with
          | 0 => t
          | 1 => t.state 0
          | n => t.state (8 * n))
        t
      let filled := runs.filter fun run => !run.isEmpty
      t.state (4 * (filled.length + (runs.length - 1)))

/-- The bytes of a text. -/
def bytesOf (text : List Char) : List Nat := (String.ofList text).toUTF8.toList.map UInt8.toNat

/-- Lay out plain texts as alternatives. -/
def Tally.texts (t : Tally) (backwards : Bool) (texts : List (List Char)) : Tally :=
  let words := texts.map fun text => if backwards then (bytesOf text).reverse else bytesOf text
  Tally.tree (words.foldl (fun n word => max n word.length) 0 + 1) words (t.state 0)

/-! ### Expressions -/

/-- Join an alternative to those in front of it, of which there are `earlier`: with the second
one come the choice and the state where they meet. -/
def Tally.alternative (earlier : Nat) (t : Tally) : Option Tally :=
  match earlier with
  | 0 => t.within
  | 1 => ((t.state 8).state 0).within
  | _ => ({ t with links := t.links + 4 } : Tally).within

/-- Lay out an expression as the alternative with `earlier` ones in front of it, or by itself
if there are none. -/
def layout (backwards : Bool) : Regex → Nat → Tally → Option Tally
  | .empty, earlier, t => (t.state 0).alternative earlier
  | .set s, earlier, t => (t.set backwards s).alternative earlier
  | .assert _, earlier, t => (t.state 0).alternative earlier
  | .seq a b, earlier, t => do
    let t ←
      if backwards then (layout backwards b 0 t).bind (layout backwards a 0)
      else (layout backwards a 0 t).bind (layout backwards b 0)
    t.alternative earlier
  | .group a, earlier, t => do
    if backwards then (← layout backwards a 0 t).alternative earlier
    else
      let t ← layout backwards a 0 (t.state 0)
      (t.state 0).alternative earlier
  | .alt a b, 0, t =>
    match texts? (.alt a b) with
    | some texts => (t.texts backwards texts).within
    | none => (layout backwards a 0 t).bind (layout backwards b 1)
  | .alt a b, earlier + 1, t => do
    let t ← layout backwards a 0 t
    let t ← t.alternative (earlier + 1)
    layout backwards b (earlier + 2) t
  | .rep a least (some most) _, earlier, t => do
    if least = 0 ∧ most = 1 then
      let t ← layout backwards a 0 (t.state 8)
      (t.state 0).alternative earlier
    else
      let t ← if least = 0 then some (t.state 0) else t.times (layout backwards a 0) least
      if least = most then t.alternative earlier
      else
        let t ← (t.state 0).times (fun t => layout backwards a 0 (t.state 8)) (most - least)
        t.alternative earlier
  | .rep a least none _, earlier, t => do
    if least = 0 then
      if a.mayBeEmpty then
        let t ← layout backwards a 0 t
        (((t.state 8).state 8).state 0).alternative earlier
      else (← layout backwards a 0 (t.state 8)).alternative earlier
    else
      let t ← t.times (layout backwards a 0) least
      (t.state 8).alternative earlier

/-- What stands in front of the expression: nothing where it can only match at the end of the
text from which reading starts, else a loop over any byte. -/
def Tally.start (anchored : Bool) : Tally := if anchored then ⟨1, 0⟩ else ⟨3, 16⟩

/-- The automaton that reads forwards. It keeps the groups, the whole match among them. -/
def forwardTally? (r : Regex) : Option Tally := do
  let t ← layout false r 0 ((Tally.start r.isAnchored).state 0)
  ((t.state 0).state 0).within

/-- The automaton that reads backwards. -/
def backwardTally? (r : Regex) : Option Tally := do
  let t ← layout true r 0 (Tally.start r.isAnchoredAtStop)
  (t.state 0).within

/-- Whether an expression is light enough to be used, whichever way it is read. -/
def isLight (r : Regex) : Bool := (backwardTally? r).isSome && (forwardTally? r).isSome

end Polyglot.Regex
