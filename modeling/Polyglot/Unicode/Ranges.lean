/-!
# `Polyglot.Unicode.Ranges`: tables of code points

Properties of characters are given as tables of code points in increasing order: ranges
with both ends included, or strides (first, last, step) where every second code point of a
run has the property. A `Shift` moves the code points of a stride by a fixed distance. Long
tables are written as text, which `readRanges` reads.
-/

set_option autoImplicit false

namespace Polyglot.Unicode

/-- Whether a code point lies in one of the ranges, given in increasing order. -/
def inRanges : List (Nat × Nat) → Nat → Bool
  | [], _ => false
  | (first, last) :: rest, n =>
    if n < first then false else if n ≤ last then true else inRanges rest n

/-- Whether a code point lies on one of the strides, given in increasing order. -/
def inStrides : List (Nat × Nat × Nat) → Nat → Bool
  | [], _ => false
  | (first, last, step) :: rest, n =>
    if n < first then false
    else if n ≤ last then (n - first) % step == 0
    else inStrides rest n

/-- The code points `first, first + step, …, last` move by `distance`. -/
structure Shift where
  /-- The first code point. -/
  first : Nat
  /-- The last code point. -/
  last : Nat
  /-- The distance from one to the next. -/
  step : Nat
  /-- How far each of them moves. -/
  distance : Int
deriving DecidableEq, Repr

/-- Whether a shift moves a code point. -/
def Shift.covers (s : Shift) (n : Nat) : Bool :=
  s.first ≤ n && n ≤ s.last && (n - s.first) % s.step == 0

/-- The character that a shift takes to the given one, if there is one. -/
def Shift.source? (s : Shift) (target : Char) : Option Char :=
  let n := ((target.toNat : Int) - s.distance).toNat
  if s.covers n then some (Char.ofNat n) else none

/-- Move a character by the first shift that covers it. -/
def shiftBy (shifts : List Shift) (c : Char) : Char :=
  match shifts.find? (·.covers c.toNat) with
  | some s => Char.ofNat ((c.toNat : Int) + s.distance).toNat
  | none => c

/-- The code points that a shift moves, each with the one it moves to. -/
def Shift.pairs (s : Shift) : List (Nat × Nat) :=
  (List.range ((s.last - s.first) / s.step + 1)).map fun i =>
    let n := s.first + s.step * i
    (n, ((n : Int) + s.distance).toNat)

/-! ### Tables as text -/

/-- The value of a number in hexadecimal digits and small letters. -/
def readHex (digits : String) : Nat :=
  digits.toList.foldl
    (fun n c => 16 * n + (if c.isDigit then c.toNat - '0'.toNat else c.toNat - 'a'.toNat + 10)) 0

/-- The ranges of a word: `first`, `first-last`, or `first-last/step` for single code points at
a distance. -/
def readRange (word : String) : List (Nat × Nat) :=
  match word.splitOn "-" with
  | [first, last] =>
    match last.splitOn "/" with
    | [last, step] =>
      (Shift.pairs ⟨readHex first, readHex last, readHex step, 0⟩).map fun (n, _) => (n, n)
    | _ => [(readHex first, readHex last)]
  | _ => [(readHex word, readHex word)]

/-- The ranges of a table whose lines hold words with a blank between two. -/
def readRanges (lines : List String) : List (Nat × Nat) :=
  lines.flatMap fun line => (line.splitOn " ").flatMap readRange

end Polyglot.Unicode
