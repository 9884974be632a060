import Polyglot.Regex.Property.Folding

/-!
# `Polyglot.Regex.CharSet`: sets of characters

A bracket expression, a class escape or a single letter of a regular expression denotes a
set of characters. A `CharSet` has the ranges of its code points in increasing order, with a
gap between any two and without surrogates, so a set has one form only. The operations are
those of bracket expressions.
-/

set_option autoImplicit false

namespace Polyglot.Regex

/-- A set of characters. -/
structure CharSet where
  /-- The code points of the set, as ranges with both ends included. -/
  ranges : List (Nat × Nat)
deriving DecidableEq, Repr, Inhabited

namespace CharSet

/-- Membership. -/
def contains (s : CharSet) (c : Char) : Bool := Unicode.inRanges s.ranges c.toNat

/-! ### Operations on ranges -/

/-- Join ranges that overlap or touch. They are given by increasing first code point, and the
range from `first` to `last` is in front of them. -/
def joinAfter (first last : Nat) : List (Nat × Nat) → List (Nat × Nat)
  | [] => [(first, last)]
  | (a, b) :: rest =>
    if a ≤ last + 1 then joinAfter first (max last b) rest
    else (first, last) :: joinAfter a b rest

/-- Join ranges that overlap or touch, given by increasing first code point. -/
def join : List (Nat × Nat) → List (Nat × Nat)
  | [] => []
  | (first, last) :: rest => joinAfter first last rest

/-- The code points of either list of ranges. -/
def either (a b : List (Nat × Nat)) : List (Nat × Nat) :=
  join (a.merge b fun x y => x.1 ≤ y.1)

/-- The code points from `start` on that are in none of the ranges. -/
def gaps (start : Nat) : List (Nat × Nat) → List (Nat × Nat)
  | [] => if start ≤ 0x10ffff then [(start, 0x10ffff)] else []
  | (first, last) :: rest =>
    if start < first then (start, first - 1) :: gaps (last + 1) rest else gaps (last + 1) rest

/-- The code points that are no characters. -/
def surrogates : List (Nat × Nat) := [(0xd800, 0xdfff)]

/-! ### Operations on sets -/

/-- No character. -/
def empty : CharSet := ⟨[]⟩

/-- The characters of either set. -/
def union (s t : CharSet) : CharSet := ⟨either s.ranges t.ranges⟩

/-- All other characters. -/
def compl (s : CharSet) : CharSet := ⟨gaps 0 (either s.ranges surrogates)⟩

/-- The characters of both sets. -/
def inter (s t : CharSet) : CharSet := (s.compl.union t.compl).compl

/-- The characters of the first set outside the second. -/
def diff (s t : CharSet) : CharSet := (s.compl.union t).compl

/-- The characters of exactly one of the sets. -/
def symmDiff (s t : CharSet) : CharSet := (s.diff t).union (t.diff s)

/-- The characters of any of the sets. -/
def unionAll (sets : List CharSet) : CharSet := sets.foldl union empty

/-- The characters from `first` to `last`. -/
def range (first last : Char) : CharSet :=
  if first.toNat < 0xd800 ∧ 0xdfff < last.toNat then
    ⟨[(first.toNat, 0xd7ff), (0xe000, last.toNat)]⟩
  else ⟨[(first.toNat, last.toNat)]⟩

/-- The set of one character. -/
def single (c : Char) : CharSet := ⟨[(c.toNat, c.toNat)]⟩

/-- The set of the listed characters. -/
def ofList (chars : List Char) : CharSet := unionAll (chars.map single)

/-- The set of the listed code points. -/
def ofCodes (codes : List Nat) : CharSet :=
  ⟨join ((codes.mergeSort fun a b => a ≤ b).map fun n => (n, n))⟩

/-- The set of a table that is written as text. -/
def ofTable (lines : List String) : CharSet := ⟨join (Unicode.readRanges lines)⟩

/-- The set of all characters. -/
def any : CharSet := empty.compl

/-- Whether the set has characters of ASCII only. -/
def isAscii (s : CharSet) : Bool := s.ranges.all fun r => r.2 < 0x80

/-- The character of a set of one. -/
def only? (s : CharSet) : Option Char :=
  match s.ranges with
  | [(first, last)] => if first = last then some (Char.ofNat first) else none
  | _ => none

/-! ### Case variants -/

/-- The characters of the set and all their case variants: first the representatives, then
whatever folds to one of them. -/
def folded (s : CharSet) : CharSet :=
  let folds := s.union (ofCodes (Property.foldPairs.filterMap fun (n, fold) =>
    if Unicode.inRanges s.ranges n then some fold else none))
  folds.union (ofCodes (Property.foldPairs.filterMap fun (n, fold) =>
    if Unicode.inRanges folds.ranges fold then some n else none))

/-- The letters of ASCII as code points. -/
def letterCodes : List Nat := (List.range 26).flatMap fun i => [0x41 + i, 0x61 + i]

/-- The characters of the set and the case variants of ASCII letters. -/
def foldedAscii (s : CharSet) : CharSet :=
  s.union (ofCodes (letterCodes.filter fun n =>
    Unicode.inRanges s.ranges (if n < 0x60 then n + 0x20 else n - 0x20)))

/-! ### Classes of ASCII -/

/-- Decimal digits of ASCII. -/
def asciiDigit : CharSet := ⟨[(0x30, 0x39)]⟩

/-- Upper-case letters of ASCII. -/
def asciiUpper : CharSet := ⟨[(0x41, 0x5a)]⟩

/-- Lower-case letters of ASCII. -/
def asciiLower : CharSet := ⟨[(0x61, 0x7a)]⟩

/-- Letters of ASCII. -/
def asciiAlpha : CharSet := asciiUpper.union asciiLower

/-- Letters and digits of ASCII. -/
def asciiAlnum : CharSet := asciiDigit.union asciiAlpha

/-- Word characters of ASCII. -/
def asciiWord : CharSet := asciiAlnum.union (single '_')

/-- White space of ASCII. -/
def asciiBlank : CharSet := ⟨[(0x09, 0x0d), (0x20, 0x20)]⟩

/-- The ASCII class of a name, as it is written between `[:` and `:]`. -/
def asciiClass? : String → Option CharSet
  | "alnum" => some asciiAlnum
  | "alpha" => some asciiAlpha
  | "ascii" => some ⟨[(0x00, 0x7f)]⟩
  | "blank" => some ⟨[(0x09, 0x09), (0x20, 0x20)]⟩
  | "cntrl" => some ⟨[(0x00, 0x1f), (0x7f, 0x7f)]⟩
  | "digit" => some asciiDigit
  | "graph" => some ⟨[(0x21, 0x7e)]⟩
  | "lower" => some asciiLower
  | "print" => some ⟨[(0x20, 0x7e)]⟩
  | "punct" => some ⟨[(0x21, 0x2f), (0x3a, 0x40), (0x5b, 0x60), (0x7b, 0x7e)]⟩
  | "space" => some asciiBlank
  | "upper" => some asciiUpper
  | "word" => some asciiWord
  | "xdigit" => some ⟨[(0x30, 0x39), (0x41, 0x46), (0x61, 0x66)]⟩
  | _ => none

end CharSet

end Polyglot.Regex
