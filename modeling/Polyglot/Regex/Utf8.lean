import Polyglot.Regex.CharSet

/-!
# `Polyglot.Regex.Utf8`: sets of characters as sequences of byte ranges

A character is encoded as one byte, or as a leading byte and up to three more bytes of six
bits each. The characters of a set are covered by sequences of byte ranges: a sequence stands
for all encodings that take one byte from each of its ranges. `CharSet.sequences` has the
sequences of a set in increasing order; every character of the set is in exactly one of them.
-/

set_option autoImplicit false

namespace Polyglot.Regex

/-- A range of bytes, or of numbers that become bytes. -/
abbrev Span := Nat × Nat

/-- The numbers from `first` to `last`, written with `more` digits to base 64 behind a leading
one, as sequences of ranges of digits. A block of numbers with the same leading digit that
is not covered whole is split by its other digits. -/
def digitSpans : Nat → Nat → Nat → List (List Span)
  | 0, first, last => [[(first, last)]]
  | more + 1, first, last =>
    let block := Nat.pow 64 (more + 1)
    let low := first / block
    let high := last / block
    if low = high then
      (digitSpans more (first % block) (last % block)).map ((low, low) :: ·)
    else
      let startsInside := first % block ≠ 0
      let stopsInside := last % block ≠ block - 1
      let head :=
        if startsInside then
          (digitSpans more (first % block) (block - 1)).map ((low, low) :: ·)
        else []
      let wholeFrom := if startsInside then low + 1 else low
      let wholeTo := if stopsInside then high - 1 else high
      let whole :=
        if wholeFrom ≤ wholeTo then
          [(wholeFrom, wholeTo) :: List.replicate (more + 1) (0, 63)]
        else []
      let tail :=
        if stopsInside then (digitSpans more 0 (last % block)).map ((high, high) :: ·) else []
      head ++ whole ++ tail

/-- The characters that are encoded with the same number of bytes. -/
structure Band where
  /-- The first of them. -/
  first : Nat
  /-- The last of them. -/
  last : Nat
  /-- How many bytes follow the leading one. -/
  more : Nat
  /-- What is added to the leading digits. -/
  lead : Nat
deriving DecidableEq, Repr

/-- All characters in increasing order, without surrogates. -/
def bands : List Band := [
  ⟨0x0, 0x7f, 0, 0x00⟩, ⟨0x80, 0x7ff, 1, 0xc0⟩, ⟨0x800, 0xd7ff, 2, 0xe0⟩,
  ⟨0xe000, 0xffff, 2, 0xe0⟩, ⟨0x10000, 0x10ffff, 3, 0xf0⟩]

/-- Ranges of digits as ranges of bytes. -/
def Band.bytes (b : Band) : List Span → List Span
  | [] => []
  | (first, last) :: rest =>
    (first + b.lead, last + b.lead) :: rest.map fun (low, high) => (low + 0x80, high + 0x80)

/-- The sequences of the characters from `first` to `last` that belong to a band. -/
def Band.sequences (b : Band) (first last : Nat) : List (List Span) :=
  let first := max first b.first
  let last := min last b.last
  if first ≤ last then (digitSpans b.more first last).map b.bytes else []

/-- The sequences of byte ranges of a set. -/
def CharSet.sequences (s : CharSet) : List (List Span) :=
  s.ranges.flatMap fun (first, last) => bands.flatMap (·.sequences first last)

end Polyglot.Regex
