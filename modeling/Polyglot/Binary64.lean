/-!
# `Polyglot.Binary64`: finite double-precision numbers, in exact arithmetic

The free-form part of a profile may hold fractions. They are kept as the double-precision
number nearest to what was written, here as a sign, a mantissa and a power of two, so that
every operation is plain arithmetic on natural numbers.

* `Binary64.ofDecimal?` turns a 64-bit significand and a power of ten into a double by one
  rounded multiplication or division, as decimal readers do that work on machine words.
* `Binary64.text` writes the fewest decimal digits that round back to the number: positional
  up to sixteen places before the point and four zeros after it, with an exponent beyond.
-/

set_option autoImplicit false

namespace Polyglot

/-- The finite double `± mantissa * 2 ^ exponent`. -/
structure Binary64 where
  /-- Whether the sign is minus; zero has a sign too. -/
  negative : Bool
  /-- The digits in base two, below `2 ^ 53`. -/
  mantissa : Nat
  /-- The power of two of the last digit, at least `-1074`. -/
  exponent : Int
deriving DecidableEq, Repr, Inhabited

namespace Binary64

/-! ### Rounding -/

/-- `num / den` rounded to the nearest natural number, a half to the even neighbour. -/
def roundDiv (num den : Nat) : Nat :=
  let quotient := num / den
  let twice := 2 * (num % den)
  if twice > den || (twice == den && quotient % 2 == 1) then quotient + 1 else quotient

/-- Numerator and denominator of `num / den / base ^ power`. -/
def shifted (base num den : Nat) (power : Int) : Nat × Nat :=
  if power ≥ 0 then (num, den * Nat.pow base power.toNat) else (num * Nat.pow base (-power).toNat, den)

/-- Mantissa and exponent of the double nearest to `num / den`, or `none` if that exceeds
the largest finite one. -/
def nearest? (num den : Nat) : Option (Nat × Int) :=
  if num = 0 then some (0, -1074)
  else
    -- the quotient by `2 ^ low` has 53 or 54 binary digits
    let low : Int := num.log2 - den.log2 - 53
    let probe := shifted 2 num den low
    let tight := if probe.1 / probe.2 ≥ Nat.pow 2 53 then low + 1 else low
    let exponent := max tight (-1074)
    let scaled := shifted 2 num den exponent
    let mantissa := roundDiv scaled.1 scaled.2
    let (mantissa, exponent) :=
      if mantissa = Nat.pow 2 53 then (Nat.pow 2 52, exponent + 1) else (mantissa, exponent)
    if exponent > 971 then none else some (mantissa, exponent)

/-- The magnitude as numerator and denominator. -/
def ratio (mantissa : Nat) (exponent : Int) : Nat × Nat :=
  shifted 2 mantissa 1 (-exponent)

/-! ### From decimal -/

/-- Divide by `10 ^ power`, at most `10 ^ 308` at a time, rounding each quotient. Two steps
of the largest size take every 64-bit significand to zero, so three rounds are enough. -/
def divideByTen : Nat → Nat × Int → Nat → Nat × Int
  | 0, m, _ => m
  | rounds + 1, m, power =>
    let chunk := min power 308
    let divisor := (nearest? (Nat.pow 10 chunk) 1).getD (0, 0)
    let (num, den) := ratio m.1 m.2
    let (dnum, dden) := ratio divisor.1 divisor.2
    let quotient := (nearest? (num * dden) (den * dnum)).getD (0, -1074)
    if power ≤ 308 || quotient.1 = 0 then quotient
    else divideByTen rounds quotient (power - chunk)

/-- The double for `significand * 10 ^ power`: the significand is rounded first, then the
product or quotient with the double nearest to the power of ten. `none` if it is too large. -/
def ofDecimal? (negative : Bool) (significand : Nat) (power : Int) : Option Binary64 := do
  let m ← nearest? significand 1
  if m.1 = 0 then
    return ⟨negative, 0, -1074⟩
  else if power ≥ 0 then
    if power > 308 then
      none
    else
      let factor ← nearest? (Nat.pow 10 power.toNat) 1
      let (num, den) := ratio m.1 m.2
      let (fnum, fden) := ratio factor.1 factor.2
      let product ← nearest? (num * fnum) (den * fden)
      return ⟨negative, product.1, product.2⟩
  else
    let quotient := divideByTen 3 m (-power).toNat
    return ⟨negative, quotient.1, quotient.2⟩

/-! ### To decimal -/

/-- The least `k` from `from` on with `num * 10 ^ k ≥ den`, looking at most `fuel` places
far. -/
def leadingZeros (num den : Nat) : Nat → Nat → Nat
  | 0, k => k
  | fuel + 1, k => if num * Nat.pow 10 k ≥ den then k else leadingZeros num den fuel (k + 1)

/-- The power of ten of the first decimal digit of `num / den`. -/
def magnitude (num den : Nat) : Int :=
  if num ≥ den then ((Nat.toDigits 10 (num / den)).length : Int) - 1
  else -(leadingZeros num den 330 1 : Int)

/-- Whether `n / d` rounds to the double `mantissa * 2 ^ exponent`: it lies between the
midpoints to the two neighbours, which count if the mantissa is even. -/
def roundsTo (mantissa : Nat) (exponent : Int) (n d : Nat) : Bool :=
  let (highNum, highDen) := ratio (2 * mantissa + 1) (exponent - 1)
  let (lowNum, lowDen) :=
    -- below a power of two the neighbour is half as far away
    if mantissa = Nat.pow 2 52 && exponent > -1074 then ratio (4 * mantissa - 1) (exponent - 2)
    else ratio (2 * mantissa - 1) (exponent - 1)
  if mantissa % 2 == 0 then
    decide (lowNum * d ≤ n * lowDen) && decide (n * highDen ≤ highNum * d)
  else
    decide (lowNum * d < n * lowDen) && decide (n * highDen < highNum * d)

/-- The shortest decimal that rounds to `mantissa * 2 ^ exponent`, as digits and the power
of ten of the last one. Grids of `places` digits and more are tried, at most `fuel` of them;
on a grid the neighbour below and the one above the number are tried, the nearer first. -/
def shortest (mantissa : Nat) (exponent : Int) : Nat → Nat → Nat × Int
  | 0, _ => (mantissa, 0)
  | fuel + 1, places =>
    let (num, den) := ratio mantissa exponent
    let power := magnitude num den - (places : Int) + 1
    let (gridNum, gridDen) := shifted 10 num den power
    let below := gridNum / gridDen
    let fits (digits : Nat) : Bool :=
      let (n, d) := shifted 10 digits 1 (-power)
      roundsTo mantissa exponent n d
    let nearer := roundDiv gridNum gridDen
    let farther := if nearer = below then below + 1 else below
    if fits nearer then (nearer, power)
    else if fits farther then (farther, power)
    else shortest mantissa exponent fuel (places + 1)

/-- Drop zeros at the end, counting them into the power of ten. -/
def dropZeros : Nat → Nat × Int → Nat × Int
  | 0, d => d
  | fuel + 1, (digits, power) =>
    if digits ≠ 0 && digits % 10 = 0 then dropZeros fuel (digits / 10, power + 1)
    else (digits, power)

/-- Decimal digits as characters. -/
def decimal (n : Nat) : List Char := Nat.toDigits 10 n

/-- The sign of a power of ten and its digits. -/
def powerText (power : Int) : List Char :=
  if power < 0 then '-' :: decimal power.natAbs else decimal power.natAbs

/-- The number in decimal: shortest digits, a point or an exponent always present. -/
def text (x : Binary64) : String :=
  let sign := if x.negative then ['-'] else []
  let body :=
    if x.mantissa = 0 then ['0', '.', '0']
    else
      let (digits, power) := dropZeros 20 (shortest x.mantissa x.exponent 17 1)
      let ds := decimal digits
      let point : Int := ds.length + power
      if 0 ≤ power && point ≤ 16 then
        ds ++ List.replicate power.toNat '0' ++ ['.', '0']
      else if 0 < point && point ≤ 16 then
        ds.take point.toNat ++ '.' :: ds.drop point.toNat
      else if -5 < point && point ≤ 0 then
        '0' :: '.' :: (List.replicate (-point).toNat '0' ++ ds)
      else if ds.length = 1 then
        ds ++ 'e' :: powerText (point - 1)
      else
        ds.take 1 ++ '.' :: ds.drop 1 ++ 'e' :: powerText (point - 1)
  String.ofList (sign ++ body)

end Binary64

end Polyglot
