/-!
# Binary fractions

A finite double-precision number is a whole number times a power of two. This module splits a number
into the two and goes back from a decimal to the nearest double, a tie going to the even
neighbour. All arithmetic is exact.
-/

namespace BuildAudit.Decimal

/-- The value `mantissa · 2 ^ exponent` of a finite double without its sign. -/
structure Dyadic where
  /-- The whole-number factor, below `2 ^ 53`. -/
  mantissa : Nat
  /-- The power of two. -/
  exponent : Int

/-- The least power of two among the doubles. -/
def leastExponent : Int := -1074

/-- Splits the lower 63 bits of a finite double. -/
def Dyadic.ofMagnitude (bits : Nat) : Dyadic :=
  let field := bits / Nat.pow 2 52
  let fraction := bits % Nat.pow 2 52
  if field = 0 then { mantissa := fraction, exponent := leastExponent }
  else { mantissa := fraction + Nat.pow 2 52, exponent := leastExponent + (field - 1 : Nat) }

/-- Numerator and denominator of `number · base ^ exponent`. -/
def scaled (base number : Nat) (exponent : Int) : Nat × Nat :=
  if 0 ≤ exponent then (number * Nat.pow base exponent.toNat, 1)
  else (number, Nat.pow base (-exponent).toNat)

/-- The whole number nearest to a quotient; a tie goes to the even one. -/
def roundQuotient (numerator denominator : Nat) : Nat :=
  let below := numerator / denominator
  let twiceRest := 2 * (numerator % denominator)
  if twiceRest < denominator then below
  else if denominator < twiceRest then below + 1
  else below + below % 2

/-- The magnitude bits of infinity, which also stand for every value beyond the doubles. -/
def infinityMagnitude : Nat := 0x7FF * Nat.pow 2 52

/-- The magnitude bits of the double nearest to a positive quotient. -/
def nearestMagnitude (numerator denominator : Nat) : Nat :=
  let quotientAt (exponent : Int) : Nat × Nat :=
    if 0 ≤ exponent then (numerator, denominator * Nat.pow 2 exponent.toNat)
    else (numerator * Nat.pow 2 (-exponent).toNat, denominator)
  let guess : Int := (numerator.log2 : Int) - denominator.log2 - 53
  let (n, d) := quotientAt guess
  let exponent := max leastExponent (if n / d < Nat.pow 2 53 then guess else guess + 1)
  let (n, d) := quotientAt exponent
  min infinityMagnitude ((exponent - leastExponent).toNat * Nat.pow 2 52 + roundQuotient n d)

/-- The number of decimal digits of a whole number; zero has none. -/
def digitCount (number : Nat) : Nat :=
  if number = 0 then 0 else (Nat.toDigits 10 number).length

/-- The magnitude bits of the double nearest to `number · 10 ^ exponent`. Decimals that are out of
the range of the doubles are settled by their size alone. -/
def decimalMagnitude (number : Nat) (exponent : Int) : Nat :=
  let size := digitCount number + exponent
  if number = 0 || size < -400 then 0
  else if 400 < size then infinityMagnitude
  else
    let (n, d) := scaled 10 number exponent
    nearestMagnitude n d

/-- The double nearest to `number · 10 ^ exponent`, with the given sign. -/
def nearestFloat (negative : Bool) (number : Nat) (exponent : Int) : Float :=
  let sign := if negative then Nat.pow 2 63 else 0
  Float.ofBits (UInt64.ofNat (sign + decimalMagnitude number exponent))

end BuildAudit.Decimal
