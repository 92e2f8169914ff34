import BuildAudit.Decimal.Dyadic

/-!
# Shortest decimals

The shortest decimal of a double is the one with the fewest digits among the decimals that read back
as it, and the nearest of those. For each number of digits there is a grid of decimals; if the grid
meets the interval of reals that round to the double, one of the two grid points next to the double
lies in it.
-/

namespace BuildAudit.Decimal

/-- The decimal `0.d₁d₂… · 10 ^ point`, where `d₁d₂…` are the digits of `digits`. -/
structure ShortDecimal where
  /-- The significant digits, as a whole number that does not end in zero. -/
  digits : Nat
  /-- The position of the decimal point, counted from before the first digit. -/
  point : Int

/-- Compares the quotient of the first pair with that of the second. -/
def lessQuotient (a b : Nat × Nat) : Bool :=
  a.1 * b.2 < b.1 * a.2

/-- The ends of the interval of reals that round to a double. -/
def Dyadic.interval (value : Dyadic) : (Nat × Nat) × (Nat × Nat) :=
  let upper := scaled 2 (2 * value.mantissa + 1) (value.exponent - 1)
  let lower :=
    if value.mantissa = Nat.pow 2 52 && leastExponent < value.exponent then
      scaled 2 (4 * value.mantissa - 1) (value.exponent - 2)
    else
      scaled 2 (2 * value.mantissa - 1) (value.exponent - 1)
  (lower, upper)

/-- Whether a quotient rounds to the double. The ends of the interval do when the mantissa is
even. -/
def Dyadic.rounds (value : Dyadic) (quotient : Nat × Nat) : Bool :=
  let (lower, upper) := value.interval
  if value.mantissa % 2 = 0 then !lessQuotient quotient lower && !lessQuotient upper quotient
  else lessQuotient lower quotient && lessQuotient quotient upper

/-- The position of the decimal point of a positive double: the `point` with
`10 ^ (point - 1) ≤ value < 10 ^ point`. -/
def Dyadic.decimalPoint (value : Dyadic) : Int :=
  let (n, d) := scaled 2 value.mantissa value.exponent
  (digitCount (n * Nat.pow 10 400 / d) : Int) - 400

/-- The grid point of `count` digits that stands for the double, if one of the two next to it
does. -/
def Dyadic.onGrid? (value : Dyadic) (point : Int) (count : Nat) : Option Nat :=
  let unit := point - count
  let (n, d) := scaled 2 value.mantissa value.exponent
  let (n, d) :=
    if 0 ≤ unit then (n, d * Nat.pow 10 unit.toNat) else (n * Nat.pow 10 (-unit).toNat, d)
  let below := n / d
  let hits (digits : Nat) : Bool := value.rounds (scaled 10 digits unit)
  match hits below, hits (below + 1) with
  | true, true => some (roundQuotient n d)
  | true, false => some below
  | false, true => some (below + 1)
  | false, false => none

/-- A whole number without the zeros at its end. The second argument bounds their number. -/
def stripZeros (number : Nat) : Nat → Nat
  | 0 => number
  | fuel + 1 => if number % 10 = 0 && number ≠ 0 then stripZeros (number / 10) fuel else number

/-- The shortest decimal of a positive finite double. Seventeen digits always suffice. -/
def Dyadic.shortest (value : Dyadic) : ShortDecimal :=
  let point := value.decimalPoint
  match (List.range 17).findSome? fun n => (value.onGrid? point (n + 1)).map ((n + 1, ·)) with
  | some (count, digits) =>
    { digits := stripZeros digits 17, point := point + (digitCount digits - count : Int) }
  | none => { digits := value.mantissa, point }

end BuildAudit.Decimal
