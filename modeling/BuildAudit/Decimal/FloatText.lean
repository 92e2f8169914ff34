import BuildAudit.Decimal.Shortest

/-!
# The text of a double

A double is written with the digits of its shortest decimal. `FloatFormat` lists the decisions of a
notation; `reportFormat` is the notation of messages and reports.
-/

namespace BuildAudit.Decimal

/-- The decisions of a notation for doubles. -/
structure FloatFormat where
  /-- The least position of the decimal point that is written without an exponent. -/
  leastPoint : Int
  /-- The greatest position of the decimal point that is written without an exponent. -/
  greatestPoint : Int
  /-- The least number of digits of an exponent. -/
  exponentWidth : Nat
  /-- The text of infinity. -/
  infinity : String
  /-- The text of a value that is not a number. -/
  notANumber : String

/-- Messages and reports write `0.0001` and `1000000000000000.0` without an exponent and go over to
`1e-05` and `1e+16` beyond them. -/
def reportFormat : FloatFormat where
  leastPoint := -3
  greatestPoint := 16
  exponentWidth := 2
  infinity := "inf"
  notANumber := "nan"

/-- A text filled up with zeros in front. -/
def padLeft (width : Nat) (cs : List Char) : List Char :=
  List.replicate (width - cs.length) '0' ++ cs

/-- The digits `cs` with the decimal point at `point`, and at least one digit on either side. -/
def positional (cs : List Char) (point : Int) : List Char :=
  if point ≤ 0 then '0' :: '.' :: (List.replicate (-point).toNat '0' ++ cs)
  else
    let whole := cs.take point.toNat
    let rest := cs.drop point.toNat
    let fraction := if rest.isEmpty then ['0'] else rest
    whole ++ List.replicate (point.toNat - cs.length) '0' ++ '.' :: fraction

/-- The digits `cs` with one digit before the decimal point and an exponent. -/
def scientific (format : FloatFormat) (cs : List Char) (point : Int) : List Char :=
  let exponent := point - 1
  let mark := if exponent < 0 then '-' else '+'
  let head := match cs with
    | [] => []
    | [c] => [c]
    | c :: rest => c :: '.' :: rest
  head ++ 'e' :: mark :: padLeft format.exponentWidth (Nat.toDigits 10 exponent.natAbs)

/-- The text of a double by its 64 bits. -/
def bitsText (format : FloatFormat) (bits : Nat) : String :=
  let magnitude := bits % Nat.pow 2 63
  let sign := if bits / Nat.pow 2 63 = 0 then [] else ['-']
  if infinityMagnitude < magnitude then format.notANumber
  else if magnitude = infinityMagnitude then String.ofList (sign ++ format.infinity.toList)
  else if magnitude = 0 then String.ofList (sign ++ ['0', '.', '0'])
  else
    let short := (Dyadic.ofMagnitude magnitude).shortest
    let cs := Nat.toDigits 10 short.digits
    let body :=
      if format.leastPoint ≤ short.point && short.point ≤ format.greatestPoint then
        positional cs short.point
      else
        scientific format cs short.point
    String.ofList (sign ++ body)

/-- The text of a double in a message or a report. -/
def floatText (x : Float) : String :=
  bitsText reportFormat x.toBits.toNat

end BuildAudit.Decimal
