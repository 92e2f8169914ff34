import BuildAudit.Json.Reader
import BuildAudit.Text.Underscored
import BuildAudit.Toml.Fault

/-!
# Numbers of TOML

Whole numbers are decimal, or hexadecimal, octal or binary with a letter in front and no sign.
Single underscores may stand between digits. A decimal with a fraction or an exponent is a binary
fraction, and so are infinity and the value that is not a number.
-/

namespace BuildAudit.Toml

/-- The number that digits denote in a base. -/
def numberInBase (base : Nat) (digits : List Char) : Nat :=
  digits.foldl (fun number c => base * number + (Text.hexValue? c).getD 0) 0

/-- Reads a whole number with a letter for its base. -/
def readBased? : List Char → Option (Value × List Char)
  | '0' :: mark :: rest =>
    let base := if mark = 'x' then 16 else if mark = 'o' then 8 else if mark = 'b' then 2 else 0
    let isDigit (c : Char) : Bool := ((Text.hexValue? c).map (decide <| · < base)).getD false
    (Text.underscored? isDigit rest).map fun (digits, rest) =>
      (.int (numberInBase base digits), rest)
  | _ => none

/-- The whole part of a decimal: a zero by itself, or digits that do not start with zero. -/
def wholePart? : List Char → Option (List Char × List Char)
  | '0' :: rest => some (['0'], rest)
  | cs => Text.underscored? Char.isDigit cs

/-- The digits of a fraction, and what follows them. -/
def fractionPart (cs : List Char) : Option (List Char) × List Char :=
  match cs with
  | '.' :: rest =>
    match Text.underscored? Char.isDigit rest with
    | some (digits, rest) => (some digits, rest)
    | none => (none, cs)
  | _ => (none, cs)

/-- The exponent of a decimal, and what follows it. -/
def exponentPart (cs : List Char) : Option Int × List Char :=
  match cs with
  | mark :: rest =>
    if mark = 'e' || mark = 'E' then
      let (negative, body) := Text.splitSign rest
      match Text.underscored? Char.isDigit body with
      | some (digits, rest) =>
        let exponent : Int := numberInBase 10 digits
        (some (if negative then -exponent else exponent), rest)
      | none => (none, cs)
    else (none, cs)
  | [] => (none, cs)

/-- Reads a decimal, if there is one. A whole number of too many digits is refused. -/
def readDecimal? (cs : List Char) : Option (Except Refusal (Value × List Char)) :=
  let (negative, body) := Text.splitSign cs
  (wholePart? body).map fun (whole, rest) =>
    let (fraction, rest) := fractionPart rest
    let (exponent, rest) := exponentPart rest
    if fraction.isNone && exponent.isNone then
      if whole.length > Text.maxDigits then .error (.excess (.digits whole.length))
      else
        let number : Int := numberInBase 10 whole
        .ok (.int (if negative then -number else number), rest)
    else
      let places := fraction.getD []
      let digits := numberInBase 10 (whole ++ places)
      let scale := exponent.getD 0 - places.length
      .ok (.float (Decimal.nearestFloat negative digits scale), rest)

/-- Reads infinity or the value that is not a number. -/
def readSpecial? (cs : List Char) : Option (Value × List Char) :=
  let (negative, body) := Text.splitSign cs
  match body with
  | 'i' :: 'n' :: 'f' :: rest =>
    some (.float (if negative then -Json.infinity else Json.infinity), rest)
  | 'n' :: 'a' :: 'n' :: rest => some (.float Json.notANumber, rest)
  | _ => none

/-- Reads a number, if there is one. -/
def readNumber? (cs : List Char) : Option (Except Refusal (Value × List Char)) :=
  ((readBased? cs).map .ok).or ((readDecimal? cs).or ((readSpecial? cs).map .ok))

end BuildAudit.Toml
