/-!
# Hexadecimal digits

Numbers in base sixteen are written with the decimal digits of ASCII and the first six letters,
small or capital.
-/

namespace BuildAudit.Text

/-- The value of a hexadecimal digit. -/
def hexValue? (c : Char) : Option Nat :=
  if '0' ≤ c && c ≤ '9' then some (c.toNat - 48)
  else if 'a' ≤ c && c ≤ 'f' then some (c.toNat - 87)
  else if 'A' ≤ c && c ≤ 'F' then some (c.toNat - 55)
  else none

/-- The number that hexadecimal digits denote, or `none` if one of them is no such digit. -/
def hexNumber? (cs : List Char) : Option Nat :=
  cs.foldl (fun number c => number.bind fun n => (hexValue? c).map (16 * n + ·)) (some 0)

/-- The hexadecimal digit of a value below sixteen. -/
def hexDigit (value : Nat) : Char :=
  if value < 10 then Char.ofNat (48 + value) else Char.ofNat (87 + value)

/-- The last `width` hexadecimal digits of a number, leading zeros included. -/
def hexDigits : Nat → Nat → List Char
  | 0, _ => []
  | width + 1, value => hexDigits width (value / 16) ++ [hexDigit (value % 16)]

end BuildAudit.Text
