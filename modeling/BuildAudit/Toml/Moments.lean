import BuildAudit.Value.Basic

/-!
# Dates and times of TOML

A date may be followed by a time, and the time by its distance from universal time. All numbers have
a fixed width, and a date must be one of the calendar.
-/

namespace BuildAudit.Toml

/-- Reads a number of exactly `width` decimal digits that lies between two bounds. -/
def fixedNumber? (width least greatest : Nat) (cs : List Char) : Option (Nat × List Char) :=
  let digits := cs.take width
  let number := digits.foldl (fun number c => 10 * number + (c.toNat - 48)) 0
  if digits.length = width && digits.all Char.isDigit && least ≤ number && number ≤ greatest then
    some (number, cs.drop width)
  else none

/-- What follows a mark. -/
def afterMark? (mark : Char) : List Char → Option (List Char)
  | c :: rest => if c = mark then some rest else none
  | [] => none

/-- The millionths of a second and what follows them. Digits beyond the sixth are dropped. -/
def micros (cs : List Char) : Nat × List Char :=
  match cs with
  | '.' :: rest =>
    let digits := rest.takeWhile Char.isDigit
    if digits.isEmpty then (0, cs)
    else
      let six := digits.take 6 ++ List.replicate (6 - digits.length) '0'
      (six.foldl (fun number c => 10 * number + (c.toNat - 48)) 0, rest.dropWhile Char.isDigit)
  | _ => (0, cs)

/-- Reads a time of day. -/
def readTime? (cs : List Char) : Option (TimeOfDay × List Char) := do
  let (hour, cs) ← fixedNumber? 2 0 23 cs
  let cs ← afterMark? ':' cs
  let (minute, cs) ← fixedNumber? 2 0 59 cs
  let cs ← afterMark? ':' cs
  let (second, cs) ← fixedNumber? 2 0 59 cs
  let (micro, cs) := micros cs
  return ({ hour, minute, second, micro }, cs)

/-- Reads a date, which need not be one of the calendar. -/
def readDate? (cs : List Char) : Option (Date × List Char) := do
  let (year, cs) ← fixedNumber? 4 0 9999 cs
  let cs ← afterMark? '-' cs
  let (month, cs) ← fixedNumber? 2 1 12 cs
  let cs ← afterMark? '-' cs
  let (day, cs) ← fixedNumber? 2 1 31 cs
  return ({ year, month, day }, cs)

/-- Reads hours and minutes of an offset. -/
def readOffset? (cs : List Char) : Option (Nat × List Char) := do
  let (hours, cs) ← fixedNumber? 2 0 23 cs
  let cs ← afterMark? ':' cs
  let (minutes, cs) ← fixedNumber? 2 0 59 cs
  return (60 * hours + minutes, cs)

/-- The distance from universal time in minutes, and what follows it. -/
def offsetPart (cs : List Char) : Option Int × List Char :=
  match cs with
  | mark :: rest =>
    if mark = 'Z' || mark = 'z' then (some 0, rest)
    else if mark = '+' || mark = '-' then
      match readOffset? rest with
      | some (minutes, rest) =>
        (some (if mark = '-' then -(minutes : Int) else (minutes : Int)), rest)
      | none => (none, cs)
    else (none, cs)
  | [] => (none, cs)

/-- The time after a date, and what follows it. -/
def timePart (cs : List Char) : Option TimeOfDay × List Char :=
  match cs with
  | mark :: rest =>
    if mark = 'T' || mark = 't' || mark = ' ' then
      match readTime? rest with
      | some (time, rest) => (some time, rest)
      | none => (none, cs)
    else (none, cs)
  | [] => (none, cs)

/-- Reads a date, a time or both. The inner value is `none` if the date is not one of the
calendar. -/
def readMoment? (cs : List Char) : Option (Option Value × List Char) :=
  match readDate? cs with
  | some (date, rest) =>
    let (time, rest) := timePart rest
    match time with
    | none => some (if date.isValid then some (.date date) else none, rest)
    | some time =>
      let (offset, rest) := offsetPart rest
      some (if date.isValid then some (.dateTime { date, time, offset }) else none, rest)
  | none => (readTime? cs).map fun (time, rest) => (some (.time time), rest)

end BuildAudit.Toml
