/-!
# Dates and times

The calendar values a configuration document may hold: a date, a time of day, and a date with a
time, which may carry its distance from universal time.
-/

namespace BuildAudit

/-- A day of the Gregorian calendar. -/
structure Date where
  /-- The year, from 1 to 9999. -/
  year : Nat
  /-- The month, from 1 to 12. -/
  month : Nat
  /-- The day of the month, from 1. -/
  day : Nat
deriving DecidableEq

/-- A time of day. -/
structure TimeOfDay where
  /-- The hour, from 0 to 23. -/
  hour : Nat
  /-- The minute, from 0 to 59. -/
  minute : Nat
  /-- The second, from 0 to 59. -/
  second : Nat
  /-- The millionths of a second. -/
  micro : Nat
deriving DecidableEq

/-- A date with a time of day. -/
structure DateTime where
  /-- The day. -/
  date : Date
  /-- The time of that day. -/
  time : TimeOfDay
  /-- The minutes by which the local time is ahead of universal time, where it is stated. -/
  offset : Option Int
deriving DecidableEq

/-- Whether a year has a 29th of February. -/
def isLeapYear (year : Nat) : Bool :=
  year % 4 = 0 && (year % 100 ≠ 0 || year % 400 = 0)

/-- The number of days of a month. -/
def daysInMonth (year month : Nat) : Nat :=
  if month = 2 then (if isLeapYear year then 29 else 28)
  else if month = 4 || month = 6 || month = 9 || month = 11 then 30
  else 31

/-- Whether a date is one of the calendar. -/
def Date.isValid (date : Date) : Bool :=
  1 ≤ date.year && date.year ≤ 9999 && 1 ≤ date.month && date.month ≤ 12 && 1 ≤ date.day &&
    date.day ≤ daysInMonth date.year date.month

/-- A number with zeros in front, up to a width. -/
def padNumber (width number : Nat) : String :=
  let digits := Nat.toDigits 10 number
  String.ofList (List.replicate (width - digits.length) '0' ++ digits)

/-- The date as `year-month-day`. -/
def Date.text (date : Date) : String :=
  s!"{padNumber 4 date.year}-{padNumber 2 date.month}-{padNumber 2 date.day}"

/-- The time as `hour:minute:second`, with six places after the point if it has millionths. -/
def TimeOfDay.text (time : TimeOfDay) : String :=
  let micros := if time.micro = 0 then "" else "." ++ padNumber 6 time.micro
  s!"{padNumber 2 time.hour}:{padNumber 2 time.minute}:{padNumber 2 time.second}" ++ micros

/-- An offset as a sign, hours and minutes. -/
def offsetText (minutes : Int) : String :=
  let mark := if minutes < 0 then "-" else "+"
  s!"{mark}{padNumber 2 (minutes.natAbs / 60)}:{padNumber 2 (minutes.natAbs % 60)}"

/-- The date and the time with a blank between them, and the offset if there is one. -/
def DateTime.text (moment : DateTime) : String :=
  moment.date.text ++ " " ++ moment.time.text ++ (moment.offset.map offsetText).getD ""

/-- Arguments in brackets after a name. -/
def callText (name : String) (arguments : List String) : String :=
  name ++ "(" ++ ", ".intercalate arguments ++ ")"

/-- The form of a date inside a list or a table of a message. -/
def Date.quoted (date : Date) : String :=
  callText "datetime.date" [toString date.year, toString date.month, toString date.day]

/-- The hour and minute of a time, followed by the second and the millionths as far as the last one
that is not zero. -/
def TimeOfDay.arguments (time : TimeOfDay) : List String :=
  [toString time.hour, toString time.minute] ++
    (if time.micro ≠ 0 then [toString time.second, toString time.micro]
     else if time.second ≠ 0 then [toString time.second]
     else [])

/-- The form of a time inside a list or a table of a message. -/
def TimeOfDay.quoted (time : TimeOfDay) : String :=
  callText "datetime.time" time.arguments

/-- The form of an offset inside a list or a table of a message. A negative offset is a day back and
seconds forward. -/
def offsetQuoted (minutes : Int) : String :=
  if minutes = 0 then "datetime.timezone.utc"
  else
    let seconds := toString ((60 * minutes).emod 86400)
    let span :=
      if minutes < 0 then ["days=-1", "seconds=" ++ seconds] else ["seconds=" ++ seconds]
    callText "datetime.timezone" [callText "datetime.timedelta" span]

/-- The form of a date with a time inside a list or a table of a message. -/
def DateTime.quoted (moment : DateTime) : String :=
  callText "datetime.datetime" <|
    [toString moment.date.year, toString moment.date.month, toString moment.date.day] ++
      moment.time.arguments ++
      (moment.offset.map fun minutes => ["tzinfo=" ++ offsetQuoted minutes]).getD []

end BuildAudit
