import BuildAudit.Toml.Keys
import BuildAudit.Toml.Moments
import BuildAudit.Toml.Nest
import BuildAudit.Toml.Numbers

/-!
# Values of TOML

A value is a string, a truth value, a date or time, a number, a list in square brackets, or a table
in braces on one line. A list or table that is an entry of such a table cannot be added to. Lists
and tables in braces are nested as far as there is room.
-/

namespace BuildAudit.Toml

/-- Whether a value is a list or a table. -/
def isNested : Value → Bool
  | .list _ | .table _ => true
  | _ => false

/-- Reads a value other than a list or a table. -/
def readScalar (cs : List Char) : Except Refusal (Value × List Char) :=
  match cs with
  | 't' :: 'r' :: 'u' :: 'e' :: rest => .ok (.bool true, rest)
  | 'f' :: 'a' :: 'l' :: 's' :: 'e' :: rest => .ok (.bool false, rest)
  | _ =>
    match readString? cs, readMoment? cs with
    | some read, _ => read.map fun (text, rest) => (.string text, rest)
    | none, some (some value, rest) => .ok (value, rest)
    | none, some (none, _) => .error (.at .invalidDate cs)
    | none, none => (readNumber? cs).getD (.error (.at .invalidValue cs))

/-- Adds an entry to a table in braces. `closed` holds the keys of its earlier entries that are
lists or tables. -/
def addPair (closed : List Key) (key : Key) (value : Value) (table : Table Value) :
    Except Cause (Table Value) :=
  if covers closed key then .error (.complete key)
  else
    let name := key.getLastD ""
    changeAt false (addEntry (.duplicateName name) name value) key.dropLast table

/-- The room for nesting. -/
def nestingRoom : Nat := 988

/-- The room that a list takes up. -/
def listRoom : Nat := 2

/-- The room that a table in braces takes up. -/
def tableRoom : Nat := 3

mutual

/-- Reads a value. The first argument bounds the number of values that are nested or follow one
another, the second one is the room that is left for nesting. -/
def readValue : Nat → Nat → List Char → Except Refusal (Value × List Char)
  | 0, _, _ => .error (.excess .nesting)
  | fuel + 1, room, cs =>
    match cs with
    | '[' :: rest => do
      if room < listRoom then throw (.excess .nesting)
      match ← skipFiller false rest with
      | ']' :: rest => return (.list [], rest)
      | rest => readItems fuel (room - listRoom) [] rest
    | '{' :: rest =>
      if room < tableRoom then .error (.excess .nesting)
      else
        match skipBlanks rest with
        | '}' :: rest => .ok (.table [], rest)
        | rest => readPairs fuel (room - tableRoom) [] [] rest
    | cs => readScalar cs

/-- Reads the items of a list from one of them on, after those that are read already, the last one
first. -/
def readItems : Nat → Nat → List Value → List Char → Except Refusal (Value × List Char)
  | 0, _, _, _ => .error (.excess .nesting)
  | fuel + 1, room, items, cs => do
    let (value, rest) ← readValue fuel room cs
    match ← skipFiller false rest with
    | ']' :: rest => return (.list (value :: items).reverse, rest)
    | ',' :: rest =>
      match ← skipFiller false rest with
      | ']' :: rest => return (.list (value :: items).reverse, rest)
      | rest => readItems fuel room (value :: items) rest
    | rest => throw (.at .unclosedList rest)

/-- Reads the entries of a table in braces from one of them on. -/
def readPairs : Nat → Nat → List Key → Table Value → List Char →
    Except Refusal (Value × List Char)
  | 0, _, _, _, _ => .error (.excess .nesting)
  | fuel + 1, room, closed, table, cs => do
    let (key, rest) ← readKeyEquals cs
    let (value, rest) ← readValue fuel room rest
    let table ← refuseAt rest (addPair closed key value table)
    match skipBlanks rest with
    | '}' :: rest => return (.table table, rest)
    | ',' :: rest =>
      let closed := if isNested value then key :: closed else closed
      readPairs fuel room closed table (skipBlanks rest)
    | rest => throw (.at .unclosedTable rest)

end

end BuildAudit.Toml
