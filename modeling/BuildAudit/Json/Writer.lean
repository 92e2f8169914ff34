import BuildAudit.Text.CodeText
import BuildAudit.Value.Text

/-!
# Writing JSON

A value is written as JSON on one line or with every member and item on a line of its own. Quotation
marks, backslashes, control characters and halves of characters are escaped, all other characters
are written as they are. A day or a time is written as a string.
-/

namespace BuildAudit.Json

/-- How a text is laid out. -/
inductive Layout where
  /-- On one line. -/
  | line
  /-- One member or item on a line, two blanks deeper than the line around it. -/
  | indented
deriving DecidableEq, Repr

/-- What stands before a member, an item or a closing bracket at a depth. -/
def Layout.lineBreak (layout : Layout) (depth : Nat) : String :=
  match layout with
  | .line => ""
  | .indented => String.ofList ('\n' :: List.replicate (2 * depth) ' ')

/-- A character of a string. -/
def writeChar (c : Char) : List Char :=
  if c = '"' || c = '\\' then ['\\', c]
  else if c = '\n' then ['\\', 'n']
  else if c = '\r' then ['\\', 'r']
  else if c = '\t' then ['\\', 't']
  else if c = '\x08' then ['\\', 'b']
  else if c = '\x0c' then ['\\', 'f']
  else if c.toNat < 0x20 then '\\' :: 'u' :: Text.hexDigits 4 c.toNat
  else [c]

/-- A code point of a string. -/
def writePoint : CodePoint → List Char
  | .char c => writeChar c
  | .half index => '\\' :: 'u' :: Text.hexDigits 4 (0xD800 + index.val)

/-- A string. -/
def writeString (text : CodeText) : String :=
  String.ofList ('"' :: (text.points.flatMap writePoint ++ ['"']))

/-- A binary fraction. -/
def writeFloat (value : Float) : String :=
  if value.isNaN then "NaN"
  else if value.isInf then (if value < 0 then "-Infinity" else "Infinity")
  else Decimal.floatText value

/-- Parts between brackets. -/
def writeParts (layout : Layout) (depth : Nat) (opening closing : String) (parts : List String) :
    String :=
  if parts.isEmpty then opening ++ closing
  else
    opening ++ layout.lineBreak (depth + 1) ++
      ("," ++ layout.lineBreak (depth + 1)).intercalate parts ++ layout.lineBreak depth ++ closing

mutual

/-- A value at a depth. -/
def writeAt (layout : Layout) (depth : Nat) : JsonValue → String
  | .null => "null"
  | .bool true => "true"
  | .bool false => "false"
  | .int value => toString value
  | .float value => writeFloat value
  | .string text => writeString text
  | .date value => writeString value.text
  | .time value => writeString value.text
  | .dateTime value => writeString value.text
  | .list items => writeParts layout depth "[" "]" (writeItems layout (depth + 1) items)
  | .table entries =>
    writeParts layout depth "\x7b" "\x7d" (writeMembers layout (depth + 1) entries)
termination_by structural value => value

/-- The items of a list. -/
def writeItems (layout : Layout) (depth : Nat) : List JsonValue → List String
  | [] => []
  | value :: rest => writeAt layout depth value :: writeItems layout depth rest
termination_by structural items => items

/-- A member of a table. -/
def writeMember (layout : Layout) (depth : Nat) : CodeText × JsonValue → String
  | (key, value) => writeString key ++ ": " ++ writeAt layout depth value
termination_by structural entry => entry

/-- The members of a table. -/
def writeMembers (layout : Layout) (depth : Nat) : List (CodeText × JsonValue) → List String
  | [] => []
  | entry :: rest => writeMember layout depth entry :: writeMembers layout depth rest
termination_by structural entries => entries

end

/-- The JSON text of a value. -/
def write (layout : Layout) (value : JsonValue) : String :=
  writeAt layout 0 value

end BuildAudit.Json
