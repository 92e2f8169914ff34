import BuildAudit.Table
import BuildAudit.Text.CodeText
import BuildAudit.Value.Calendar

/-!
# Values of documents

The values that configuration documents, import graphs and reports are made of. A table keeps its
entries in order; whole numbers have any size and are told apart from binary fractions. Texts are
strings in documents, and texts of code points in what is read from JSON and written as JSON.
-/

namespace BuildAudit

/-- A value of a configuration document, or of a graph in text form, with texts of a type `τ`. -/
inductive Value (τ : Type := String) where
  /-- The absent value. -/
  | null
  /-- A truth value. -/
  | bool (value : Bool)
  /-- A whole number. -/
  | int (value : Int)
  /-- A binary fraction. -/
  | float (value : Float)
  /-- A text. -/
  | string (value : τ)
  /-- A day. -/
  | date (value : Date)
  /-- A time of day. -/
  | time (value : TimeOfDay)
  /-- A day with a time. -/
  | dateTime (value : DateTime)
  /-- Values in order. -/
  | list (items : List (Value τ))
  /-- Values under keys, in order. -/
  | table (entries : List (τ × Value τ))
deriving Inhabited

/-- A value that is read from JSON or written as JSON. -/
abbrev JsonValue := Value CodeText

/-- The members of a JSON object. -/
abbrev JsonObject := Table JsonValue CodeText

namespace Value

variable {τ : Type}

/-- The entries of a table. -/
def asTable? : Value τ → Option (Table (Value τ) τ)
  | .table entries => some entries
  | _ => none

/-- The items of a list. -/
def asList? : Value τ → Option (List (Value τ))
  | .list items => some items
  | _ => none

/-- The characters of a text. -/
def asString? : Value τ → Option τ
  | .string text => some text
  | _ => none

/-- The items of a list of texts. -/
def asStrings? : Value τ → Option (List τ)
  | .list items => items.mapM asString?
  | _ => none

/-- Whether a value counts as switched on: everything but the absent value, the false one, zero, and
an empty text, list or table. -/
def isOn : Value → Bool
  | .null => false
  | .bool value => value
  | .int value => value != 0
  | .float value => value != 0
  | .string text => !text.isEmpty
  | .list items => !items.isEmpty
  | .table entries => !entries.isEmpty
  | .date _ | .time _ | .dateTime _ => true

/-- The name of a value's kind in a message. -/
def kindName : Value τ → String
  | .null => "NoneType"
  | .bool _ => "bool"
  | .int _ => "int"
  | .float _ => "float"
  | .string _ => "str"
  | .date _ => "datetime.date"
  | .time _ => "datetime.time"
  | .dateTime _ => "datetime.datetime"
  | .list _ => "list"
  | .table _ => "dict"

mutual

/-- The value with every text changed. -/
def mapText {σ : Type} (change : τ → σ) : Value τ → Value σ
  | .null => .null
  | .bool value => .bool value
  | .int value => .int value
  | .float value => .float value
  | .string text => .string (change text)
  | .date value => .date value
  | .time value => .time value
  | .dateTime value => .dateTime value
  | .list items => .list (mapTextItems change items)
  | .table entries => .table (mapTextEntries change entries)
termination_by structural value => value

/-- The items of a list with every text changed. -/
def mapTextItems {σ : Type} (change : τ → σ) : List (Value τ) → List (Value σ)
  | [] => []
  | value :: rest => mapText change value :: mapTextItems change rest
termination_by structural items => items

/-- An entry of a table with every text changed. -/
def mapTextEntry {σ : Type} (change : τ → σ) : τ × Value τ → σ × Value σ
  | (key, value) => (change key, mapText change value)
termination_by structural entry => entry

/-- The entries of a table with every text changed. -/
def mapTextEntries {σ : Type} (change : τ → σ) : List (τ × Value τ) → List (σ × Value σ)
  | [] => []
  | entry :: rest => mapTextEntry change entry :: mapTextEntries change rest
termination_by structural entries => entries

end

end Value

end BuildAudit
