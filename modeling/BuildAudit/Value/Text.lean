import BuildAudit.Decimal.FloatText
import BuildAudit.Text.Integer
import BuildAudit.Text.Quoted
import BuildAudit.Value.Basic

/-!
# The text of a value

A value stands in a message in one of two forms. Its quoted form shows texts in quotation marks and
is used inside lists and tables; its plain form is the same except that a text or a date on its own
is shown as it is. A value that holds a whole number with too many digits has neither form.

How deeply lists and tables are nested does not matter here. That the form of a value with about a
thousand levels may go beyond a limit on recursion is left out.
-/

namespace BuildAudit.Value

mutual

/-- The form of a value inside a list or a table of a message. -/
def quoted : Value → String
  | .null => "None"
  | .bool true => "True"
  | .bool false => "False"
  | .int value => toString value
  | .float value => Decimal.floatText value
  | .string text => Text.quoted text
  | .date value => value.quoted
  | .time value => value.quoted
  | .dateTime value => value.quoted
  | .list items => "[" ++ ", ".intercalate (quotedItems items) ++ "]"
  | .table entries => "\x7b" ++ ", ".intercalate (quotedEntries entries) ++ "\x7d"
termination_by structural value => value

/-- The forms of the items of a list. -/
def quotedItems : List Value → List String
  | [] => []
  | value :: rest => quoted value :: quotedItems rest
termination_by structural items => items

/-- The form of an entry of a table. -/
def quotedEntry : String × Value → String
  | (key, value) => Text.quoted key ++ ": " ++ quoted value
termination_by structural entry => entry

/-- The forms of the entries of a table. -/
def quotedEntries : List (String × Value) → List String
  | [] => []
  | entry :: rest => quotedEntry entry :: quotedEntries rest
termination_by structural entries => entries

end

mutual

/-- Whether a value holds a whole number with too many digits to be written. A limit on nesting is
left out. -/
def isUnwritable : Value → Bool
  | .int value => Text.isTooLong value
  | .list items => hasUnwritableItem items
  | .table entries => hasUnwritableEntry entries
  | _ => false
termination_by structural value => value

/-- Whether an item of a list cannot be written. -/
def hasUnwritableItem : List Value → Bool
  | [] => false
  | value :: rest => isUnwritable value || hasUnwritableItem rest
termination_by structural items => items

/-- Whether the value of an entry cannot be written. -/
def isUnwritableEntry : String × Value → Bool
  | (_, value) => isUnwritable value
termination_by structural entry => entry

/-- Whether the value of an entry of a table cannot be written. -/
def hasUnwritableEntry : List (String × Value) → Bool
  | [] => false
  | entry :: rest => isUnwritableEntry entry || hasUnwritableEntry rest
termination_by structural entries => entries

end

/-- The form of a value that stands by itself in a message, however deeply it is nested. -/
def text : Value → String
  | .string text => text
  | .date value => value.text
  | .time value => value.text
  | .dateTime value => value.text
  | value => value.quoted

end BuildAudit.Value
