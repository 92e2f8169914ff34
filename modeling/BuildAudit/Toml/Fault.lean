import BuildAudit.Text.Integer

/-!
# Faults in TOML documents

A fault says what was wrong and how many characters were left when it was noticed; its place in the
document follows from the document's length. Lines end at line feeds, columns count characters from
one. A document that goes beyond what can be read is refused without a place.
-/

namespace BuildAudit.Toml

/-- A path of table names from the root of a document. -/
abbrev Key := List String

/-- A key as it is told: the names, quoted, in parentheses, a single one with a comma. -/
def Key.text : Key → String
  | [name] => "(" ++ Text.quoted name ++ ",)"
  | key => "(" ++ ", ".intercalate (key.map Text.quoted) ++ ")"

/-- What is wrong with a text that is not a TOML document. -/
inductive Cause where
  /-- A line starts with a character that starts no statement. -/
  | invalidStatement
  /-- Something follows a statement on its line. -/
  | expectedLineEnd
  /-- A closing mark is missing. -/
  | expectedMark (mark : String)
  /-- A literal string or a comment holds a control character. -/
  | forbidden (c : Char)
  /-- A basic string holds a control character. -/
  | illegal (c : Char)
  /-- A header declares a table again. -/
  | declaredTwice (key : Key)
  /-- Something is added to a table or a list that is complete. -/
  | complete (key : Key)
  /-- A dotted key leads through a table that has a header. -/
  | redefined (key : Key)
  /-- A table or an entry is to be put where something stands. -/
  | overwritten
  /-- A table in braces has two entries of one name. -/
  | duplicateName (name : String)
  /-- The header of a table has no closing bracket. -/
  | expectedTableEnd
  /-- The header of an item has no closing brackets. -/
  | expectedItemEnd
  /-- The equals sign after a key is missing. -/
  | expectedEquals
  /-- A part of a key starts with a character that starts none. -/
  | invalidKey
  /-- A list has neither a comma nor a closing bracket after an item. -/
  | unclosedList
  /-- A table in braces has neither a comma nor a closing brace after an entry. -/
  | unclosedTable
  /-- A backslash is followed by nothing that it escapes. -/
  | strayBackslash
  /-- An escape by code lacks one of its digits. -/
  | invalidCode
  /-- An escape by code gives half of a pair, or goes beyond the last code point. -/
  | noScalar
  /-- A basic string has no closing mark. -/
  | unterminated
  /-- A date is not one of the calendar. -/
  | invalidDate
  /-- There is no value where one is needed. -/
  | invalidValue
deriving DecidableEq

/-- The wording of a cause. -/
def Cause.message : Cause → String
  | .invalidStatement => "Invalid statement"
  | .expectedLineEnd => "Expected newline or end of document after a statement"
  | .expectedMark mark => s!"Expected {Text.quoted mark}"
  | .forbidden c => s!"Found invalid character {Text.quoted (String.singleton c)}"
  | .illegal c => s!"Illegal character {Text.quoted (String.singleton c)}"
  | .declaredTwice key => s!"Cannot declare {key.text} twice"
  | .complete key => s!"Cannot mutate immutable namespace {key.text}"
  | .redefined key => s!"Cannot redefine namespace {key.text}"
  | .overwritten => "Cannot overwrite a value"
  | .duplicateName name => s!"Duplicate inline table key {Text.quoted name}"
  | .expectedTableEnd => "Expected ']' at the end of a table declaration"
  | .expectedItemEnd => "Expected ']]' at the end of an array declaration"
  | .expectedEquals => "Expected '=' after a key in a key/value pair"
  | .invalidKey => "Invalid initial character for a key part"
  | .unclosedList => "Unclosed array"
  | .unclosedTable => "Unclosed inline table"
  | .strayBackslash => "Unescaped '\\' in a string"
  | .invalidCode => "Invalid hex value"
  | .noScalar => "Escaped character is not a Unicode scalar value"
  | .unterminated => "Unterminated string"
  | .invalidDate => "Invalid date or datetime"
  | .invalidValue => "Invalid value"

/-- A cause with the number of characters from the fault to the end of the document. -/
structure Fault where
  /-- What is wrong. -/
  cause : Cause
  /-- The number of characters from the place of the fault to the end. -/
  remaining : Nat
deriving DecidableEq

/-- What a document has too much of to be read. -/
inductive Excess where
  /-- A whole number has too many digits; their count. -/
  | digits (count : Nat)
  /-- Lists and tables in braces are nested too deeply. -/
  | nesting
deriving DecidableEq

/-- The wording of an excess. -/
def Excess.message : Excess → String
  | .digits count => Text.tooLongMessage (some count)
  | .nesting => "maximum recursion depth exceeded"

/-- Why a document is not read. -/
inductive Refusal where
  /-- It is not TOML. -/
  | fault (fault : Fault)
  /-- It goes beyond what can be read. -/
  | excess (excess : Excess)
deriving DecidableEq

/-- The refusal of a document for what is wrong at the start of what is left of it. -/
def Refusal.at (cause : Cause) (rest : List Char) : Refusal :=
  .fault { cause, remaining := rest.length }

/-- A step that is refused for its cause at the start of what is left of a document. -/
def refuseAt {α : Type} (rest : List Char) : Except Cause α → Except Refusal α :=
  Except.mapError (Refusal.at · rest)

/-- Where a fault is in a document. -/
def Fault.place (fault : Fault) (document : List Char) : String :=
  if fault.remaining = 0 then "end of document"
  else
    let before := document.take (document.length - fault.remaining)
    let line := before.count '\n' + 1
    let column := (before.reverse.takeWhile (· ≠ '\n')).length + 1
    s!"line {line}, column {column}"

/-- The message about a document that is refused. -/
def Refusal.message (refusal : Refusal) (document : List Char) : String :=
  match refusal with
  | .fault found => s!"{found.cause.message} (at {found.place document})"
  | .excess found => found.message

end BuildAudit.Toml
