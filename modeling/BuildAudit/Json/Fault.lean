/-!
# Faults in JSON text

A fault says what was wrong and how many characters were left when it was noticed; its place in the
text follows from the text's length. Lines end at line feeds, columns count characters from one. A
text that goes beyond what can be read is refused without a place.
-/

namespace BuildAudit.Json

/-- What is wrong with a text that is not JSON. -/
inductive Cause where
  /-- A value is missing. -/
  | expectedValue
  /-- The name of a member is missing. -/
  | expectedName
  /-- The colon after a name is missing. -/
  | expectedColon
  /-- The comma between two members or items is missing. -/
  | expectedComma
  /-- Something follows the value. -/
  | extraData
  /-- A string has no closing quotation mark. -/
  | unterminated
  /-- A string holds a bare control character. -/
  | controlCharacter
  /-- A backslash is followed by a letter that names no escape. -/
  | invalidEscape
  /-- An escape by code lacks one of its four digits. -/
  | invalidCode
  /-- The text starts with a byte order mark. -/
  | byteOrderMark
deriving DecidableEq

/-- The wording of a cause. -/
def Cause.message : Cause → String
  | .expectedValue => "Expecting value"
  | .expectedName => "Expecting property name enclosed in double quotes"
  | .expectedColon => "Expecting ':' delimiter"
  | .expectedComma => "Expecting ',' delimiter"
  | .extraData => "Extra data"
  | .unterminated => "Unterminated string starting at"
  | .controlCharacter => "Invalid control character at"
  | .invalidEscape => "Invalid \\escape"
  | .invalidCode => "Invalid \\uXXXX escape"
  | .byteOrderMark => "Unexpected UTF-8 BOM (decode using utf-8-sig)"

/-- A cause with the number of characters from the fault to the end of the text. -/
structure Fault where
  /-- What is wrong. -/
  cause : Cause
  /-- The number of characters from the place of the fault to the end. -/
  remaining : Nat
deriving DecidableEq

/-- What a text has too much of to be read. -/
inductive Excess where
  /-- A whole number has too many digits; their count. -/
  | digits (count : Nat)
  /-- Lists and tables are nested too deeply. -/
  | nesting
deriving DecidableEq

/-- Why a text is not read. -/
inductive Refusal where
  /-- It is not JSON. -/
  | fault (fault : Fault)
  /-- It goes beyond what can be read. -/
  | excess (excess : Excess)
deriving DecidableEq

/-- A fault at the start of what is left of a text. -/
def Fault.at (cause : Cause) (rest : List Char) : Fault where
  cause := cause
  remaining := rest.length

/-- The refusal of a text for what is wrong at the start of what is left of it. -/
def Refusal.at (cause : Cause) (rest : List Char) : Refusal :=
  .fault (.at cause rest)

/-- The message of a fault in a text, with its line, its column and its distance from the start. -/
def Fault.message (fault : Fault) (text : String) : String :=
  let cs := text.toList
  let position := cs.length - fault.remaining
  let before := cs.take position
  let line := before.count '\n' + 1
  let column := (before.reverse.takeWhile (· ≠ '\n')).length + 1
  s!"{fault.cause.message}: line {line} column {column} (char {position})"

end BuildAudit.Json
