import BuildAudit.Text.CodeText

/-!
# Log records

What a build tells about its progress: a level and a text.
-/

namespace BuildAudit

/-- How much a record matters. -/
inductive Level where
  /-- Of interest when looking for a fault. -/
  | debug
  /-- Progress. -/
  | info
  /-- Something was left out. -/
  | warning
  /-- Something failed. -/
  | error
deriving DecidableEq, Repr

namespace Level

/-- The name of a level. -/
def name : Level → String
  | .debug => "DEBUG"
  | .info => "INFO"
  | .warning => "WARNING"
  | .error => "ERROR"

/-- The number that levels are compared by. -/
def rank : Level → Nat
  | .debug => 10
  | .info => 20
  | .warning => 30
  | .error => 40

/-- Whether records of a level are let through by a threshold. -/
def passes (threshold level : Level) : Bool :=
  threshold.rank ≤ level.rank

end Level

/-- A record of a log. -/
structure LogRecord where
  /-- How much the record matters. -/
  level : Level
  /-- What it says. -/
  text : CodeText
deriving DecidableEq, Repr

/-- The record as a line: the name of its level and its text. -/
def LogRecord.line (record : LogRecord) : CodeText :=
  record.level.name ++ ": " ++ record.text

end BuildAudit
