import BuildAudit.Log

/-!
# Logging levels and loggers

The program logs under a logger of its own and under children of it, whose names start with its name
and a dot. Two switches decide which records are let through, and being quiet wins.
-/

namespace BuildAudit

/-- The name of the program's logger. -/
def rootLogger : String := "pedant"

/-- The least level that is let through. -/
def logThreshold (verbose quiet : Bool) : Level :=
  if quiet then .error else if verbose then .debug else .info

/-- The full name of a logger. A name that starts with the program's logger's name is taken as it
is; any other name is taken as the name of a child. -/
def loggerName : Option String → String
  | none => rootLogger
  | some name =>
    if rootLogger.toList.isPrefixOf name.toList then name else rootLogger ++ "." ++ name

/-- Whether a logger is the program's logger or a descendant of it. -/
def isProgramLogger (name : String) : Bool :=
  name == rootLogger || (rootLogger ++ ".").toList.isPrefixOf name.toList

/-- The records that a threshold lets through. -/
def passing (threshold : Level) (records : List LogRecord) : List LogRecord :=
  records.filter fun record => threshold.passes record.level

/-- The line of a record in a log file, after its time. -/
def LogRecord.fileLine (record : LogRecord) (logger : String) : CodeText :=
  s!"{logger} - {record.level.name} - " ++ record.text

end BuildAudit
