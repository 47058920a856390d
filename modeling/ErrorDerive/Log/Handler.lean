import ErrorDerive.Files.Tree
import ErrorDerive.Log.Record

/-!
# Log handlers

A handler accepts the records from its level on and writes them to one destination. Logging as a
whole has a level of its own, which a record must pass before any handler sees it.

* `Logging.deliveries` is the list of lines that a record leaves, each with its destination.
-/

namespace ErrorDerive

/-- Where lines go. -/
inductive LogDestination where
  | errorOutput
  /-- An error output that another one has taken the place of. Nobody reads it any more. -/
  | earlierErrorOutput
  | file (location : Location)
  deriving DecidableEq, Repr, Inhabited

/-- A handler of records. -/
structure LogHandler where
  destination : LogDestination
  level : LogLevel
  layout : LogLayout
  deriving DecidableEq, Repr, Inhabited

/-- The handlers in use, and the level that a record must reach to be seen by any of them. -/
structure Logging where
  handlers : List LogHandler := []
  level : LogLevel := LogLevel.warning
  deriving DecidableEq, Repr, Inhabited

/-- The handler that shows records from a level on. -/
def LogHandler.console (level : LogLevel) : LogHandler where
  destination := .errorOutput
  level := level
  layout := .ofLevel level

/-- The handler that adds records from a level on to a file. -/
def LogHandler.toFile (location : Location) (level : LogLevel) : LogHandler where
  destination := .file location
  level := level
  layout := .dated

/-- The handler that stands in where there is none: it shows warnings and what is worse. -/
def LogHandler.standIn : LogHandler where
  destination := .errorOutput
  level := LogLevel.warning
  layout := .bare

/-- The handler once another error output has taken the place of the present one. It keeps to the
one that it was made for. -/
def LogHandler.outliveErrorOutput (handler : LogHandler) : LogHandler :=
  match handler.destination with
  | .errorOutput => { handler with destination := .earlierErrorOutput }
  | _ => handler

namespace Logging

/-- The same logging once another error output has taken the place of the present one. -/
def outliveErrorOutput (logging : Logging) : Logging :=
  { logging with handlers := logging.handlers.map LogHandler.outliveErrorOutput }

/-- The handlers that may see a record, once it has passed the level of the whole. -/
def audience (logging : Logging) : List LogHandler :=
  if logging.handlers.isEmpty then [.standIn] else logging.handlers

/-- Whether a record passes the level of the whole. A record must have a positive level. -/
def admits (logging : Logging) (record : LogRecord) : Bool :=
  0 < record.level && logging.level ≤ record.level

/-- The lines that a record leaves, in order, each with its destination. A handler that cannot make
a line of it drops it. -/
def deliveries (logging : Logging) (clock : Clock) (record : LogRecord) :
    List (LogDestination × String) :=
  if logging.admits record then
    (logging.audience.filter fun handler => handler.level ≤ record.level).filterMap fun handler =>
      (handler.layout.line? clock record).map fun line => (handler.destination, line)
  else []

end Logging

end ErrorDerive
