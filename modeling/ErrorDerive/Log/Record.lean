import ErrorDerive.Breakdown
import ErrorDerive.Value

/-!
# Log records

A record is a message with the name of the logger that sends it and a level: the higher, the more
urgent. A layout writes a record as a line; the time, the day and the line number in it come from
outside.
-/

namespace ErrorDerive

/-- How urgent a record is. -/
abbrev LogLevel := Int

namespace LogLevel

def critical : LogLevel := 50
def error : LogLevel := 40
def warning : LogLevel := 30
def info : LogLevel := 20
def debug : LogLevel := 10
def notSet : LogLevel := 0

/-- The levels that have a name. The first name of a level is the one that it is shown by. -/
def named : List (String × LogLevel) :=
  [("CRITICAL", critical), ("FATAL", critical), ("ERROR", error), ("WARNING", warning),
    ("WARN", warning), ("INFO", info), ("DEBUG", debug), ("NOTSET", notSet)]

/-- The name that a level is shown by. -/
def shown (level : LogLevel) : String :=
  match named.find? fun entry => entry.2 == level with
  | some entry => entry.1
  | none => "Level " ++ toString level

/-- The capital of a letter that is the capital of an ASCII letter. Two letters beyond ASCII have
one: the dotless i and the long s. -/
def capital (letter : Char) : Char :=
  if letter = 'ı' then 'I' else if letter = 'ſ' then 'S' else letter.toUpper

/-- The level that a text names, whatever the case of its letters. -/
def ofName? (name : String) : Option LogLevel :=
  named.lookup (String.ofList (name.toList.map capital))

/-- The level that a value chooses: a warning where it is hollow or names none. -/
def ofChoice (choice : Value) : Except Breakdown LogLevel :=
  if choice.isHollow then .ok warning
  else match choice with
    | .text name => .ok ((ofName? name).getD warning)
    | _ => .error .levelNotText

end LogLevel

/-- A message on its way. There is none if what was to be put into it does not fit. -/
structure LogRecord where
  logger : String
  level : LogLevel
  message : Option String
  deriving DecidableEq, Repr, Inhabited

/-- What is known about the moment of a record: the time, the day, and a line number, as texts. -/
structure Clock where
  time : String := ""
  day : String := ""
  line : String := ""
  deriving DecidableEq, Repr, Inhabited

/-- How a record is written as a line. -/
inductive LogLayout where
  /-- The message alone. -/
  | bare
  /-- The time and the logger before the message. -/
  | timed
  /-- The time, the level, the logger and the line number before the message. -/
  | detailed
  /-- Like `detailed`, with the day before the time. -/
  | dated
  deriving DecidableEq, Repr, Inhabited

namespace LogLayout

/-- A text with blanks after it up to a width. -/
def leftAligned (width : Nat) (text : String) : String :=
  text ++ String.ofList (List.replicate (width - text.length) ' ')

/-- What stands in front of the message of a record. -/
def heading (clock : Clock) (record : LogRecord) : LogLayout → String
  | bare => ""
  | timed => clock.time ++ " [" ++ record.logger ++ "] "
  | detailed => clock.time ++ " " ++ origin
  | dated => clock.day ++ " " ++ clock.time ++ " " ++ origin
where
  /-- The level, the logger and the line number of the record. -/
  origin : String :=
    leftAligned 5 record.level.shown ++ " " ++ record.logger ++ ":" ++ clock.line ++ " — "

/-- The line of a record, if it has a message. -/
def line? (clock : Clock) (record : LogRecord) (layout : LogLayout) : Option String :=
  record.message.map (layout.heading clock record ++ ·)

/-- The layout on the error output when records from a level on are shown there. -/
def ofLevel (level : LogLevel) : LogLayout :=
  if level ≤ LogLevel.debug then detailed else if level ≤ LogLevel.info then timed else bare

end LogLayout

end ErrorDerive
