import ErrorDerive.Loading.Settings
import ErrorDerive.Session.Basic

/-!
# Setting up logging

Records are shown on the error output from a level on, and may be added to a file as well, from
the same level on or another one. A new setup replaces the handlers of the one before.
-/

namespace ErrorDerive

/-- What a setup asks for: a level, a file, and a level for the file. A hollow value asks for
nothing. -/
structure LogChoice where
  level : Value := .text "WARNING"
  file : Value := .null
  fileLevel : Value := .null
  deriving Inhabited

/-- The location of a log file, which is made if nothing stands there. -/
def Workplace.openLog (workplace : Workplace) (file : Value) :
    Except Breakdown (Location × Tree) :=
  match file with
  | .text path => do
    let location := settle (namesFrom workplace.folder (Path.ofText path))
    if (namesFault? location).isNone && (pathOf location).isTooLong then refuse .nameTooLong
    else return (location, ← workplace.tree.appendFile location [])
  | _ => .error .pathNotText

namespace Run

/-- Uses the given handlers. -/
def setHandlers (handlers : List LogHandler) : Run Unit :=
  modify fun session => { session with logging := { session.logging with handlers } }

/-- Lets records pass from a level on. -/
def setLogLevel (level : LogLevel) : Run Unit :=
  modify fun session => { session with logging := { session.logging with level } }

/-- Sets up logging. The handler of the error output is in place before the log file is opened, and
the level of the whole is set last, so a file that cannot be opened leaves that level as it was. -/
def setUpLogging (choice : LogChoice) : Run Unit := do
  let level ← orBreakdown (LogLevel.ofChoice choice.level)
  setHandlers [.console level]
  if choice.file.isHollow then setLogLevel level
  else
    let fileLevel ←
      if choice.fileLevel.isHollow then pure level
      else orBreakdown (LogLevel.ofChoice choice.fileLevel)
    let (location, tree) ← orBreakdown ((← workplace).openLog choice.file)
    setTree tree
    setHandlers [.console level, .toFile location fileLevel]
    setLogLevel (min level fileLevel)

end Run

end ErrorDerive
