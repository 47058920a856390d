import ErrorDerive.CommandLine.Commands
import ErrorDerive.Session.LogSetup

/-!
# The program

A run of the program from its arguments to its status. Options before the command are read first;
then logging is set up; then the options of the command are read and the command runs.

* `Session.run` is the session that a run leaves, with the way in which it ended.
-/

namespace ErrorDerive

/-- The name and version that the program gives of itself. -/
def versionLine : String := "autoerror, version 0.1.0"

/-- How the program is called. -/
def usageLines : List String :=
  ["Usage: autoerror [OPTIONS] COMMAND [ARGS]...", "", "Commands:",
    "  generate DECLARATION", "  resolve DECLARATION", "  config check", "  config show"]

/-- Variables of the environment, by name. -/
abbrev Environment := List (String × String)

namespace Run

/-- Ends the run because the command line is not understood. -/
def misuse {α : Type} (fault : UsageFault) : Run α :=
  throw (.misused fault)

/-- Ends the run where the command line is not understood. -/
def orMisuse {α : Type} : Except UsageFault α → Run α
  | .ok result => pure result
  | .error fault => misuse fault

/-- Ends the run at a path that no file can have. -/
def requirePossible (path : String) : Run Unit :=
  match namesFault? [path] with
  | some fault => throw (.brokenDown fault)
  | none => pure ()

/-- Ends the run at arguments that are left over. -/
def requireNoMore : List String → Run Unit
  | [] => pure ()
  | argument :: _ => misuse (.extraArgument argument)

def answer : Question → Run Nat
  | .version => do
    printLine versionLine
    return 0
  | .help => do
    printLines usageLines
    return 0

/-- What keeps a path from naming a declaration file, if anything does: a folder or a file that may
not be read. Nothing is looked for under an empty path. -/
def declarationFault? (place : Workplace) (text : String) : Option UsageFault :=
  if text = "" then none
  else match place.status (Path.ofText text) with
    | .ok (some (.file file)) =>
        if file.isForbidden then some (.unreadableDeclaration text) else none
    | .ok (some _) => some (.folderAsDeclaration text)
    | _ => none

/-- The declaration file that positional arguments name. -/
def declarationOf : List String → Run Path
  | [] => misuse .missingDeclaration
  | text :: more => do
    requirePossible text
    match declarationFault? (← workplace) text with
    | some fault => misuse fault
    | none =>
      requireNoMore more
      return Path.ofText text

/-- The file of settings that the options name, if they name one. -/
def settingsPathOf (options : GlobalOptions) : Option Path :=
  options.config.bind fun text => if text = "" then none else some (Path.ofText text)

/-- What the options and the environment ask of logging. -/
def logChoiceOf (options : GlobalOptions) (environment : Environment) : LogChoice :=
  let choice (name : String) : Value := ((environment.lookup name).map Value.text).getD .null
  { level :=
      if options.debug then .text "DEBUG"
      else if options.verbose then .text "INFO"
      else if options.quiet then .text "ERROR"
      else .text ((environment.lookup "AUTOERROR_LOG_LEVEL").getD "WARNING")
    file := choice "AUTOERROR_LOG_FILE"
    fileLevel := choice "AUTOERROR_LOG_FILE_LEVEL" }

def runGenerate (options : GlobalOptions) (arguments : List String) : Run Nat := do
  let (choice, positional) ← orMisuse (generateGrammar.read {} arguments)
  if choice.help then answer .help
  else
    let declaration ← declarationOf positional
    generateCommand (settingsPathOf options) options.quiet choice declaration

def runResolve (options : GlobalOptions) (arguments : List String) : Run Nat := do
  let (choice, positional) ← orMisuse (showGrammar.read {} arguments)
  if choice.help then answer .help
  else
    let declaration ← declarationOf positional
    resolveCommand (settingsPathOf options) choice declaration

def runShow (command : ShowOptions → Run Nat) (arguments : List String) : Run Nat := do
  let (choice, positional) ← orMisuse (showGrammar.read {} arguments)
  if choice.help then answer .help
  else
    requireNoMore positional
    command choice

/-- Ends the run at an unknown command of the group about settings. One that looks like an option
is read as one first. -/
def unknownInGroup (name : String) (rest : List String) : Run Nat := do
  if OptionGrammar.isOption name then
    let (help, _) ← orMisuse (groupGrammar.read false (name :: rest))
    if help then return ← answer .help
  misuse (.unknownCommand name)

def runGroup (options : GlobalOptions) (arguments : List String) : Run Nat := do
  let (help, positional) ← orMisuse (groupGrammar.read false arguments)
  if help then answer .help
  else match positional with
    | [] => misuse .missingCommand
    | "check" :: rest => runShow (checkCommand (settingsPathOf options)) rest
    | "show" :: rest => runShow (showCommand (settingsPathOf options)) rest
    | name :: rest => unknownInGroup name rest

def command? : String → Option (GlobalOptions → List String → Run Nat)
  | "generate" => some runGenerate
  | "resolve" => some runResolve
  | "config" => some runGroup
  | _ => none

/-- Reads the options before a command and does what they ask for at once: a question is answered,
which ends the run, and a path that no file can have ends it as well. -/
def readGlobal (arguments : List String) : Run (Option Question × GlobalOptions × List String) := do
  let (options, positional) ← orMisuse (globalGrammar.read {} arguments)
  if options.question.isNone then options.config.forM requirePossible
  return (options.question, options, positional)

/-- Ends the run at an unknown command. One that looks like an option is read as one first. -/
def unknownCommand (name : String) (rest : List String) : Run Nat := do
  if OptionGrammar.isOption name then
    let (question?, _, _) ← readGlobal (name :: rest)
    if let some question := question? then return ← answer question
  misuse (.unknownCommand name)

def program (environment : Environment) (arguments : List String) : Run Nat := do
  let (question?, options, positional) ← readGlobal arguments
  match question?, positional with
  | some question, _ => answer question
  | none, [] => misuse .missingCommand
  | none, name :: rest =>
    match command? name with
    | none => unknownCommand name rest
    | some command =>
      setUpLogging (logChoiceOf options environment)
      command options rest

end Run

/-- How a run ended: its status, and why it ended early if it did. -/
structure Ending where
  status : Nat
  early : Option EarlyEnd := none
  deriving DecidableEq, Repr, Inhabited

/-- The status of a run that ended early: two where the command line was not understood, and one
otherwise. -/
def EarlyEnd.status : EarlyEnd → Nat
  | misused _ => 2
  | brokenDown _ => 1

def Session.run (session : Session) (environment : Environment) (arguments : List String) :
    Session × Ending :=
  match Run.program environment arguments session with
  | .ok status left => (left, { status })
  | .error early left => (left, { status := early.status, early := some early })

end ErrorDerive
