import ErrorDerive.CommandLine.UsageFault
import ErrorDerive.Loading.Mapping
import ErrorDerive.Log.Handler
import ErrorDerive.Text.Quoted

/-!
# Sessions

A session is all that a run of the program sees and leaves behind: the files, the folder it works
in, the logging that is set up, and what it has printed. A run changes a session step by step; what
it has done before it ends early stays done.
-/

namespace ErrorDerive

/-- The state of a run. -/
structure Session where
  workplace : Workplace
  logging : Logging := {}
  clock : Clock := {}
  output : String := ""
  errorOutput : String := ""
  deriving Inhabited

/-- Why a run ends early: the command line is not understood, or an input breaks the run down. -/
inductive EarlyEnd where
  | misused (fault : UsageFault)
  | brokenDown (cause : Breakdown)
  deriving DecidableEq, Repr, Inhabited

/-- A part of a run. -/
abbrev Run (α : Type) := EStateM EarlyEnd Session α

/-- Adds to the error output, which spells surrogates. -/
def Session.addErrorOutput (session : Session) (text : String) : Session :=
  { session with errorOutput := session.errorOutput ++ Text.spelled text }

/-- The session with an error output of its own, to which no handler writes yet. -/
def Session.renewErrorOutput (session : Session) : Session :=
  { session with errorOutput := "", logging := session.logging.outliveErrorOutput }

/-- Writes one line of the log where it goes. A file leaves out a line that cannot be encoded. -/
def Session.receive (session : Session) : LogDestination × String → Session
  | (.errorOutput, line) => session.addErrorOutput (line ++ "\n")
  | (.earlierErrorOutput, _) => session
  | (.file location, line) =>
    match Text.encode? (line ++ "\n") with
    | none => session
    | some bytes =>
      let tree := session.workplace.tree.extend location bytes
      { session with workplace := { session.workplace with tree } }

/-- Sends a record to the handlers. -/
def Session.log (session : Session) (record : LogRecord) : Session :=
  (session.logging.deliveries session.clock record).foldl receive session

namespace Run

def log (record : LogRecord) : Run Unit :=
  modify (·.log record)

def logAll (records : List LogRecord) : Run Unit :=
  modify fun session => records.foldl Session.log session

def workplace : Run Workplace :=
  return (← get).workplace

def setTree (tree : Tree) : Run Unit :=
  modify fun session => { session with workplace := { session.workplace with tree } }

/-- Ends the run at a breakdown. -/
def orBreakdown {α : Type} : Except Breakdown α → Run α
  | .ok result => pure result
  | .error cause => throw (.brokenDown cause)

/-- Ends the run at a breakdown, and gives a fault of a configuration as a result. -/
def orFault {α : Type} : Except LoadFault α → Run (Except ConfigFault α)
  | .ok result => pure (.ok result)
  | .error (.reported fault) => pure (.error fault)
  | .error (.brokenDown cause) => throw (.brokenDown cause)

end Run

end ErrorDerive
