import ErrorDerive.Loading.Declarations
import ErrorDerive.Loading.Settings
import ErrorDerive.Report

/-!
# Generation reports

Generating the code for a whole declaration file: all of its types, or none and the reason.

* `generateAll` derives every type and stops at the first that fails;
* `Workplace.generateFrom` loads settings and declarations first and reports what came of it.
-/

namespace ErrorDerive

/-- Why a declaration file yields no code. -/
inductive ReportedFault where
  | config (fault : ConfigFault)
  | generation (typeName : String) (fault : Fault)
  deriving DecidableEq, Repr, Inhabited

def ReportedFault.message : ReportedFault → String
  | config fault => fault.message
  | generation typeName fault => typeName ++ ": " ++ fault.message

/-- The class of errors that a fault belongs to. -/
def ReportedFault.kind : ReportedFault → String
  | config _ => "ConfigError"
  | generation _ fault => fault.kind

/-- The report on a declaration file. Its parts are filled in one after the other, and a fault ends
this. -/
structure GenerationReport where
  declaration : Option Path := none
  results : List Generation := []
  generated : Option OutputFile := none
  error : Option String := none
  errorKind : Option String := none
  deriving DecidableEq, Repr, Inhabited

namespace GenerationReport

/-- Nothing failed if there is no error. -/
def isOk (report : GenerationReport) : Bool :=
  report.error.isNone

/-- The error of a report, where an empty text counts as none. -/
def spokenError? (report : GenerationReport) : Option String :=
  report.error.filter (· ≠ "")

/-- The report with a fault. -/
def failed (report : GenerationReport) (fault : ReportedFault) : GenerationReport :=
  { report with error := some fault.message, errorKind := some fault.kind }

/-- A report as members of a document. -/
def members (report : GenerationReport) : List (String × Json) :=
  match report.spokenError? with
  | some error =>
    [("ok", .bool false), ("error", .text error), ("kind", .optionalText report.errorKind)]
  | none =>
    [("ok", .bool true), ("declaration", .optionalText (report.declaration.map Path.text)),
      ("types", .list (report.results.map Generation.toTable)),
      ("file", (report.generated.map OutputFile.toJson).getD .null)]

/-- A report without the generated file, as members of a document. -/
def tableMembers (report : GenerationReport) : List (String × Json) :=
  report.members.filter fun member => member.1 ≠ "file"

end GenerationReport

/-- Derives every declared type, or names the first that fails. -/
def generateAll (settings : Settings) :
    List TypeDeclaration → Except ReportedFault (List Generation)
  | [] => .ok []
  | declaration :: rest =>
    match generate settings declaration with
    | .error fault => .error (.generation declaration.name fault)
    | .ok generation => do return generation :: (← generateAll settings rest)

/-- Where the code of a declaration file goes: where it is sent, or next to it under its own
name. -/
def outputPath (declaration : Path) (output? : Option String) : String :=
  match output? with
  | some path => if path = "" then declaration.stem ++ ".rs" else path
  | none => declaration.stem ++ ".rs"

/-- The report on a declaration file before anything is loaded. -/
def GenerationReport.begun (declaration : Path) : GenerationReport where
  declaration := some declaration

/-- The report on declarations that have been loaded. Nothing is filled in before all types are
derived. -/
def reportOn (declaration : Path) (output? : Option String) (overwrite : Bool)
    (settings : Settings) (declarations : List TypeDeclaration) : GenerationReport :=
  let report := GenerationReport.begun declaration
  match generateAll settings declarations with
  | .error fault => report.failed fault
  | .ok results =>
    { report with
      results
      generated := some (.ofGenerations (outputPath declaration output?) overwrite results) }

/-- A loading that failed, as a report or a breakdown. -/
def ofLoadFault (declaration : Path) : LoadFault → Except Breakdown GenerationReport
  | .reported fault => .ok ((GenerationReport.begun declaration).failed (.config fault))
  | .brokenDown cause => .error cause

/-- The report on a declaration file. -/
def Workplace.generateFrom (workplace : Workplace) (declaration : Path) (settings? : Option Path)
    (output? : Option String) (overwrite : Bool) : Except Breakdown GenerationReport :=
  match workplace.loadSettings settings? with
  | .error fault => ofLoadFault declaration fault
  | .ok settings =>
    match workplace.loadDeclarations declaration with
    | .error fault => ofLoadFault declaration fault
    | .ok declarations => .ok (reportOn declaration output? overwrite settings declarations)

end ErrorDerive
