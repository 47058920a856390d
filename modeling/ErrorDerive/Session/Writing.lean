import ErrorDerive.Session.Basic
import ErrorDerive.Writing

/-!
# Writing in a session

Writing an output file leaves a record of the file, and one before it when what stood in its place
could not be read.
-/

namespace ErrorDerive

/-- A record of the logger that watches writing. -/
def writingRecord (level : LogLevel) (message : String) : LogRecord :=
  ⟨"autoerror.core.services.generate_ops", level, message⟩

/-- Whether a file would replace something that cannot be read. -/
def OutputFile.replacesUnreadable (workplace : Workplace) (file : OutputFile) : Bool :=
  match file.obstacle? workplace, file.previousText? workplace with
  | .ok none, .ok none => true
  | _, _ => false

/-- Writes a file unless something stands in its way. -/
def Run.write (file : OutputFile) : Run WriteReport := do
  let target := (file.target (← workplace).folder).text
  if file.replacesUnreadable (← workplace) then
    log (writingRecord LogLevel.debug ("Could not read previous content of " ++ target))
  let (tree, outcome) := file.write (← workplace)
  setTree tree
  let report ← orBreakdown outcome
  if report.obstacle?.isNone then
    log (writingRecord LogLevel.info ("Wrote generated file: " ++ target))
  return report

end ErrorDerive
