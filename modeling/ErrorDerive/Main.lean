import ErrorDerive.CommandLine.Program
import Std.Time.Date.PlainDate
import Std.Time.DateTime.Timestamp

/-!
# The command

The command on a real file system. What a run may look at is read into a tree before the run, and
what the run has changed is written back after it.
-/

namespace ErrorDerive

/-- The paths that a command line names. -/
def namedPaths (arguments : List String) : List String :=
  match globalGrammar.read {} arguments with
  | .error _ => []
  | .ok (options, positional) =>
    options.config.toList ++
      match generateGrammar.read {} (positional.drop 1) with
      | .error _ => []
      | .ok (choice, declarations) => choice.output.toList ++ declarations

/-- A text as the machine around the program knows it. -/
def machineText (text : String) : String :=
  String.ofList ((Text.letters? (Text.spelled text)).getD [])

/-- A text of the machine around the program. -/
def ofMachineText (text : String) : String :=
  Text.ofLetters text.toList

/-- A file that cannot be read. -/
def unreadableFile (reason : IO.Error) : File :=
  let text := ofMachineText (toString reason)
  match reason with
  | .permissionDenied .. => { content := [], access := .forbidden text }
  | _ => { content := [], access := .refused text }

/-- What stands at a location. Only in a folder that may be searched does it stand itself. -/
def entryOnDisk (location : Location) : IO (Option Entry) := do
  let path := machineText (pathOf location).text
  try
    let place ← IO.FS.realPath path
    if ← place.isDir then return some (if ← (place / ".").isDir then .emptyFolder else .closed)
    else
      match ← (IO.FS.readBinFile path).toBaseIO with
      | .ok bytes => return some (.file { content := bytes.toList })
      | .error reason => return some (.file (unreadableFile reason))
  catch _ => return none

/-- A tree with everything that stands on the way along a row of names. -/
def addWay (tree : Tree) (names : List String) : IO Tree := do
  let mut tree := tree
  let mut location : Location := []
  for name in names do
    location := settle (location ++ [name])
    if (tree.find? location).isNone then
      if let some entry ← entryOnDisk location then tree := tree.put location entry
  return tree

/-- The part of the file system that a run may look at. -/
def workplaceOnDisk (environment : Environment) (arguments : List String) : IO Workplace := do
  let folder := (Path.ofText (ofMachineText (← IO.currentDir).toString)).parts
  let settingsFiles := (ancestors folder).map fun above => above ++ [settingsFileName]
  let logFiles := (environment.lookup "AUTOERROR_LOG_FILE").toList
  let named := (namedPaths arguments ++ logFiles).map fun path => namesFrom folder (.ofText path)
  let tree ← (settingsFiles ++ named).foldlM addWay {}
  return { tree, folder }

/-- Writes back what differs between two trees. -/
def writeBack (before after : Tree) : IO Unit := do
  for (location, entry) in after.all do
    let path := machineText (pathOf location).text
    match entry with
    | .folder _ => if (before.find? location).isNone then IO.FS.createDirAll path
    | .closed => pure ()
    | .file file =>
      if before.file? location ≠ some file then
        IO.FS.writeBinFile path ⟨file.content.toArray⟩

/-- The variables of the environment that the program looks at. -/
def readEnvironment : IO Environment := do
  let names := ["AUTOERROR_LOG_LEVEL", "AUTOERROR_LOG_FILE", "AUTOERROR_LOG_FILE_LEVEL"]
  let found ← names.mapM fun name => return (name, ← IO.getEnv name)
  return found.filterMap fun (name, content?) =>
    content?.map fun content => (name, ofMachineText content)

/-- The time and the day, in universal time. -/
def readClock : IO Clock := do
  let seconds := (← Std.Time.Timestamp.now).toSecondsSinceUnixEpoch.val
  let day := Std.Time.PlainDate.ofEpochDay ⟨seconds / 86400⟩
  let rest := (seconds % 86400).toNat
  let time := [rest / 3600, rest / 60 % 60, rest % 60].map (padded 2)
  let date : Date := ⟨day.year.toInt.toNat, day.month.val.toNat, day.day.val.toNat⟩
  return { time := String.intercalate ":" time, day := date.toText, line := "0" }

/-- Tells why a run ended early. -/
def reportEarlyEnd : EarlyEnd → IO Unit
  | .misused fault => do
    for line in usageLines do IO.eprintln line
    IO.eprintln ("Error: " ++ machineText fault.message)
  | .brokenDown cause => IO.eprintln ("Error: " ++ cause.message)

end ErrorDerive

open ErrorDerive in
def main (arguments : List String) : IO UInt32 := do
  let environment ← readEnvironment
  let arguments := arguments.map ofMachineText
  let workplace ← workplaceOnDisk environment arguments
  let (left, ending) := Session.run { workplace, clock := ← readClock } environment arguments
  IO.print (machineText left.output)
  IO.eprint (machineText left.errorOutput)
  writeBack workplace.tree left.workplace.tree
  if let some early := ending.early then reportEarlyEnd early
  return ending.status.toUInt32
