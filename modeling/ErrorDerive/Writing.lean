import ErrorDerive.Json
import ErrorDerive.LineDiff
import ErrorDerive.Loading.Mapping
import ErrorDerive.OutputFile

/-!
# Writing output files

A file is written only when nothing stands in its way: it must have a path and a text, and a file
that is there already is replaced only on request. The report tells what has changed.

* `OutputFile.obstacle?` is what stands in the way, found before anything is changed;
* `OutputFile.write` writes the file, with the folders above it.
-/

namespace ErrorDerive

/-- The report on a file that was to be written. -/
inductive WriteReport where
  | incomplete (path : String)
  | alreadyThere (path : String)
  | written (path : String) (changed : Bool) (lines : Option LineCounts)
  deriving DecidableEq, Repr, Inhabited

namespace WriteReport

/-- The message of a report on a file that was not written. -/
def obstacle? : WriteReport → Option String
  | incomplete _ => some "Missing path or content"
  | alreadyThere path => some ("File already exists: " ++ path ++ " (use --overwrite to replace)")
  | written .. => none

/-- The members of a document for changed lines. -/
def lineMembers : Option LineCounts → List (String × Json)
  | some lines => [("lines_added", .int lines.added), ("lines_removed", .int lines.removed)]
  | none => []

def path : WriteReport → String
  | incomplete path | alreadyThere path | written path _ _ => path

def toJson (report : WriteReport) : Json :=
  match report with
  | written path changed lines =>
    .object ([("ok", .bool true), ("path", .text path), ("written", .bool true),
      ("changed", .bool changed)] ++ lineMembers lines)
  | other =>
    .object [("error", .optionalText other.obstacle?), ("path", .text other.path),
      ("written", .bool false)]

end WriteReport

namespace OutputFile

/-- The full path of an output file. -/
def target (folder : Location) (file : OutputFile) : Path :=
  Path.join ⟨.top, folder⟩ (.ofText file.path)

/-- What stands in the way of writing a file. -/
def obstacle? (workplace : Workplace) (file : OutputFile) :
    Except Breakdown (Option WriteReport) := do
  if file.path = "" || file.content = "" then return some (.incomplete file.path)
  match ← workplace.status (file.target workplace.folder) with
  | some _ => return if file.overwrite then none else some (.alreadyThere file.path)
  | none => return none

/-- The text that stands where a file goes: empty where nothing does, and none where it cannot be
read. Bytes that are not UTF-8 are left out of it. -/
def previousText? (workplace : Workplace) (file : OutputFile) :
    Except Breakdown (Option String) := do
  match ← workplace.status (file.target workplace.folder) with
  | none => return some ""
  | some (.folder _) | some .closed => return none
  | some (.file present) =>
    if present.refusal.isSome then return none
    else return some (Text.unifyBreaks (Text.decodeDropping present.content))

/-- Puts the text of a file into the tree, with the folders above it. What was made before a
breakdown stays: a text that cannot be encoded leaves an empty file. -/
def place (workplace : Workplace) (file : OutputFile) : Tree × Except Breakdown Unit :=
  let names := (file.target workplace.folder).parts
  let bytes? := Text.encode? file.content
  match workplace.tree.makeFolders names.dropLast with
  | (made, .error cause) => (made, .error cause)
  | (made, .ok ()) =>
    match made.writeFile names (bytes?.getD []) with
    | .error cause => (made, .error cause)
    | .ok written => (written, if bytes?.isSome then .ok () else .error .unencodableText)

/-- The report on a file that was written over a text. Lines are counted only where there were
any and something has changed. -/
def reportOver (file : OutputFile) (previous : String) : WriteReport :=
  let changed := previous != file.content
  let lines := if changed && previous != "" then
    some (LineCounts.between (Text.splitLines previous) (Text.splitLines file.content)) else none
  .written file.path changed lines

/-- Writes a file unless something stands in its way. -/
def write (workplace : Workplace) (file : OutputFile) : Tree × Except Breakdown WriteReport :=
  match file.obstacle? workplace with
  | .error cause => (workplace.tree, .error cause)
  | .ok (some report) => (workplace.tree, .ok report)
  | .ok none =>
    match file.previousText? workplace with
    | .error cause => (workplace.tree, .error cause)
    | .ok previous? =>
      match file.place workplace with
      | (tree, .error cause) => (tree, .error cause)
      | (tree, .ok ()) => (tree, .ok (file.reportOver (previous?.getD "")))

end OutputFile

end ErrorDerive
