import ErrorDerive.Files.Tree
import ErrorDerive.Loading.Fault
import ErrorDerive.Text.Lines
import ErrorDerive.Yaml.Content

/-!
# Mappings in files

Reading a file that holds one YAML mapping. An empty document counts as an empty mapping.
-/

namespace ErrorDerive

/-- A place in a tree from which relative paths start, and the process that works there. -/
structure Workplace where
  tree : Tree
  folder : Location
  process : Process := {}
  deriving Inhabited

/-- The names that a path stands for, from the top of the tree. -/
def namesFrom (folder : Location) (path : Path) : List String :=
  if path.isAbsolute then path.parts else folder ++ path.parts

/-- What stands where a path leads, if anything does. -/
def Workplace.status (workplace : Workplace) (path : Path) : Except Breakdown (Option Entry) :=
  if (namesFault? path.parts).isSome then .ok none
  else if path.isTooLong then refuse .nameTooLong
  else workplace.tree.status (namesFrom workplace.folder path)

/-- The file where a path leads, if one stands there. -/
def Workplace.fileAt? (workplace : Workplace) (path : Path) : Except Breakdown (Option File) := do
  match ← workplace.status path with
  | some (.file file) => return some file
  | _ => return none

/-- The bytes of a file as text: UTF-8, with one kind of line break. -/
def textOfBytes? (bytes : List UInt8) : Option String :=
  (Text.decode? bytes).map Text.unifyBreaks

def File.text (path : Path) (file : File) : Except LoadFault String :=
  match file.refusal with
  | some reason => .error (.reported (.unreadable path.text reason))
  | none =>
    match textOfBytes? file.content with
    | some text => .ok text
    | none => .error (.brokenDown .undecodableBytes)

/-- The entries of the mapping that a text holds. -/
def mappingOfText (process : Process) (path : Path) (text : String) :
    Except LoadFault (List (Value × Value)) :=
  match (Yaml.read process text).map Value.opened with
  | .error .malformed => .error (.reported (.invalidYaml path.text))
  | .error (.broken cause) => .error (.brokenDown cause)
  | .ok .null => .ok []
  | .ok (.mapping entries) => .ok entries
  | .ok value => .error (.reported (.notAMapping path.text value.kind))

/-- The entries of the mapping that a file holds. -/
def Workplace.readMapping (workplace : Workplace) (path : Path) :
    Except LoadFault (List (Value × Value)) :=
  match workplace.fileAt? path with
  | .error cause => .error (.brokenDown cause)
  | .ok none => .error (.reported (.fileNotFound path.text))
  | .ok (some file) => do mappingOfText workplace.process path (← file.text path)

end ErrorDerive
