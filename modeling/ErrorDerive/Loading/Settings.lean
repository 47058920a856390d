import ErrorDerive.Loading.Mapping
import ErrorDerive.Schema.Records

/-!
# Settings files

Where settings are looked for and how they are read. The nearest settings file counts, in the
folder itself or in one of the folders above it, but not further up than a limit.

* `Workplace.findSettings` is the place of the nearest settings file;
* `Workplace.loadSettings` reads the settings of a given or found file, or the defaults.
-/

namespace ErrorDerive

def settingsFileName : String := "autoerror.yml"

/-- How many folders are searched for a settings file. -/
def searchLimit : Nat := 20

/-- A location and the ones above it, up to the top. -/
def ancestors (location : Location) : List Location :=
  (List.range (location.length + 1)).map fun count => location.take (location.length - count)

/-- The path of a location. -/
def pathOf (location : Location) : Path := ⟨.top, location⟩

/-- The first of several folders that holds a settings file. -/
def Workplace.firstWithSettings (workplace : Workplace) :
    List Location → Except Breakdown (Option Path)
  | [] => .ok none
  | folder :: rest => do
    let path := pathOf (folder ++ [settingsFileName])
    match ← workplace.fileAt? path with
    | some _ => return some path
    | none => workplace.firstWithSettings rest

/-- A location with single steps up carried out, whether or not anything stands there. -/
def settle (names : List String) : Location :=
  names.foldl (fun location name => if name = ".." then location.dropLast else location ++ [name])
    []

/-- Why single steps cannot be carried out, if they cannot: the first name that can be none. -/
def firstFault? (names : List String) : Option Breakdown :=
  names.findSome? fun name => namesFault? [name]

/-- The nearest settings file from a folder upwards. -/
def Workplace.findSettings (workplace : Workplace) (start : Path) :
    Except Breakdown (Option Path) :=
  let names := namesFrom workplace.folder start
  match firstFault? names with
  | some fault => .error fault
  | none => workplace.firstWithSettings ((ancestors (settle names)).take searchLimit)

/-- The entries in which settings stand: those under the key `settings` where that is a mapping,
and otherwise all. -/
def settingsEntries (entries : List (Value × Value)) : List (Value × Value) :=
  match (Value.lookup? "settings" entries).map Value.opened with
  | some (.mapping inner) => inner
  | _ => entries

def settingsOfEntries (path : Path) (entries : List (Value × Value)) :
    Except LoadFault Settings :=
  let reading := Settings.read (.mapping (settingsEntries entries))
  match reading.toExcept "GeneratorSettings" with
  | .ok settings => .ok settings
  | .error rejection => .error (.reported (.invalidSettings path.text rejection))

def Workplace.settingsFrom (workplace : Workplace) (path : Path) : Except LoadFault Settings := do
  settingsOfEntries path (← workplace.readMapping path)

/-- The settings file that counts: the one given, or the nearest. -/
def Workplace.settingsPath (workplace : Workplace) (path? : Option Path) :
    Except Breakdown (Option Path) :=
  match path? with
  | some path => .ok (some path)
  | none => workplace.findSettings {}

def Workplace.loadSettings (workplace : Workplace) (path? : Option Path) :
    Except LoadFault Settings :=
  match workplace.settingsPath path? with
  | .error cause => .error (.brokenDown cause)
  | .ok none => .ok {}
  | .ok (some path) => workplace.settingsFrom path

end ErrorDerive
