import ErrorDerive.Loading.Settings
import ErrorDerive.Report
import ErrorDerive.Text.Blank

/-!
# Checking settings

A settings file may be readable and still be pointless in places. `Workplace.checkSettings` reports
errors, which make the settings invalid, and warnings, which do not.
-/

namespace ErrorDerive

/-- The result of a check. -/
structure SettingsCheck where
  settings : Option Settings := none
  path : Option Path := none
  errors : List String := []
  warnings : List String := []
  deriving DecidableEq, Repr, Inhabited

/-- Settings are valid when the check found no error. -/
def SettingsCheck.isValid (check : SettingsCheck) : Bool :=
  check.errors.isEmpty

def settingNames : List String := ["error_type_names", "error_match", "field_delimiter"]

/-- Whether a text comes before another one, or is it, by their code points. -/
def comesFirst (text other : String) : Bool :=
  !List.lex (Text.codePoints other) (Text.codePoints text)

/-- The text of every key that is no setting; a key of another kind cannot be listed. -/
def unknownKeys (entries : List (Value × Value)) : Except Breakdown (List String) :=
  let known (key : Value) : Bool := settingNames.any fun name => Value.sameKey (.text name) key
  let unknown := (entries.map Prod.fst).filter (!known ·)
  let names? := unknown.mapM fun key => match key with
    | .text name => some name
    | _ => none
  match names? with
  | some names => .ok (names.mergeSort comesFirst)
  | none => .error .mixedKeys

/-- Names that can never equal a last segment, because they hold a separator. -/
def qualifiedNames (settings : Settings) : List String :=
  settings.errorTypeNames.filter fun name => Text.contains "::" name || Text.contains "." name

/-- The warnings about settings that were read from the given entries. -/
def settingsWarnings (settings : Settings) (unknown : List String) : List String :=
  let qualified := if settings.errorMatch = .lastSegment then qualifiedNames settings else []
  (if unknown.isEmpty then []
    else ["Unknown settings ignored: " ++ commaSeparated unknown]) ++
  (if settings.errorTypeNames.isEmpty then
    ["error_type_names is empty: no variant will be inferred as wrapping an error."] else []) ++
  (if qualified.isEmpty then []
    else ["Qualified names never match in last_segment mode: " ++ commaSeparated qualified])

def settingsErrors (settings : Settings) : List String :=
  if settings.errorTypeNames.any Text.isAllBlank then
    ["error_type_names contains blank entries"] else []

/-- Checks settings that were read from a file. -/
def checkLoaded (workplace : Workplace) (path : Path) (settings : Settings) :
    Except LoadFault SettingsCheck := do
  let entries ← workplace.readMapping path
  match unknownKeys (settingsEntries entries) with
  | .error cause => throw (.brokenDown cause)
  | .ok unknown =>
    return {
      settings := some settings
      path := some path
      errors := settingsErrors settings
      warnings := settingsWarnings settings unknown }

/-- The check of settings without any file. -/
def SettingsCheck.ofDefaults : SettingsCheck where
  settings := some {}
  warnings := ["No autoerror.yml found, using defaults."]

/-- The check of a file that was not accepted. -/
def SettingsCheck.ofFault (path : Path) (fault : ConfigFault) : SettingsCheck where
  path := some path
  errors := [fault.message]

/-- The check of a file whose settings have been loaded or refused. -/
def Workplace.checkSettingsAt (workplace : Workplace) (path : Path)
    (loaded : Except LoadFault Settings) : Except Breakdown SettingsCheck :=
  match loaded with
  | .error (.brokenDown cause) => .error cause
  | .error (.reported fault) => .ok (.ofFault path fault)
  | .ok settings =>
    match checkLoaded workplace path settings with
    | .ok check => .ok check
    | .error (.brokenDown cause) => .error cause
    | .error (.reported fault) => .ok (.ofFault path fault)

/-- Checks the settings that count. -/
def Workplace.checkSettings (workplace : Workplace) (path? : Option Path) :
    Except Breakdown SettingsCheck := do
  match ← workplace.settingsPath path? with
  | none => return .ofDefaults
  | some path => workplace.checkSettingsAt path (workplace.settingsFrom path)

def SettingsCheck.toJson (check : SettingsCheck) : Json :=
  .object [
    ("valid", .bool check.isValid),
    ("config_path", .optionalText (check.path.map Path.text)),
    ("errors", .texts check.errors),
    ("warnings", .texts check.warnings),
    ("settings", (check.settings.map Settings.toJson).getD .null)]

end ErrorDerive
