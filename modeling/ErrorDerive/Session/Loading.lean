import ErrorDerive.ConfigCheck
import ErrorDerive.Loading.Declarations
import ErrorDerive.Session.Basic
import ErrorDerive.Value.Shown

/-!
# Loading in a session

Settings and declarations are loaded and checked as anywhere else, and leave records on the way.
-/

namespace ErrorDerive

/-- A record of the logger that watches settings. -/
def settingsRecord (level : LogLevel) (message : String) : LogRecord :=
  ⟨"autoerror.core.config.loader", level, message⟩

/-- The record that settings were loaded. -/
def loadedSettingsRecord (settings : Settings) : LogRecord :=
  let names := Value.list (settings.errorTypeNames.map .text)
  settingsRecord LogLevel.info
    ("Loaded settings: error names " ++ names.shown ++ " (" ++ settings.errorMatch.name ++ ")")

/-- The record that declarations were loaded. -/
def loadedDeclarationsRecord (path : Path) (declarations : List TypeDeclaration) : LogRecord :=
  ⟨"autoerror.core.config.declaration_loader", LogLevel.info,
    "Loaded " ++ toString declarations.length ++ " declarations from " ++ path.text⟩

namespace Run

def loadSettingsFrom (path : Path) : Run (Except ConfigFault Settings) := do
  log (settingsRecord LogLevel.debug ("Loading settings from " ++ path.text))
  match ← orFault ((← workplace).settingsFrom path) with
  | .error fault => return .error fault
  | .ok settings =>
    log (loadedSettingsRecord settings)
    return .ok settings

/-- Loads the settings that count. -/
def loadSettings (path? : Option Path) : Run (Except ConfigFault Settings) := do
  match ← orBreakdown ((← workplace).settingsPath path?) with
  | some path => loadSettingsFrom path
  | none =>
    log (settingsRecord LogLevel.debug
      ("No " ++ settingsFileName ++ " found, using default settings"))
    return .ok {}

def loadDeclarations (path : Path) : Run (Except ConfigFault (List TypeDeclaration)) := do
  match ← orFault ((← workplace).loadDeclarations path) with
  | .error fault => return .error fault
  | .ok declarations =>
    log (loadedDeclarationsRecord path declarations)
    return .ok declarations

def checkSettings (path? : Option Path) : Run SettingsCheck := do
  match ← orBreakdown ((← workplace).settingsPath path?) with
  | none => return .ofDefaults
  | some path =>
    let loaded := (← loadSettingsFrom path).mapError LoadFault.reported
    orBreakdown ((← workplace).checkSettingsAt path loaded)

end Run

end ErrorDerive
