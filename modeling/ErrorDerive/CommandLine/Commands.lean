import ErrorDerive.CommandLine.Options
import ErrorDerive.Session.Generation
import ErrorDerive.Session.Writing
import ErrorDerive.Text.Styling

/-!
# Commands

Each command prints its result, as text or as a JSON document, and ends with a status: zero when
all went well and one when a fault was reported.
-/

namespace ErrorDerive

namespace Run

/-- Prints a text, without the styling that it may hold. Nothing is printed of a text with a
character that the output cannot show. -/
def print (text : String) : Run Unit := do
  let shown := Text.withoutStyling text
  let encoding := (← workplace).process.encoding
  if !(Text.codePoints shown).all encoding.has then throw (.brokenDown .unencodableText)
  modify fun session => { session with output := session.output ++ shown }

def printLine (text : String) : Run Unit :=
  print (text ++ "\n")

/-- Prints several texts, each on a line of its own. -/
def printLines (texts : List String) : Run Unit :=
  texts.forM printLine

/-- Prints a fault on the error output. -/
def printFault (message : String) : Run Unit :=
  modify (·.addErrorOutput (Text.withoutStyling ("❌ " ++ message ++ "\n")))

def printDocument (document : Json) : Run Unit :=
  printLine document.pretty

end Run

/-- The status that says whether a command failed. -/
def statusOf (failed : Bool) : Nat :=
  if failed then 1 else 0

/-- A list after a bullet. -/
def bulleted (items : List String) : List String :=
  items.map ("   • " ++ ·)

/-- What a command prints about a file that was written. -/
def writtenLines (file : OutputFile) (changed : Bool) : List String :=
  let state := if changed then "updated" else "unchanged"
  ["✅ Wrote " ++ file.path ++ " (" ++ state ++ ")", "   Types: " ++ file.reason]

def policyLines (policy : Policy) : List String :=
  let marks := (if policy.isCause then ["source"] else []) ++
    (if policy.makeFrom then ["from"] else [])
  let shownMarks := if marks.isEmpty then "" else "  [" ++ commaSeparated marks ++ "]"
  ["   • " ++ policy.name ++ "(" ++ commaSeparated (policy.variant.fields.map Field.typeRef) ++
      ")" ++ shownMarks,
    "       display: " ++ Text.quoted policy.display.text ++ " (" ++ policy.display.kind ++ ")"]

def generationLines (generation : Generation) : List String :=
  let arrows := generation.conversions.map fun conversion =>
    "     " ++ conversion.sourceType ++ " → " ++ generation.typeName ++ "::" ++ conversion.variant
  ["\n🧩 " ++ generation.typeName] ++ generation.policies.flatMap policyLines ++
    (if arrows.isEmpty then [] else "   Conversions:" :: arrows)

def checkLines (check : SettingsCheck) : List String :=
  let verdict :=
    if check.isValid then
      "✅ Configuration is valid" :: (check.path.map fun path => "   File: " ++ path.text).toList
    else "❌ Configuration errors:" :: bulleted check.errors
  let warnings :=
    if check.warnings.isEmpty then [] else ["", "⚠️  Warnings:"] ++ bulleted check.warnings
  verdict ++ warnings ++ [""]

def settingsLines (settings : Settings) : List String :=
  let names := commaSeparated settings.errorTypeNames
  ["⚙️  Settings",
    "   Error type names: " ++ (if names = "" then "(none)" else names),
    "   Match mode:       " ++ settings.errorMatch.name,
    "   Field delimiter:  " ++ Text.quoted settings.fieldDelimiter,
    ""]

namespace Run

/-- Writes the generated file, if there is one, where an output was asked for. -/
def writeProduct (output? : Option String) (report : GenerationReport) :
    Run (Option WriteReport) := do
  match report.generated with
  | some file => if (output?.getD "") = "" then return none else return some (← write file)
  | none => return none

/-- Prints what came of a generated file. -/
def printProduct (quiet : Bool) (file : OutputFile) (written? : Option WriteReport) : Run Nat := do
  match written? with
  | none =>
    print file.content
    return 0
  | some (.written _ changed _) =>
    unless quiet do printLines (writtenLines file changed)
    return 0
  | some report =>
    printFault (report.obstacle?.getD "")
    return 1

def generateCommand (settings? : Option Path) (quiet : Bool) (options : GenerateOptions)
    (declaration : Path) : Run Nat := do
  let report ← generateFrom declaration settings? options.output options.overwrite
  let written? ← writeProduct options.output report
  if options.json then
    let written := written?.map fun written => ("written", written.toJson)
    printDocument (.object (report.members ++ written.toList))
    return statusOf (!report.isOk || written?.any fun written => written.obstacle?.isSome)
  else match report.spokenError?, report.generated with
    | none, some file => printProduct quiet file written?
    | error?, _ =>
      printFault (error?.getD "Nothing was generated")
      return 1

def resolveCommand (settings? : Option Path) (options : ShowOptions) (declaration : Path) :
    Run Nat := do
  let report ← generateFrom declaration settings? none false
  if options.json then
    printDocument (.object report.tableMembers)
    return statusOf !report.isOk
  else match report.spokenError? with
    | none =>
      printLines (report.results.flatMap generationLines ++ [""])
      return 0
    | some error =>
      printFault error
      return 1

def checkCommand (settings? : Option Path) (options : ShowOptions) : Run Nat := do
  let check ← checkSettings settings?
  if options.json then printDocument check.toJson else printLines (checkLines check)
  return statusOf !check.isValid

def showCommand (settings? : Option Path) (options : ShowOptions) : Run Nat := do
  match ← loadSettings settings? with
  | .error fault =>
    printFault fault.message
    return 1
  | .ok settings =>
    if options.json then printDocument settings.toJson else printLines (settingsLines settings)
    return 0

end Run

end ErrorDerive
