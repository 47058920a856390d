import ErrorDerive.GenerationReport
import ErrorDerive.Session.Loading

/-!
# Generation in a session

Deriving the types of a declaration file leaves a record for each stage that was passed.

* `generationRecords` are the records of one type;
* `Run.generateFrom` loads settings and declarations and reports what came of it.
-/

namespace ErrorDerive

/-- The record that the variants of a type were extracted. -/
def extractedRecord (typeName : String) (variants : List Variant) : LogRecord :=
  ⟨"autoerror.core.engine.extractor", LogLevel.debug,
    "Extracted " ++ toString variants.length ++ " variants from " ++ typeName⟩

/-- The record of the decisions about a variant. -/
def resolvedRecord (policy : Policy) : LogRecord :=
  ⟨"autoerror.core.engine.resolver", LogLevel.debug,
    "Resolved " ++ policy.name ++ ": display=" ++ Text.quoted policy.display.text ++
      " is_cause=" ++ (Value.bool policy.isCause).shown ++
      " make_from=" ++ (Value.bool policy.makeFrom).shown⟩

/-- The record that the conversions of a type were derived. -/
def synthesizedRecord (conversions : List Conversion) : LogRecord :=
  ⟨"autoerror.core.engine.synthesizers", LogLevel.debug,
    "Synthesized " ++ toString conversions.length ++ " conversions"⟩

/-- The record that a type was derived. -/
def generatedRecord (generation : Generation) : LogRecord :=
  let causes := generation.policies.countP Policy.isCause
  ⟨"autoerror.core.engine.orchestrator", LogLevel.info,
    "Generated " ++ generation.typeName ++ ": " ++ toString generation.policies.length ++
      " variants, " ++ toString causes ++ " causes, " ++
      toString generation.conversions.length ++ " conversions"⟩

/-- The record that a type could not be derived. -/
def failedRecord (typeName : String) (fault : Fault) : LogRecord :=
  ⟨"autoerror.core.use_cases.generate", LogLevel.info,
    "Generation failed for " ++ typeName ++ ": " ++ fault.message⟩

/-- The records of the stages of deriving a type, up to the one that fails. -/
def stageRecords (settings : Settings) (declaration : TypeDeclaration) : List LogRecord :=
  match declaration.extract with
  | .error _ => []
  | .ok variants =>
    extractedRecord declaration.name variants ::
      match resolvePolicies settings variants with
      | .error _ => []
      | .ok policies =>
        policies.map resolvedRecord ++
          match conversions policies with
          | .error _ => []
          | .ok derived => [synthesizedRecord derived]

/-- The records of deriving a type. -/
def generationRecords (settings : Settings) (declaration : TypeDeclaration) : List LogRecord :=
  stageRecords settings declaration ++
    match generate settings declaration with
    | .ok generation => [generatedRecord generation]
    | .error fault => [failedRecord declaration.name fault]

/-- The records of deriving several types, up to the first that fails. -/
def recordsOfAll (settings : Settings) : List TypeDeclaration → List LogRecord
  | [] => []
  | declaration :: rest =>
    generationRecords settings declaration ++
      match generate settings declaration with
      | .ok _ => recordsOfAll settings rest
      | .error _ => []

/-- The report on a declaration file. -/
def Run.generateFrom (declaration : Path) (settings? : Option Path) (output? : Option String)
    (overwrite : Bool) : Run GenerationReport := do
  let failed (fault : ConfigFault) := (GenerationReport.begun declaration).failed (.config fault)
  match ← loadSettings settings? with
  | .error fault => return failed fault
  | .ok settings =>
    match ← loadDeclarations declaration with
    | .error fault => return failed fault
    | .ok declarations =>
      logAll (recordsOfAll settings declarations)
      return reportOn declaration output? overwrite settings declarations

end ErrorDerive
