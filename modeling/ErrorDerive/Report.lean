import ErrorDerive.Generation.Result
import ErrorDerive.Json
import ErrorDerive.OutputFile

/-!
# Reports

The documents in which results are handed out: the decision table of a type, its settings, and the
generated file.
-/

namespace ErrorDerive

def Settings.toJson (settings : Settings) : Json :=
  .object [
    ("error_type_names", .texts settings.errorTypeNames),
    ("error_match", .text settings.errorMatch.name),
    ("field_delimiter", .text settings.fieldDelimiter)]

def Display.toJson (display : Display) : Json :=
  .object [("kind", .text display.kind), ("text", .text display.text)]

/-- The row of a policy in the decision table. -/
def Policy.toRow (policy : Policy) : Json :=
  .object [
    ("variant", .text policy.name),
    ("fields", .texts (policy.variant.fields.map Field.typeRef)),
    ("display", policy.display.toJson),
    ("is_cause", .bool policy.isCause),
    ("make_from", .bool policy.makeFrom)]

def Conversion.toJson (conversion : Conversion) : Json :=
  .object [("source_type", .text conversion.sourceType), ("variant", .text conversion.variant)]

/-- The decision table of a type. -/
def Generation.toTable (generation : Generation) : Json :=
  .object [
    ("type", .text generation.typeName),
    ("variants", .list (generation.policies.map Policy.toRow)),
    ("conversions", .list (generation.conversions.map Conversion.toJson))]

def OutputFile.toJson (file : OutputFile) : Json :=
  .object [
    ("path", .text file.path),
    ("content", .text file.content),
    ("overwrite", .bool file.overwrite),
    ("reason", .text file.reason)]

end ErrorDerive
