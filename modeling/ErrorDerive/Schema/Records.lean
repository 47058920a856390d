import ErrorDerive.OutputFile
import ErrorDerive.Schema.Reading

/-!
# The records of the library

How each record is read from a value. Unknown fields are ignored, and absent ones get the default
that the record gives them.
-/

namespace ErrorDerive

open Schema

/-- Reads settings; the delimiter must not hold the placeholder. -/
def Settings.read : Value → Reading Settings :=
  readRecord "GeneratorSettings" fun entries =>
    Settings.mk
      <$> optional "error_type_names" ["Error"] (readList readText) entries
      <*> optional "error_match" .lastSegment (readChoice MatchMode.all MatchMode.name) entries
      <*> optional "field_delimiter" " " readDelimiter entries
where
  /-- Reads a delimiter. -/
  readDelimiter (value : Value) : Reading String :=
    (readText value).refine value fun delimiter =>
      if Text.contains placeholder delimiter then
        .error (.forbidden ("field_delimiter must not contain '" ++ placeholder ++ "'"))
      else .ok delimiter

def Shape.read : Value → Reading Shape :=
  readChoice Shape.all Shape.name

def VariantDeclaration.read : Value → Reading VariantDeclaration :=
  readRecord "VariantDecl" fun entries =>
    VariantDeclaration.mk
      <$> required "name" readText entries
      <*> optional "shape" none (readNullable Shape.read) entries
      <*> optional "fields" [] (readList readText) entries
      <*> optional "annotations" [] (readList readGroup) entries

def TypeDeclaration.read : Value → Reading TypeDeclaration :=
  readRecord "TypeDeclaration" fun entries =>
    TypeDeclaration.mk
      <$> required "name" readText entries
      <*> optional "kind" .enum (readChoice TypeKind.all TypeKind.name) entries
      <*> optional "variants" [] (readList VariantDeclaration.read) entries

def Field.read : Value → Reading Field :=
  readRecord "Field" fun entries =>
    Field.mk
      <$> required "index" readNumber entries
      <*> required "type_ref" readText entries

def Annotations.read : Value → Reading Annotations :=
  readRecord "Annotations" fun entries =>
    Annotations.mk
      <$> optional "format_str" none (readNullable readText) entries
      <*> optional "make_from" none (readNullable readFlag) entries
      <*> optional "err" none (readNullable readFlag) entries

def Variant.read : Value → Reading Variant :=
  readRecord "Variant" fun entries =>
    Variant.mk
      <$> required "name" readText entries
      <*> required "shape" Shape.read entries
      <*> optional "fields" [] (readTuple Field.read) entries
      <*> optional "annotations" {} Annotations.read entries

def Display.read : Value → Reading Display :=
  readRecord "DisplaySpec" fun entries =>
    (fun isLiteral text => if isLiteral then Display.literal text else Display.template text)
      <$> required "kind" (readChoice [true, false] kindName) entries
      <*> required "text" readText entries
where
  /-- The name of a kind of display. -/
  kindName (isLiteral : Bool) : String :=
    if isLiteral then "literal" else "template"

def Policy.read : Value → Reading Policy :=
  readRecord "ResolvedPolicy" fun entries =>
    Policy.mk
      <$> required "variant" Variant.read entries
      <*> required "display" Display.read entries
      <*> optional "is_cause" false readFlag entries
      <*> optional "make_from" false readFlag entries

def DisplayBranch.read : Value → Reading DisplayBranch :=
  readRecord "DisplayBranch" fun entries =>
    DisplayBranch.mk
      <$> required "variant" readText entries
      <*> required "shape" Shape.read entries
      <*> optional "bindings" [] (readTuple readText) entries
      <*> required "display" Display.read entries

def SourceBranch.read : Value → Reading SourceBranch :=
  readRecord "SourceBranch" fun entries =>
    SourceBranch.mk
      <$> required "variant" readText entries
      <*> required "shape" Shape.read entries
      <*> optional "field_count" 0 readNumber entries
      <*> optional "cause" none (readNullable readText) entries

def DisplayBranch.readBody : Value → Reading (List DisplayBranch) :=
  readRecord "DisplayBody" (optional "branches" [] (readTuple DisplayBranch.read))

def SourceBranch.readBody : Value → Reading (List SourceBranch) :=
  readRecord "SourceBody" (optional "branches" [] (readTuple SourceBranch.read))

def Conversion.read : Value → Reading Conversion :=
  readRecord "ConversionImpl" fun entries =>
    Conversion.mk
      <$> required "source_type" readText entries
      <*> required "variant" readText entries

/-- Reads everything that was derived for a type. -/
def Generation.read : Value → Reading Generation :=
  readRecord "GenerationResult" fun entries =>
    Generation.mk
      <$> required "type_name" readText entries
      <*> optional "policies" [] (readTuple Policy.read) entries
      <*> required "display" DisplayBranch.readBody entries
      <*> required "source" SourceBranch.readBody entries
      <*> optional "conversions" [] (readTuple Conversion.read) entries

def OutputFile.read : Value → Reading OutputFile :=
  readRecord "GeneratedFile" fun entries =>
    OutputFile.mk
      <$> required "path" readText entries
      <*> required "content" readText entries
      <*> optional "overwrite" false readFlag entries
      <*> optional "reason" "" readText entries

end ErrorDerive
