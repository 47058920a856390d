import ErrorDerive.Declaration

/-!
# Faults of a generation

Why a declaration yields no code.

* `Malformation` lists what may be wrong with the declaration itself;
* `Fault` adds a body that leaves variants out and conversions that compete for one type;
* `Fault.text` is the bare message, `Fault.message` puts the variant concerned in front of it.
-/

namespace ErrorDerive

/-- The annotation keys that are understood. -/
inductive AnnotationKey where
  | formatStr
  | makeFrom
  | err
  deriving DecidableEq, Repr, Inhabited

def AnnotationKey.name : AnnotationKey → String
  | formatStr => "format_str"
  | makeFrom => "make_from"
  | err => "err"

/-- The key that a text spells. -/
def AnnotationKey.ofName? (name : String) : Option AnnotationKey :=
  [formatStr, makeFrom, err].find? fun key => key.name == name

/-- The kind of value that an annotation takes. -/
def AnnotationKey.valueKind : AnnotationKey → String
  | formatStr => "str"
  | makeFrom => "bool"
  | err => "bool"

/-- What is wrong with a declaration, or with the annotations of a variant. -/
inductive Malformation where
  | notAnEnum (typeName : String) (kind : TypeKind)
  | invalidTypeName (typeName : String)
  | invalidVariantName (name : String)
  | repeatedVariant
  | namedFields
  | unitWithFields
  | blankField (index : Nat)
  | unknownKey (key : String)
  | repeatedKey (key : AnnotationKey)
  | mistypedValue (key : AnnotationKey)
  | causeWithoutSoleField
  | sourceWithoutSoleField
  | conversionWithoutSoleField
  deriving DecidableEq, Repr, Inhabited

def Malformation.text : Malformation → String
  | notAnEnum typeName kind =>
    "AutoError only supports enums, '" ++ typeName ++ "' is a " ++ kind.name
  | invalidTypeName typeName => "Invalid type name '" ++ typeName ++ "'"
  | invalidVariantName name => "Invalid variant name '" ++ name ++ "'"
  | repeatedVariant => "Duplicate variant name"
  | namedFields => "Named fields not supported"
  | unitWithFields => "Unit variant cannot carry fields"
  | blankField index => "Field " ++ toString index ++ " has an empty type"
  | unknownKey key => "Unknown annotation key '" ++ key ++ "'"
  | repeatedKey key => "Duplicate annotation key '" ++ key.name ++ "'"
  | mistypedValue key => "Incorrect value for " ++ key.name ++ ", expected " ++ key.valueKind
  | causeWithoutSoleField => "Wrapped errors should have exactly 1 field"
  | sourceWithoutSoleField => "Can only derive conversions for variants with 1 field"
  | conversionWithoutSoleField => "Conversion requested without a single field"

/-- Why a generation fails. -/
inductive Fault where
  /-- The declaration is malformed, at a variant or as a whole. -/
  | malformed (cause : Malformation) (variant : Option String)
  /-- A body has other branches than one for each variant. -/
  | incompleteCoverage (body : String) (covered total : Nat) (missing : List String)
  /-- Several variants would convert from one source type. -/
  | conflictingConversion (sourceType : String) (variants : List String)
  deriving DecidableEq, Repr, Inhabited

/-- Texts joined by commas. -/
def commaSeparated (texts : List String) : String :=
  String.intercalate ", " texts

/-- A message with the variant that it concerns in front, if there is one with a name. -/
def prefixed (variant : Option String) (text : String) : String :=
  match variant with
  | some name => if name = "" then text else name ++ ": " ++ text
  | none => text

def conflictText (sourceType : String) (variants : List String) : String :=
  "Conflicting conversions from '" ++ sourceType ++ "' into variants " ++ commaSeparated variants

def coverageText (body : String) (covered total : Nat) (missing : List String) : String :=
  body ++ " body covers " ++ toString covered ++ " of " ++ toString total ++ " variants" ++
    (if missing.isEmpty then "" else " (missing: " ++ commaSeparated missing ++ ")")

namespace Fault

def text : Fault → String
  | malformed cause _ => cause.text
  | incompleteCoverage body covered total missing => coverageText body covered total missing
  | conflictingConversion sourceType variants => conflictText sourceType variants

def variant? : Fault → Option String
  | malformed _ variant => variant
  | _ => none

def message (fault : Fault) : String :=
  prefixed fault.variant? fault.text

/-- The name of the kind of fault, as reports give it. -/
def kind : Fault → String
  | malformed _ _ => "MalformedInput"
  | incompleteCoverage _ _ _ _ => "IncompleteCoverage"
  | conflictingConversion _ _ => "ConflictingConversion"

end Fault

end ErrorDerive
