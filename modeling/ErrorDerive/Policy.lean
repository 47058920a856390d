import ErrorDerive.Display
import ErrorDerive.Generation.Fault
import ErrorDerive.Settings
import ErrorDerive.Text.Blank
import ErrorDerive.Text.Segment
import ErrorDerive.Variant

/-!
# Policies

The decisions about one variant: what it displays, whether it wraps the cause of the error, and
whether a conversion from its field is generated. An annotation decides where there is one;
otherwise the settings do.

* `isErrorLike` tells from a type reference whether the type counts as an error type;
* `Variant.defaultDisplay` is the display of a variant without a text of its own;
* `Variant.resolve` takes the decisions.
-/

namespace ErrorDerive

/-- The decisions about a variant. -/
structure Policy where
  variant : Variant
  display : Display
  isCause : Bool := false
  makeFrom : Bool := false
  deriving DecidableEq, Repr, Inhabited

abbrev Policy.name (policy : Policy) : String := policy.variant.name

/-- A type reference up to its generic arguments, without blanks at the ends. -/
def baseOf (typeRef : String) : List Char :=
  Text.stripWord (typeRef.toList.takeWhile (· ≠ '<'))

/-- The part of a path after its last separator. -/
def lastSegment (path : List Char) : List Char :=
  Text.stripWord (Text.afterLast ['.'] (Text.afterLast [':', ':'] path))

/-- Whether a type reference names an error type, judged by its text. Generic arguments do not
count. -/
def isErrorLike (settings : Settings) (typeRef : String) : Bool :=
  let base := baseOf typeRef
  if base.isEmpty then false
  else match settings.errorMatch with
    | .fullPath => settings.errorTypeNames.contains (String.ofList base)
    | .lastSegment => settings.errorTypeNames.contains (String.ofList (lastSegment base))

namespace Variant

/-- Whether a variant wraps a cause by default: it has one field, of an error type. -/
def infersCause (settings : Settings) (variant : Variant) : Bool :=
  variant.soleField?.any fun field => isErrorLike settings field.typeRef

/-- The default display: the name, followed by one placeholder for each field. -/
def defaultDisplay (settings : Settings) (variant : Variant) : Display :=
  if variant.fields.isEmpty then .template variant.name
  else
    let placeholders := variant.fields.map fun _ => placeholder
    .template (variant.name ++ ": " ++ String.intercalate settings.fieldDelimiter placeholders)

/-- Whether a variant wraps a cause: as annotated, which only a variant with one field may be, or
by default. -/
def resolveCause (settings : Settings) (variant : Variant) : Except Fault Bool :=
  match variant.annotations.err with
  | some flag =>
    if flag && variant.fields.length ≠ 1 then
      .error (.malformed .causeWithoutSoleField variant.name)
    else .ok flag
  | none => .ok (variant.infersCause settings)

/-- Whether a conversion into a variant is generated: as annotated, which only a variant with one
field may be, or else for every variant with one field that wraps a cause. -/
def resolveConversion (variant : Variant) (isCause : Bool) : Except Fault Bool :=
  match variant.annotations.makeFrom with
  | some flag =>
    if flag && variant.fields.length ≠ 1 then
      .error (.malformed .sourceWithoutSoleField variant.name)
    else .ok flag
  | none => .ok (variant.fields.length == 1 && isCause)

/-- What a variant displays: its annotated text, or the default. -/
def resolveDisplay (settings : Settings) (variant : Variant) : Display :=
  match variant.annotations.formatStr with
  | some text => .literal text
  | none => variant.defaultDisplay settings

def resolve (settings : Settings) (variant : Variant) : Except Fault Policy := do
  let isCause ← variant.resolveCause settings
  let makeFrom ← variant.resolveConversion isCause
  return ⟨variant, variant.resolveDisplay settings, isCause, makeFrom⟩

end Variant

def resolvePolicies (settings : Settings) (variants : List Variant) : Except Fault (List Policy) :=
  variants.mapM (Variant.resolve settings)

end ErrorDerive
