import ErrorDerive.Generation.Fault
import ErrorDerive.Text.Blank
import ErrorDerive.Text.Identifier
import ErrorDerive.Variant

/-!
# From declarations to variants

`TypeDeclaration.extract` checks a declaration and returns its variants in order. Variants are
checked one after the other, each by name, shape, fields and annotations, and the first fault is
the answer.
-/

namespace ErrorDerive

/-- The shape of a declared variant, once it is known to suit the fields. -/
def VariantDeclaration.resolveShape (declared : VariantDeclaration) : Except Fault Shape :=
  match declared.shape with
  | none => .ok (if declared.fields.isEmpty then .unit else .tuple)
  | some .struct => .error (.malformed .namedFields declared.name)
  | some .unit =>
    if declared.fields.isEmpty then .ok .unit
    else .error (.malformed .unitWithFields declared.name)
  | some .tuple => .ok .tuple

/-- Numbers field types from an index upwards; each is stripped and must not be blank. -/
def numberFields (variant : String) : Nat → List String → Except Fault (List Field)
  | _, [] => .ok []
  | index, typeRef :: rest =>
    if Text.isAllBlank typeRef then .error (.malformed (.blankField index) variant)
    else do
      let later ← numberFields variant (index + 1) rest
      return ⟨index, Text.strip typeRef⟩ :: later

/-- Whether an annotation has been set already. -/
def Annotations.has (annotations : Annotations) : AnnotationKey → Bool
  | .formatStr => annotations.formatStr.isSome
  | .makeFrom => annotations.makeFrom.isSome
  | .err => annotations.err.isSome

/-- Sets an annotation to a value, if the value is of the right kind. -/
def Annotations.set? (annotations : Annotations) : AnnotationKey → Value → Option Annotations
  | .formatStr, .text content => some { annotations with formatStr := some content }
  | .makeFrom, .bool flag => some { annotations with makeFrom := some flag }
  | .err, .bool flag => some { annotations with err := some flag }
  | _, _ => none

/-- Adds one annotation, which must be a known key, not set yet, with a value of its kind. -/
def addEntry (variant : String) (annotations : Annotations) (entry : String × Value) :
    Except Fault Annotations :=
  match AnnotationKey.ofName? entry.1 with
  | none => .error (.malformed (.unknownKey entry.1) variant)
  | some key =>
    if annotations.has key then .error (.malformed (.repeatedKey key) variant)
    else match annotations.set? key entry.2 with
      | none => .error (.malformed (.mistypedValue key) variant)
      | some extended => .ok extended

/-- The annotations of all groups in one record. -/
def VariantDeclaration.flattenAnnotations (declared : VariantDeclaration) :
    Except Fault Annotations :=
  declared.annotations.flatten.foldlM (addEntry declared.name) {}

/-- The checked form of a declared variant whose name has been accepted. -/
def VariantDeclaration.toVariant (declared : VariantDeclaration) : Except Fault Variant := do
  let shape ← declared.resolveShape
  let fields ← numberFields declared.name 0 declared.fields
  let annotations ← declared.flattenAnnotations
  return ⟨declared.name, shape, fields, annotations⟩

/-- The checked forms of declared variants, given the names that are taken. -/
def extractVariants (taken : List String) : List VariantDeclaration → Except Fault (List Variant)
  | [] => .ok []
  | declared :: rest =>
    if !Text.isIdentifier declared.name then
      .error (.malformed (.invalidVariantName declared.name) none)
    else if taken.contains declared.name then
      .error (.malformed .repeatedVariant declared.name)
    else do
      let variant ← declared.toVariant
      let later ← extractVariants (declared.name :: taken) rest
      return variant :: later

def TypeDeclaration.extract (declaration : TypeDeclaration) : Except Fault (List Variant) :=
  if declaration.kind ≠ .enum then
    .error (.malformed (.notAnEnum declaration.name declaration.kind) none)
  else if !Text.isIdentifier declaration.name then
    .error (.malformed (.invalidTypeName declaration.name) none)
  else extractVariants [] declaration.variants

end ErrorDerive
