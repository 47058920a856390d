import ErrorDerive.Value

/-!
# Declarations

A sum type as it is declared: its name and its variants, each with the types of its fields and
with groups of annotations. Nothing is checked here; `ErrorDerive.Variant` holds the checked form.
-/

namespace ErrorDerive

/-- How a variant carries its fields. -/
inductive Shape where
  | unit
  | tuple
  | struct
  deriving DecidableEq, Repr, Inhabited

/-- The sort of a declared type. -/
inductive TypeKind where
  | enum
  | struct
  | union
  deriving DecidableEq, Repr, Inhabited

def Shape.name : Shape → String
  | unit => "unit"
  | tuple => "tuple"
  | struct => "struct"

/-- Every shape, in the order in which messages list them. -/
def Shape.all : List Shape := [unit, tuple, struct]

def TypeKind.name : TypeKind → String
  | enum => "enum"
  | struct => "struct"
  | union => "union"

/-- Every sort of type, in the order in which messages list them. -/
def TypeKind.all : List TypeKind := [enum, struct, union]

/-- One group of annotations: keys with values, no key twice. -/
abbrev AnnotationGroup := List (String × Value)

/-- A variant as declared. Without a shape, the fields decide: a tuple when there are any. -/
structure VariantDeclaration where
  name : String
  shape : Option Shape := none
  fields : List String := []
  annotations : List AnnotationGroup := []
  deriving Inhabited

/-- A type as declared. -/
structure TypeDeclaration where
  name : String
  kind : TypeKind := .enum
  variants : List VariantDeclaration := []
  deriving Inhabited

end ErrorDerive
