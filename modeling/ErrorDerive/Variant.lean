import ErrorDerive.Declaration

/-!
# Variants

A variant after its declaration has been checked: its shape is known, its fields are numbered and
its annotations stand in one record.
-/

namespace ErrorDerive

/-- A field: its position and the text of its type. -/
structure Field where
  index : Int
  typeRef : String
  deriving DecidableEq, Repr, Inhabited

/-- The annotations of a variant; an absent one leaves the decision to the defaults. -/
structure Annotations where
  formatStr : Option String := none
  makeFrom : Option Bool := none
  err : Option Bool := none
  deriving DecidableEq, Repr, Inhabited

/-- A checked variant. -/
structure Variant where
  name : String
  shape : Shape
  fields : List Field := []
  annotations : Annotations := {}
  deriving DecidableEq, Repr, Inhabited

/-- The only field of a variant that has exactly one. -/
def Variant.soleField? (variant : Variant) : Option Field :=
  match variant.fields with
  | [field] => some field
  | _ => none

theorem Variant.isSome_soleField? (variant : Variant) :
    variant.soleField?.isSome = true ↔ variant.fields.length = 1 := by
  unfold Variant.soleField?
  rcases variant.fields with _ | ⟨first, _ | ⟨second, rest⟩⟩
  · simp
  · simp
  · simp

end ErrorDerive
