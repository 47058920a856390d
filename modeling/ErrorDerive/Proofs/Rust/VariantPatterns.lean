import ErrorDerive.Proofs.Generation.Branches
import ErrorDerive.Proofs.Rust.Matching

/-!
# Patterns of a declared variant

The two patterns that stand for a declared variant in a match, with and without names for its
fields.  Both fit every value of the variant, and every such value only once.
-/

namespace ErrorDerive

open Rust

namespace VariantDeclaration

def instanceOf {α : Type} (declared : VariantDeclaration) (fields : List α) : Instance α :=
  ⟨declared.name, declared.formShape, fields⟩

/-- The pattern that fits a declared variant and binds nothing. -/
def textPattern (declared : VariantDeclaration) : Pattern :=
  match declared.formShape with
  | .unit => .plain declared.name
  | _ => if declared.fields = [] then .binding declared.name [] else .ignoring declared.name

/-- The pattern that fits a declared variant and binds its fields. -/
def fieldsPattern (declared : VariantDeclaration) : Pattern :=
  match declared.formShape with
  | .unit => .plain declared.name
  | _ => .binding declared.name (fieldNames declared.fields.length)

theorem ofShape_textPattern (declared : VariantDeclaration) :
    Pattern.ofShape declared.name declared.formShape
      (if declared.fields = [] then some [] else none) = declared.textPattern := by
  unfold textPattern
  by_cases empty : declared.fields = []
  · cases declared.formShape <;> simp [Pattern.ofShape, empty]
  · cases declared.formShape <;> simp [Pattern.ofShape, empty]

theorem ofShape_fieldsPattern (declared : VariantDeclaration) :
    Pattern.ofShape declared.name declared.formShape
      (some (fieldNames declared.fields.length)) = declared.fieldsPattern := by
  unfold fieldsPattern
  cases declared.formShape <;> rfl

theorem Suits.bind?_textPattern
    {α : Type} {declared : VariantDeclaration} (suits : declared.Suits) {values : List α}
    (sameLength : values.length = declared.fields.length) :
    declared.textPattern.bind? (declared.instanceOf values) = some [] := by
  unfold textPattern instanceOf
  rcases suits.formShape_cases with ⟨shape, empty⟩ | shape
  · rw [shape]
    simp [Pattern.bind?]
  · rw [shape]
    by_cases empty : declared.fields = []
    · have noValue : values = [] := by
        rw [empty] at sameLength
        exact List.eq_nil_of_length_eq_zero sameLength
      simp [empty, noValue, Pattern.bind?]
    · simp [empty, Pattern.bind?]

theorem Suits.bind?_fieldsPattern
    {α : Type} {declared : VariantDeclaration} (suits : declared.Suits) {values : List α}
    (sameLength : values.length = declared.fields.length) :
    declared.fieldsPattern.bind? (declared.instanceOf values) =
      some ((fieldNames declared.fields.length).zip values) := by
  unfold fieldsPattern instanceOf
  rcases suits.formShape_cases with ⟨shape, empty⟩ | shape
  · rw [shape, empty]
    simp [Pattern.bind?, fieldNames]
  · rw [shape]
    simp [Pattern.bind?, length_fieldNames, nodup_fieldNames, sameLength]

theorem isNamed_textPattern
    {declared : VariantDeclaration} (identifier : Text.isIdentifier declared.name = true) :
    declared.textPattern.IsNamed := by
  unfold textPattern
  split
  · exact identifier
  · split
    · exact ⟨identifier, by simp⟩
    · exact identifier

theorem isNamed_fieldsPattern
    {declared : VariantDeclaration} (identifier : Text.isIdentifier declared.name = true) :
    declared.fieldsPattern.IsNamed := by
  unfold fieldsPattern
  split
  · exact identifier
  · exact ⟨identifier, fun _ member => isIdentifier_of_mem_fieldNames member⟩

end VariantDeclaration

end ErrorDerive
