import ErrorDerive.Proofs.Rust.ArmReading
import ErrorDerive.Proofs.Rust.FormatReading

/-!
# Matching values

What an arm does with a value, by the rules of a match: a pattern fits a value of its variant and
shape and binds names to the fields, and what the arm does looks names up among those bound.

* `ReadArm.written?` is the text that an arm writes for the texts of the fields;
* `ReadArm.source?` is the cause that an arm returns.
-/

namespace ErrorDerive

namespace Rust

/-- A value of a type: its variant with the values of the fields. -/
structure Instance (α : Type) where
  variant : String
  shape : Shape
  fields : List α

variable {α : Type}

/-- The names that a pattern binds, if it fits the value.  A name must not be bound twice. -/
def Pattern.bind? (value : Instance α) : Pattern → Option (List (String × α))
  | plain variant =>
    if variant = value.variant ∧ value.shape = .unit then some [] else none
  | ignoring variant =>
    if variant = value.variant ∧ value.shape = .tuple then some [] else none
  | binding variant names =>
    if variant = value.variant ∧ value.shape = .tuple ∧ names.length = value.fields.length ∧
      names.Nodup
    then some (names.zip value.fields)
    else none

/-- The text that is written when the names have the given texts. -/
def Reaction.written? (bound : List (String × String)) : Reaction → Option String
  | writeText text => some (String.ofList text)
  | writeFormat format arguments => do
    let parts ← FormatString.parse? format
    let values ← arguments.mapM fun name => bound.lookup name
    let text ← FormatString.fill? parts (values.map String.toList)
    return String.ofList text
  | _ => none

/-- The cause that is returned when the names have the given values. -/
def Reaction.source? (bound : List (String × α)) : Reaction → Option (Option α)
  | returnCause name => (bound.lookup name).map some
  | returnNone => some none
  | _ => none

def ReadArm.written? (arm : ReadArm) (value : Instance String) : Option String :=
  arm.pattern.bind? value >>= fun bound => arm.reaction.written? bound

def ReadArm.source? (arm : ReadArm) (value : Instance α) : Option (Option α) :=
  arm.pattern.bind? value >>= fun bound => arm.reaction.source? bound

/-- The variant that a pattern is about. -/
def Pattern.variant : Pattern → String
  | plain variant => variant
  | ignoring variant => variant
  | binding variant _ => variant

/-- A pattern fits no value of another variant. -/
theorem Pattern.variant_of_bind?
    {pattern : Pattern} {value : Instance α} {bound : List (String × α)}
    (fits : pattern.bind? value = some bound) : pattern.variant = value.variant := by
  cases pattern with
  | plain variant =>
      rw [bind?, Option.ite_none_right_eq_some] at fits
      exact fits.1.1
  | ignoring variant =>
      rw [bind?, Option.ite_none_right_eq_some] at fits
      exact fits.1.1
  | binding variant names =>
      rw [bind?, Option.ite_none_right_eq_some] at fits
      exact fits.1.1

/-! ## Bound names -/

theorem lookup_zip_of_cons
    {first name : String} (different : name ≠ first) (names : List String)
    (value : α) (values : List α) :
    ((first :: names).zip (value :: values)).lookup name = (names.zip values).lookup name := by
  rw [List.zip_cons_cons, List.lookup_cons, beq_false_of_ne different]

private theorem mapM_congr_of_mem
    {β γ : Type} {items : List β} {first second : β → Option γ}
    (same : ∀ item ∈ items, first item = second item) :
    items.mapM first = items.mapM second := by
  induction items with
  | nil =>
      rfl
  | cons head tail inductionHypothesis =>
      rw [List.mapM_cons, List.mapM_cons, same head List.mem_cons_self,
        inductionHypothesis fun item member => same item (List.mem_cons_of_mem head member)]

/-- Names bound to values, looked up in order, give the values in order. -/
theorem mapM_lookup_zip
    {names : List String} (distinct : names.Nodup) {values : List α}
    (sameLength : names.length = values.length) :
    (names.mapM fun name => (names.zip values).lookup name) = some values := by
  induction names generalizing values with
  | nil =>
      cases values with
      | nil =>
          rfl
      | cons value others =>
          cases sameLength
  | cons first others inductionHypothesis =>
      cases values with
      | nil =>
          cases sameLength
      | cons value more =>
          obtain ⟨absent, othersDistinct⟩ := List.nodup_cons.mp distinct
          have head : ((first :: others).zip (value :: more)).lookup first = some value := by
            simp
          have tail : (others.mapM fun name =>
              ((first :: others).zip (value :: more)).lookup name) = some more := by
            rw [← inductionHypothesis othersDistinct (Nat.succ.inj sameLength)]
            apply mapM_congr_of_mem
            intro name member
            apply lookup_zip_of_cons
            intro same
            exact absent (same ▸ member)
          rw [List.mapM_cons, head, tail]
          rfl

end Rust

end ErrorDerive
