import ErrorDerive.Proofs.Generation.Branches
import ErrorDerive.Proofs.PairedRows
import ErrorDerive.Report
import ErrorDerive.Rust.Item

/-!
# Generations side by side

Two rows of policies compared pair by pair.  Policies that agree about name, shape, fields, cause
and conversion give the same source bodies and the same conversions; if they also display the same,
they give the same display bodies and the same rows of the decision table.

* `asked_sublist` follows the conversions of a row into one where no fewer are asked for;
* `TypeDeclaration.formConversions_eq_of_agree` carries this to the conversions of declarations, and
  with them to the faults of a generation;
* `Variant.resolveDisplay_congr` names all that a display depends on.
-/

namespace ErrorDerive

/-- Policies that decide the same for the same fields; what they display is left open. -/
structure Policy.Agrees (left right : Policy) : Prop where
  name : left.name = right.name
  shape : left.variant.shape = right.variant.shape
  fields : left.variant.fields = right.variant.fields
  isCause : left.isCause = right.isCause
  makeFrom : left.makeFrom = right.makeFrom

namespace Policy.Agrees

variable {left right : Policy}

theorem sourceBranch (agrees : left.Agrees right) : left.sourceBranch = right.sourceBranch := by
  unfold Policy.sourceBranch
  rw [agrees.name, agrees.shape, agrees.fields, agrees.isCause]

theorem fromFirstField (agrees : left.Agrees right) :
    left.fromFirstField = right.fromFirstField := by
  unfold Policy.fromFirstField
  rw [agrees.name, agrees.fields]

theorem displayBranch (agrees : left.Agrees right) (sameDisplay : left.display = right.display) :
    left.displayBranch = right.displayBranch := by
  unfold Policy.displayBranch Policy.bindings
  rw [agrees.name, agrees.shape, agrees.fields, sameDisplay]

theorem toRow (agrees : left.Agrees right) (sameDisplay : left.display = right.display) :
    left.toRow = right.toRow := by
  unfold Policy.toRow
  rw [agrees.name, agrees.fields, agrees.isCause, agrees.makeFrom, sameDisplay]

end Policy.Agrees

/-- The conversions asked for in a row are found again, in order, where none of them is given up. -/
theorem asked_sublist
    {related : Policy → Policy → Prop} {left right : List Policy}
    (pairs : List.Forall₂ related left right)
    (sameConversion : ∀ first second, related first second →
      first.fromFirstField = second.fromFirstField)
    (asksAgain : ∀ first second, related first second →
      first.makeFrom = true → second.makeFrom = true) :
    ((left.filter Policy.makeFrom).map Policy.fromFirstField).Sublist
      ((right.filter Policy.makeFrom).map Policy.fromFirstField) := by
  induction pairs with
  | nil =>
      exact List.Sublist.refl []
  | @cons first second _ _ pair _ inductionHypothesis =>
      rw [List.filter_cons, List.filter_cons]
      by_cases asks : first.makeFrom = true
      · have asksToo := asksAgain first second pair asks
        rw [if_pos asks, if_pos asksToo, List.map_cons, List.map_cons, sameConversion _ _ pair]
        exact inductionHypothesis.cons_cons _
      · rw [if_neg asks]
        by_cases asksNow : second.makeFrom = true
        · rw [if_pos asksNow, List.map_cons]
          exact inductionHypothesis.cons _
        · rw [if_neg asksNow]
          exact inductionHypothesis

theorem asked_eq_of_agree
    {left right : List Policy} (agree : List.Forall₂ Policy.Agrees left right) :
    (left.filter Policy.makeFrom).map Policy.fromFirstField =
      (right.filter Policy.makeFrom).map Policy.fromFirstField := by
  have reversed : List.Forall₂ (flip Policy.Agrees) right left := agree.flip
  have forth := asked_sublist agree (fun _ _ agrees => agrees.fromFirstField)
    (fun _ _ agrees asks => agrees.makeFrom ▸ asks)
  have back := asked_sublist reversed (fun _ _ agrees => agrees.fromFirstField.symm)
    (fun _ _ agrees asks => agrees.makeFrom.symm ▸ asks)
  exact forth.antisymm back

namespace TypeDeclaration

variable {settings other : Settings} {declaration changed : TypeDeclaration}

theorem formConversions_eq_of_agree
    (agree : List.Forall₂ Policy.Agrees (declaration.policies settings) (changed.policies other)) :
    declaration.formConversions settings = changed.formConversions other :=
  asked_eq_of_agree agree

/-- Between sound declarations, agreeing policies are free of conflicts on both sides or on none. -/
theorem Sound.unambiguous_of_agree
    (sound : declaration.Sound) (changedSound : changed.Sound)
    (agree : List.Forall₂ Policy.Agrees (declaration.policies settings) (changed.policies other))
    (unambiguous : declaration.Unambiguous settings) : changed.Unambiguous other := by
  have distinct := (sound.nodup_sources_iff settings).mpr unambiguous
  rw [formConversions_eq_of_agree agree] at distinct
  exact (changedSound.nodup_sources_iff other).mp distinct

end TypeDeclaration

/-- A display depends on the delimiter, the name, the number of fields and the annotated text. -/
theorem Variant.resolveDisplay_congr
    {settings other : Settings} {left right : Variant}
    (sameDelimiter : settings.fieldDelimiter = other.fieldDelimiter)
    (sameName : left.name = right.name) (sameFields : left.fields = right.fields)
    (sameText : left.annotations.formatStr = right.annotations.formatStr) :
    left.resolveDisplay settings = right.resolveDisplay other := by
  unfold resolveDisplay defaultDisplay
  rw [sameDelimiter, sameName, sameFields, sameText]

end ErrorDerive
