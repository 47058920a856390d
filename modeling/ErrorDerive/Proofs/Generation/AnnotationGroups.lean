import ErrorDerive.Proofs.Generation.Decision
import Mathlib.Data.List.Nodup
import Mathlib.Data.List.Perm.Basic

/-!
# Groups of annotations

The annotations of a variant come in groups, which are read one after the other into one record.
What is read depends on the annotations alone: however they are put into groups, and in whichever
order, they are accepted or refused alike and give the same record.  Only which of several flaws is
met first may differ.

* `flattenAnnotations_eq_foldlM_addGroup` puts the reading as a loop over groups;
* `EntriesSuit.perm` and `EntriesSuit.ofEntries_eq_of_perm` forget the order;
* `VariantDeclaration.flattenAnnotations_regrouped` is the result.
-/

namespace ErrorDerive

theorem Annotations.eq_of_value?_eq {left right : Annotations}
    (same : ∀ key, left.value? key = right.value? key) : left = right := by
  have formatStr : left.formatStr = right.formatStr :=
    Option.map_injective (fun _ _ => Value.text.inj) (same .formatStr)
  have makeFrom : left.makeFrom = right.makeFrom :=
    Option.map_injective (fun _ _ => Value.bool.inj) (same .makeFrom)
  have err : left.err = right.err :=
    Option.map_injective (fun _ _ => Value.bool.inj) (same .err)
  cases left
  cases right
  simp_all only

/-! ## The order of annotations -/

section

variable {entries other : AnnotationGroup}

theorem EntriesSuit.value?_eq_some_iff (suit : EntriesSuit entries) {key : AnnotationKey}
    {value : Value} :
    (Annotations.ofEntries entries).value? key = some value ↔ (key.name, value) ∈ entries := by
  rw [suit.value?_ofEntries]
  constructor
  · intro found
    obtain ⟨before, after, split, _⟩ := List.lookup_eq_some_iff.mp found
    rw [split]
    exact List.mem_append_right before List.mem_cons_self
  · exact suit.lookup_of_mem

theorem EntriesSuit.perm (suit : EntriesSuit entries) (rearranged : entries.Perm other) :
    EntriesSuit other where
  known := by
    intro entry member
    exact suit.known entry (rearranged.mem_iff.mpr member)
  distinct := (rearranged.map Prod.fst).nodup_iff.mp suit.distinct

theorem EntriesSuit.ofEntries_eq_of_perm (suit : EntriesSuit entries)
    (rearranged : entries.Perm other) :
    Annotations.ofEntries entries = Annotations.ofEntries other := by
  apply Annotations.eq_of_value?_eq
  intro key
  apply Option.ext
  intro value
  rw [suit.value?_eq_some_iff, (suit.perm rearranged).value?_eq_some_iff, rearranged.mem_iff]

/-- What keeps annotations from standing together: a key that is unknown, a key that occurs twice,
or a value of the wrong kind. -/
theorem not_entriesSuit_iff :
    ¬ EntriesSuit entries ↔
      (∃ entry ∈ entries, ∀ key, AnnotationKey.name key ≠ entry.1) ∨
      (∃ name, 2 ≤ (entries.map Prod.fst).count name) ∨
      ∃ entry ∈ entries, ∃ key, AnnotationKey.name key = entry.1 ∧ ¬ key.Takes entry.2 := by
  constructor
  · intro unsuited
    by_cases distinct : (entries.map Prod.fst).Nodup
    · have unfit : ∃ entry ∈ entries,
          ¬ ∃ key, AnnotationKey.name key = entry.1 ∧ key.Takes entry.2 := by
        by_contra fit
        push Not at fit
        exact unsuited ⟨fit, distinct⟩
      obtain ⟨entry, member, unfit⟩ := unfit
      by_cases known : ∃ key, AnnotationKey.name key = entry.1
      · obtain ⟨key, named⟩ := known
        exact Or.inr (Or.inr ⟨entry, member, key, named, fun takes => unfit ⟨key, named, takes⟩⟩)
      · exact Or.inl ⟨entry, member, fun key named => known ⟨key, named⟩⟩
    · rw [List.nodup_iff_count_le_one, not_forall] at distinct
      obtain ⟨name, repeated⟩ := distinct
      exact Or.inr (Or.inl ⟨name, Nat.not_le.mp repeated⟩)
  · intro flawed suit
    rcases flawed with ⟨entry, member, unknown⟩ | ⟨name, repeated⟩ |
      ⟨entry, member, key, named, mistyped⟩
    · obtain ⟨key, named, _⟩ := suit.known entry member
      exact unknown key named
    · have atMostOnce := List.nodup_iff_count_le_one.mp suit.distinct name
      omega
    · obtain ⟨found, sameName, takes⟩ := suit.known entry member
      rw [AnnotationKey.name_injective (sameName.trans named.symm)] at takes
      exact mistyped takes

end

/-! ## Groups -/

/-- Adds the annotations of one group to a record. -/
def addGroup (variant : String) (annotations : Annotations) (group : AnnotationGroup) :
    Except Fault Annotations :=
  group.foldlM (addEntry variant) annotations

namespace VariantDeclaration

/-- One group after the other is read into the record. -/
theorem flattenAnnotations_eq_foldlM_addGroup (declared : VariantDeclaration) :
    declared.flattenAnnotations = declared.annotations.foldlM (addGroup declared.name) {} := by
  have eachStart : ∀ (groups : List AnnotationGroup) (start : Annotations),
      groups.flatten.foldlM (addEntry declared.name) start =
        groups.foldlM (addGroup declared.name) start := by
    intro groups
    induction groups with
    | nil =>
        intro start
        rfl
    | cons group rest inductionHypothesis =>
        intro start
        rw [List.flatten_cons, List.foldlM_append, List.foldlM_cons]
        exact congrArg _ (funext inductionHypothesis)
  exact eachStart declared.annotations {}

/-- However the same annotations are put into groups, the variant is given the same record of them,
or none.  The record holds exactly the annotations.  There is none exactly if a key is unknown,
occurs twice or has a value of the wrong kind, and the fault then carries the name of the variant.
-/
theorem flattenAnnotations_regrouped (declared : VariantDeclaration) (groups : List AnnotationGroup)
    (rearranged : groups.flatten.Perm declared.annotations.flatten) :
    (∀ annotations, { declared with annotations := groups }.flattenAnnotations = .ok annotations ↔
      declared.flattenAnnotations = .ok annotations) ∧
    (∀ annotations, declared.flattenAnnotations = .ok annotations → ∀ key,
      (annotations.has key = true ↔ key.name ∈ declared.annotations.flatten.map Prod.fst) ∧
      ∀ value, annotations.value? key = some value ↔
        (key.name, value) ∈ declared.annotations.flatten) ∧
    ((∃ cause, declared.flattenAnnotations = .error (.malformed cause declared.name)) ↔
      (∃ entry ∈ declared.annotations.flatten, ∀ key, AnnotationKey.name key ≠ entry.1) ∨
      (∃ name, 2 ≤ (declared.annotations.flatten.map Prod.fst).count name) ∨
      ∃ entry ∈ declared.annotations.flatten, ∃ key,
        AnnotationKey.name key = entry.1 ∧ ¬ key.Takes entry.2) ∧
    ∀ fault, declared.flattenAnnotations = .error fault →
      ∃ cause, fault = .malformed cause declared.name := by
  have judgement := declared.judges_flattenAnnotations
  have judgementRegrouped :=
    { declared with annotations := groups }.judges_flattenAnnotations
  refine ⟨?_, ?_, ?_, ?_⟩
  · intro annotations
    rw [judgement.eq_ok_iff, judgementRegrouped.eq_ok_iff]
    constructor
    · rintro ⟨suit, rfl⟩
      exact ⟨suit.perm rearranged, suit.ofEntries_eq_of_perm rearranged⟩
    · rintro ⟨suit, rfl⟩
      exact ⟨suit.perm rearranged.symm, suit.ofEntries_eq_of_perm rearranged.symm⟩
  · intro annotations flattened key
    obtain ⟨suit, rfl⟩ := judgement.eq_ok_iff.mp flattened
    exact ⟨suit.has_ofEntries key, fun _ => suit.value?_eq_some_iff⟩
  · rw [← not_entriesSuit_iff]
    constructor
    · rintro ⟨cause, failed⟩ suit
      rw [judgement.succeeds suit] at failed
      cases failed
    · intro unsuited
      obtain ⟨answer, cause, flaw, rfl⟩ := judgement.exists_flaw_iff.mpr unsuited
      exact ⟨cause, judgement.fails _ ⟨cause, flaw, rfl⟩⟩
  · intro fault failed
    obtain ⟨cause, _, same⟩ := judgement.eq_error_iff.mp failed
    exact ⟨cause, same⟩

/-- A variant with a false annotation and an empty one, in a group each. -/
def annotatedVariant : VariantDeclaration :=
  ⟨"Wrapped", none, ["io::Error"], [[("err", .bool false)], [("format_str", .text "")]]⟩

/-- In one group after two empty ones, and the other way round, the annotations give the same
record. -/
theorem flattenAnnotations_regrouped_annotatedVariant :
    [[], [], [("format_str", Value.text ""), ("err", .bool false)]].flatten.Perm
      annotatedVariant.annotations.flatten ∧
    { annotatedVariant with
        annotations := [[], [], [("format_str", .text ""), ("err", .bool false)]]
      }.flattenAnnotations = .ok { formatStr := some "", err := some false } := by
  have rearranged : [[], [], [("format_str", Value.text ""), ("err", .bool false)]].flatten.Perm
      annotatedVariant.annotations.flatten := by
    exact List.Perm.swap ("err", Value.bool false) ("format_str", Value.text "") []
  have flattened : annotatedVariant.flattenAnnotations =
      .ok { formatStr := some "", err := some false } := by
    rfl
  exact ⟨rearranged,
    ((annotatedVariant.flattenAnnotations_regrouped _ rearranged).1 _).mpr flattened⟩

end VariantDeclaration

end ErrorDerive
