import ErrorDerive.ConfigCheck
import ErrorDerive.Proofs.Generation.Branches
import ErrorDerive.Proofs.Text.Separators

/-!
# Names that never match

The last segment of a path holds neither of the two separators.  So a name that holds one is equal
to no last segment, and settings in `last_segment` mode judge every type reference alike with such
names and without them.

* `generate_eq_of_sameJudgement` says that a generation depends on the names of error types and on
  the mode only through these judgements;
* `generate_withoutNames` is the result for generations;
* `Variant.err_of_isCause` is about settings that name no error type at all.
-/

namespace ErrorDerive

variable {settings other : Settings}

/-! ## The last segment of a path -/

theorem contains_eq_false_iff {needle text : String} :
    Text.contains needle text = false ↔ ¬ needle.toList <:+: text.toList := by
  rw [Text.contains, Bool.eq_false_iff, Ne, Text.containsWord_iff_infix]

theorem not_infix_lastSegment (path : List Char) :
    ¬ [':', ':'] <:+: lastSegment path ∧ ¬ ['.'] <:+: lastSegment path := by
  have stripped := Text.infix_stripWord (Text.afterLast ['.'] (Text.afterLast [':', ':'] path))
  constructor
  · intro occurs
    have behindStop := (Text.suffix_afterLast ['.'] (Text.afterLast [':', ':'] path)).isInfix
    exact Text.not_infix_afterLast (by simp) path (occurs.trans (stripped.trans behindStop))
  · intro occurs
    exact Text.not_infix_afterLast (by simp) _ (occurs.trans stripped)

/-- Whether a name holds a separator of paths. -/
def IsQualified (name : String) : Prop :=
  Text.contains "::" name = true ∨ Text.contains "." name = true

theorem mem_qualifiedNames_iff {name : String} :
    name ∈ qualifiedNames settings ↔ name ∈ settings.errorTypeNames ∧ IsQualified name := by
  rw [qualifiedNames, List.mem_filter, Bool.or_eq_true]
  rfl

theorem not_isQualified_lastSegment (path : List Char) :
    ¬ IsQualified (String.ofList (lastSegment path)) := by
  obtain ⟨noColons, noStop⟩ := not_infix_lastSegment path
  have withoutColons : Text.contains "::" (String.ofList (lastSegment path)) = false := by
    rw [contains_eq_false_iff]
    show ¬ [':', ':'] <:+: (String.ofList (lastSegment path)).toList
    rwa [String.toList_ofList]
  have withoutStop : Text.contains "." (String.ofList (lastSegment path)) = false := by
    rw [contains_eq_false_iff]
    show ¬ ['.'] <:+: (String.ofList (lastSegment path)).toList
    rwa [String.toList_ofList]
  rw [IsQualified, withoutColons, withoutStop]
  simp

/-! ## Judgements without useless names -/

/-- The names that a check lists because they never match. -/
def Settings.uselessNames (settings : Settings) : List String :=
  if settings.errorMatch = .lastSegment then qualifiedNames settings else []

/-- Settings without some of the names of error types. -/
def Settings.withoutNames (settings : Settings) (names : List String) : Settings :=
  { settings with errorTypeNames := settings.errorTypeNames.filter (!names.contains ·) }

theorem contains_withoutNames {names : List String} {name : String} (kept : name ∉ names) :
    (settings.withoutNames names).errorTypeNames.contains name =
      settings.errorTypeNames.contains name := by
  have keeps : (!names.contains name) = true := by
    rw [Bool.not_eq_true', ← Bool.not_eq_true, List.contains_iff_mem]
    exact kept
  rw [Bool.eq_iff_iff, List.contains_iff_mem, List.contains_iff_mem, Settings.withoutNames,
    List.mem_filter]
  exact and_iff_left keeps

theorem isErrorLike_withoutNames (settings : Settings) (typeRef : String) :
    isErrorLike (settings.withoutNames settings.uselessNames) typeRef =
      isErrorLike settings typeRef := by
  have sameMode : (settings.withoutNames settings.uselessNames).errorMatch = settings.errorMatch :=
    rfl
  unfold isErrorLike
  dsimp only
  rw [sameMode]
  cases mode : settings.errorMatch with
  | fullPath =>
      have noName : settings.uselessNames = [] := by
        rw [Settings.uselessNames, mode]
        rfl
      dsimp only
      rw [contains_withoutNames (by simp [noName])]
  | lastSegment =>
      have kept : String.ofList (lastSegment (baseOf typeRef)) ∉ settings.uselessNames := by
        rw [Settings.uselessNames, if_pos mode, mem_qualifiedNames_iff]
        exact fun listed => not_isQualified_lastSegment _ listed.2
      dsimp only
      rw [contains_withoutNames kept]

/-! ## Generations with the same judgements -/

namespace Variant

theorem resolve_eq_of_sameJudgement
    (sameJudgement : ∀ typeRef, isErrorLike settings typeRef = isErrorLike other typeRef)
    (sameDelimiter : settings.fieldDelimiter = other.fieldDelimiter) (variant : Variant) :
    variant.resolve settings = variant.resolve other := by
  have sameCause : variant.resolveCause settings = variant.resolveCause other := by
    unfold resolveCause
    rw [variant.infersCause_congr sameJudgement]
  have sameDisplay : variant.resolveDisplay settings = variant.resolveDisplay other := by
    unfold resolveDisplay defaultDisplay
    rw [sameDelimiter]
  rw [resolve, resolve, sameCause, sameDisplay]

end Variant

theorem generate_eq_of_sameJudgement
    (sameJudgement : ∀ typeRef, isErrorLike settings typeRef = isErrorLike other typeRef)
    (sameDelimiter : settings.fieldDelimiter = other.fieldDelimiter)
    (declaration : TypeDeclaration) :
    generate settings declaration = generate other declaration := by
  have sameDecisions : Variant.resolve settings = Variant.resolve other :=
    funext (Variant.resolve_eq_of_sameJudgement sameJudgement sameDelimiter)
  unfold generate resolvePolicies
  rw [sameDecisions]

theorem generate_withoutNames (settings : Settings) (declaration : TypeDeclaration) :
    generate (settings.withoutNames settings.uselessNames) declaration =
      generate settings declaration :=
  generate_eq_of_sameJudgement (isErrorLike_withoutNames settings) rfl declaration

/-! ## No names at all -/

theorem isErrorLike_of_noNames (noNames : settings.errorTypeNames = []) (typeRef : String) :
    isErrorLike settings typeRef = false := by
  unfold isErrorLike
  rw [noNames]
  cases settings.errorMatch <;> simp

/-- Where no error type is named, only an annotation makes a variant wrap a cause. -/
theorem Variant.err_of_isCause {variant : Variant} {policy : Policy}
    (noNames : settings.errorTypeNames = []) (resolved : variant.resolve settings = .ok policy)
    (isCause : policy.isCause = true) : variant.annotations.err = some true := by
  obtain ⟨_, rfl⟩ := (variant.judges_resolve settings).eq_ok_iff.mp resolved
  have neverInferred : variant.infersCause settings = false := by
    unfold infersCause
    simp only [isErrorLike_of_noNames noNames]
    cases variant.soleField? <;> rfl
  have wraps : variant.annotations.err.getD (variant.infersCause settings) = true := isCause
  rw [neverInferred] at wraps
  cases annotated : variant.annotations.err with
  | none =>
      rw [annotated] at wraps
      cases wraps
  | some flag =>
      rw [annotated, Option.getD_some] at wraps
      rw [wraps]

end ErrorDerive
