import ErrorDerive.Generation.Body
import ErrorDerive.Proofs.Judgement
import ErrorDerive.Text.Identifier
import Mathlib.Data.List.Nodup

/-!
# Bodies of a list of policies

The display and source bodies always cover their policies.  The names that a display branch binds
are identifiers and differ.  Conversions are judged by two conditions: every policy that asks for
one has a sole field, and no two start from one source type.
-/

namespace ErrorDerive

/-! ## Coverage -/

theorem uncovered_of_names (policies : List Policy) :
    uncovered policies (policies.map Policy.name) = [] := by
  rw [uncovered, List.filter_eq_nil_iff]
  intro name member
  simpa using member

theorem checkCoverage_of_names (body : String) (policies : List Policy) :
    checkCoverage body policies (policies.map Policy.name) = .ok () := by
  simp [checkCoverage, uncovered_of_names]

theorem displayBody_eq (policies : List Policy) :
    displayBody policies = .ok (policies.map Policy.displayBranch) := by
  have names : (policies.map Policy.displayBranch).map DisplayBranch.variant =
      policies.map Policy.name := by
    rw [List.map_map]
    rfl
  simp only [displayBody, names, checkCoverage_of_names]
  rfl

theorem sourceBody_eq (policies : List Policy) :
    sourceBody policies = .ok (policies.map Policy.sourceBranch) := by
  have names : (policies.map Policy.sourceBranch).map SourceBranch.variant =
      policies.map Policy.name := by
    rw [List.map_map]
    rfl
  simp only [sourceBody, names, checkCoverage_of_names]
  rfl

/-! ## Names of fields -/

/-- The names `f0`, `f1` and so on, as many as given. -/
def fieldNames (count : Nat) : List String :=
  (List.range count).map fun index => "f" ++ toString index

theorem length_fieldNames (count : Nat) : (fieldNames count).length = count := by
  simp [fieldNames]

theorem fieldName_injective {left right : Nat}
    (same : "f" ++ toString left = "f" ++ toString right) : left = right := by
  have digits : Nat.toDigits 10 left = Nat.toDigits 10 right := by
    have letters := congrArg String.toList same
    simp only [String.toList_append, List.append_cancel_left_eq, Nat.toString_eq_repr,
      Nat.repr_eq_ofList_toDigits, String.toList_ofList] at letters
    exact letters
  rw [← Nat.ofDigitChars_toDigits (by decide : 1 < 10) (by decide) (n := left), digits,
    Nat.ofDigitChars_toDigits (by decide) (by decide)]

theorem nodup_fieldNames (count : Nat) : (fieldNames count).Nodup := by
  rw [fieldNames, List.Nodup, List.pairwise_map]
  apply List.nodup_range.imp
  intro left right different same
  exact different (fieldName_injective same)

private theorem continuesIdentifier_of_isDigit
    {letter : Char} (isDigit : letter.isDigit = true) : Text.continuesIdentifier letter = true := by
  have all : ∀ code < 58, 48 ≤ code → Text.continuesIdentifier (Char.ofNat code) = true := by
    decide
  simp only [Char.isDigit, Bool.and_eq_true, decide_eq_true_eq] at isDigit
  have low : 48 ≤ letter.toNat := UInt32.le_iff_toNat_le.mp isDigit.1
  have high : letter.toNat ≤ 57 := UInt32.le_iff_toNat_le.mp isDigit.2
  rw [← Char.ofNat_toNat letter]
  exact all letter.toNat (by omega) low

theorem isIdentifier_of_mem_fieldNames
    {count : Nat} {name : String} (member : name ∈ fieldNames count) :
    Text.isIdentifier name = true := by
  obtain ⟨index, _, rfl⟩ := List.mem_map.mp member
  have digits : ∀ letter ∈ Nat.toDigits 10 index, Text.continuesIdentifier letter = true :=
    fun letter isMember => continuesIdentifier_of_isDigit
      (Nat.isDigit_of_mem_toDigits (by decide) (by decide) isMember)
  have first : Text.startsIdentifier 'f' = true := by
    decide
  rw [Text.isIdentifier, String.toList_append, Nat.toString_eq_repr, Nat.repr_eq_ofList_toDigits,
    String.toList_ofList (l := Nat.toDigits 10 index)]
  change (Text.startsIdentifier 'f' && (Nat.toDigits 10 index).all Text.continuesIdentifier) = true
  rw [first, Bool.true_and, List.all_eq_true]
  exact digits

/-! ## Conversions -/

/-- The conversion from the first field of a variant. -/
def Policy.fromFirstField (policy : Policy) : Conversion where
  sourceType := (policy.variant.fields.head?.map Field.typeRef).getD ""
  variant := policy.name

/-- The source type of a conversion, blanks apart. -/
def Conversion.source (conversion : Conversion) : String :=
  Text.removeBlanks conversion.sourceType

theorem judges_conversion (policy : Policy) :
    Judges policy.conversion (policy.variant.fields.length = 1) policy.fromFirstField
      (fun answer => policy.variant.fields.length ≠ 1 ∧
        answer = .malformed .conversionWithoutSoleField policy.name) := by
  unfold Policy.conversion Policy.fromFirstField Variant.soleField?
  cases fields : policy.variant.fields with
  | nil =>
      exact ⟨by simp, by simp, by simp⟩
  | cons first rest =>
      cases rest with
      | nil =>
          exact ⟨by simp, by simp, by simp⟩
      | cons second others =>
          exact ⟨by simp, by simp, by simp⟩

theorem length_competitors (all : List Conversion) (conversion : Conversion) :
    (competitors all conversion).length = (all.map Conversion.source).count conversion.source := by
  rw [competitors, ← List.countP_eq_length_filter, List.count, List.countP_map]
  apply List.countP_congr
  intro other _
  simp only [Conversion.sameSource, Conversion.source, Function.comp_apply, beq_iff_eq]
  exact eq_comm

/-- No conversion conflicts with another exactly if all source types differ. -/
theorem firstConflict?_eq_none_iff (all : List Conversion) :
    firstConflict? all = none ↔ (all.map Conversion.source).Nodup := by
  rw [firstConflict?, List.find?_eq_none, List.nodup_iff_count_le_one]
  constructor
  · intro alone source
    by_cases member : source ∈ all.map Conversion.source
    · obtain ⟨conversion, isMember, rfl⟩ := List.mem_map.mp member
      have bound := alone conversion isMember
      rw [decide_eq_true_eq, length_competitors] at bound
      omega
    · rw [List.count_eq_zero_of_not_mem member]
      exact Nat.zero_le 1
  · intro distinct conversion _
    have bound := distinct conversion.source
    rw [decide_eq_true_eq, length_competitors]
    omega

/-- The fault of conversions of which some start from one source type. -/
def ConflictFault (all : List Conversion) (answer : Fault) : Prop :=
  ∃ conflict, firstConflict? all = some conflict ∧
    answer = .conflictingConversion conflict.sourceType
      ((competitors all conflict).map Conversion.variant)

theorem judges_withoutConflict (all : List Conversion) :
    Judges
      (match firstConflict? all with
        | some conflict => Except.error (.conflictingConversion conflict.sourceType
            ((competitors all conflict).map Conversion.variant))
        | none => .ok all)
      (all.map Conversion.source).Nodup all (ConflictFault all) := by
  rw [← firstConflict?_eq_none_iff]
  unfold ConflictFault
  cases firstConflict? all with
  | none =>
      exact ⟨by simp, by simp, by simp⟩
  | some conflict =>
      exact ⟨by simp, by simp, by simp⟩

theorem judges_conversions (policies : List Policy) :
    Judges (conversions policies)
      ((∀ policy ∈ policies.filter Policy.makeFrom, policy.variant.fields.length = 1) ∧
        (((policies.filter Policy.makeFrom).map Policy.fromFirstField).map
          Conversion.source).Nodup)
      ((policies.filter Policy.makeFrom).map Policy.fromFirstField)
      (fun answer =>
        Judges.FirstFlaw (fun policy => policy.variant.fields.length = 1)
          (fun policy answer => policy.variant.fields.length ≠ 1 ∧
            answer = .malformed .conversionWithoutSoleField policy.name)
          (policies.filter Policy.makeFrom) answer ∨
        (∀ policy ∈ policies.filter Policy.makeFrom, policy.variant.fields.length = 1) ∧
          ConflictFault ((policies.filter Policy.makeFrom).map Policy.fromFirstField) answer) :=
  (Judges.mapM judges_conversion (policies.filter Policy.makeFrom)).bind _ fun _ =>
    judges_withoutConflict _

end ErrorDerive
