import ErrorDerive.Proofs.Generation.Comparison

/-!
# How far a setting reaches

One declaration is generated under two settings, and whatever differs is traced back to what differs
between the settings.

* The delimiter reaches no fault and no decision.  It shows in the displayed text of variants with
  at least two fields and no text of their own (`Variant.ShowsDelimiter`), and nowhere else.
* The names of error types and the way they are matched reach no malformation and no display.  They
  show in the decisions about variants with one field and without an annotation about the cause
  (`Variant.LeavesCauseOpen`), and thereby in conflicts.
-/

namespace ErrorDerive

variable {settings other : Settings}

/-! ## What the delimiter reaches -/

/-- Whether the display of a variant has the delimiter in it: between two fields, if no text is
given. -/
def Variant.ShowsDelimiter (variant : Variant) : Prop :=
  2 ≤ variant.fields.length ∧ variant.annotations.formatStr = none

/-- A display of the same kind with an empty text. -/
def Display.withoutText : Display → Display
  | .literal _ => .literal ""
  | .template _ => .template ""

def Policy.withoutText (policy : Policy) : Policy :=
  { policy with display := policy.display.withoutText }

def DisplayBranch.withoutText (branch : DisplayBranch) : DisplayBranch :=
  { branch with display := branch.display.withoutText }

/-- Generations that differ in nothing but the displayed texts of variants that show the
delimiter. -/
structure Generation.SameUpToDelimiter (left right : Generation) : Prop where
  typeName : left.typeName = right.typeName
  policies : left.policies.map Policy.withoutText = right.policies.map Policy.withoutText
  display : left.display.map DisplayBranch.withoutText = right.display.map DisplayBranch.withoutText
  source : left.source = right.source
  conversions : left.conversions = right.conversions
  texts : ∀ (place : Nat) (policy : Policy), left.policies[place]? = some policy →
    ¬ policy.variant.ShowsDelimiter →
    right.policies[place]? = some policy ∧ left.display[place]? = right.display[place]?

namespace Variant

theorem resolveDisplay_eq_of_not_showsDelimiter
    (settings other : Settings) {variant : Variant} (hides : ¬ variant.ShowsDelimiter) :
    variant.resolveDisplay settings = variant.resolveDisplay other := by
  unfold resolveDisplay
  cases annotated : variant.annotations.formatStr with
  | some text =>
      rfl
  | none =>
      have few : ¬ 2 ≤ variant.fields.length := fun many => hides ⟨many, annotated⟩
      unfold defaultDisplay
      cases fields : variant.fields with
      | nil =>
          rfl
      | cons first rest =>
          cases rest with
          | nil =>
              -- One placeholder has nothing to be separated from.
              rfl
          | cons second others =>
              rw [fields] at few
              exact absurd (by simp) few

theorem withoutText_resolveDisplay (settings other : Settings) (variant : Variant) :
    (variant.resolveDisplay settings).withoutText =
      (variant.resolveDisplay other).withoutText := by
  unfold resolveDisplay
  cases variant.annotations.formatStr with
  | some text =>
      rfl
  | none =>
      unfold defaultDisplay
      by_cases empty : variant.fields.isEmpty = true
      · rw [if_pos empty, if_pos empty]
      · rw [if_neg empty, if_neg empty]
        rfl

theorem wrapsCause_congr
    (sameNames : settings.errorTypeNames = other.errorTypeNames)
    (sameMatch : settings.errorMatch = other.errorMatch) (variant : Variant) :
    variant.wrapsCause settings = variant.wrapsCause other := by
  have sameJudgement : ∀ typeRef, isErrorLike settings typeRef = isErrorLike other typeRef := by
    intro typeRef
    unfold isErrorLike
    rw [sameNames, sameMatch]
  rw [wrapsCause, wrapsCause, variant.infersCause_congr sameJudgement]

/-- A conversion is made alike wherever the cause is seen alike. -/
theorem asksConversion_congr
    {variant : Variant} (sameCause : variant.wrapsCause settings = variant.wrapsCause other) :
    variant.asksConversion settings = variant.asksConversion other := by
  unfold asksConversion
  rw [sameCause]

end Variant

theorem Variant.policy_eq
    {variant : Variant}
    (sameDisplay : variant.resolveDisplay settings = variant.resolveDisplay other)
    (sameCause : variant.wrapsCause settings = variant.wrapsCause other) :
    variant.policy settings = variant.policy other := by
  unfold policy
  rw [sameDisplay, sameCause, asksConversion_congr sameCause]

section Delimiter

variable
    (sameNames : settings.errorTypeNames = other.errorTypeNames)
    (sameMatch : settings.errorMatch = other.errorMatch)

include sameNames sameMatch

theorem TypeDeclaration.agree_of_sameInference (declaration : TypeDeclaration) :
    List.Forall₂ Policy.Agrees (declaration.policies settings) (declaration.policies other) := by
  apply forall₂_map_map
  intro declared _
  have sameCause := declared.form.wrapsCause_congr sameNames sameMatch
  exact ⟨rfl, rfl, rfl, sameCause, Variant.asksConversion_congr sameCause⟩

theorem VariantDeclaration.withoutText_policy (declared : VariantDeclaration) :
    (declared.policy settings).withoutText = (declared.policy other).withoutText := by
  have sameCause := declared.form.wrapsCause_congr sameNames sameMatch
  have sameConversion := Variant.asksConversion_congr sameCause
  have sameKind := Variant.withoutText_resolveDisplay settings other declared.form
  show Policy.mk _ (declared.form.resolveDisplay settings).withoutText _ _ =
    Policy.mk _ (declared.form.resolveDisplay other).withoutText _ _
  rw [sameKind]
  exact congrArg₂ (Policy.mk _ _) sameCause sameConversion

theorem TypeDeclaration.sameUpToDelimiter_generation (declaration : TypeDeclaration) :
    (declaration.generation settings).SameUpToDelimiter (declaration.generation other) := by
  have agree := declaration.agree_of_sameInference sameNames sameMatch
  have samePolicies : (declaration.policies settings).map Policy.withoutText =
      (declaration.policies other).map Policy.withoutText := by
    unfold policies
    rw [List.map_map, List.map_map]
    apply List.map_congr_left
    intro declared _
    exact declared.withoutText_policy sameNames sameMatch
  have branches : ∀ policies : List Policy,
      (policies.map Policy.displayBranch).map DisplayBranch.withoutText =
        (policies.map Policy.withoutText).map Policy.displayBranch := by
    intro policies
    rw [List.map_map, List.map_map]
    rfl
  refine ⟨rfl, samePolicies, ?_, ?_, ?_, ?_⟩
  · show ((declaration.policies settings).map _).map _ = ((declaration.policies other).map _).map _
    rw [branches, branches, samePolicies]
  · exact map_eq_of_forall₂ agree fun _ _ agrees => agrees.sourceBranch
  · exact formConversions_eq_of_agree agree
  · intro place policy found hides
    have isPolicy : (declaration.policies settings)[place]? = some policy := found
    obtain ⟨declared, isDeclared, rfl⟩ :
        ∃ declared, declaration.variants[place]? = some declared ∧
          declared.policy settings = policy := by
      rw [policies, List.getElem?_map, Option.map_eq_some_iff] at isPolicy
      exact isPolicy
    have same : declared.policy settings = declared.policy other :=
      Variant.policy_eq (Variant.resolveDisplay_eq_of_not_showsDelimiter settings other hides)
        (declared.form.wrapsCause_congr sameNames sameMatch)
    have isOther : (declaration.policies other)[place]? = some (declared.policy settings) := by
      rw [policies, List.getElem?_map, isDeclared, same]
      rfl
    refine ⟨isOther, ?_⟩
    show ((declaration.policies settings).map _)[place]? =
      ((declaration.policies other).map _)[place]?
    rw [List.getElem?_map, List.getElem?_map, isPolicy, isOther]

/-- A generation that fails fails with the same fault. -/
theorem generate_eq_error_iff_of_sameInference (declaration : TypeDeclaration) (fault : Fault) :
    generate settings declaration = .error fault ↔ generate other declaration = .error fault := by
  have agree := declaration.agree_of_sameInference sameNames sameMatch
  have sameConversions := TypeDeclaration.formConversions_eq_of_agree agree
  rw [(judges_generate settings declaration).eq_error_iff,
    (judges_generate other declaration).eq_error_iff, sameConversions]

end Delimiter

/-! ## What the names of error types reach -/

/-- Whether nothing but the type of a variant's sole field decides if it is the cause. -/
def Variant.LeavesCauseOpen (variant : Variant) : Prop :=
  variant.fields.length = 1 ∧ variant.annotations.err = none

/-- Policies about one variant that display the same, and decide the same unless the cause is left
open. -/
structure Policy.SameUpToInference (left right : Policy) : Prop where
  variant : left.variant = right.variant
  display : left.display = right.display
  isCause : ¬ left.variant.LeavesCauseOpen → left.isCause = right.isCause
  makeFrom : ¬ left.variant.LeavesCauseOpen → left.makeFrom = right.makeFrom

theorem Variant.wrapsCause_eq_of_not_leavesCauseOpen
    (settings other : Settings) {variant : Variant} (closed : ¬ variant.LeavesCauseOpen) :
    variant.wrapsCause settings = variant.wrapsCause other := by
  unfold wrapsCause
  cases annotated : variant.annotations.err with
  | some flag =>
      rfl
  | none =>
      have notSole : variant.fields.length ≠ 1 := fun sole => closed ⟨sole, annotated⟩
      have neverInferred : ∀ given : Settings, variant.infersCause given = false := by
        intro given
        rw [Bool.eq_false_iff]
        exact fun infers => notSole (length_eq_one_of_infersCause infers)
      rw [neverInferred settings, neverInferred other]

section Inference

variable (sameDelimiter : settings.fieldDelimiter = other.fieldDelimiter)

include sameDelimiter

theorem TypeDeclaration.sameUpToInference_policies (declaration : TypeDeclaration) :
    List.Forall₂ Policy.SameUpToInference (declaration.policies settings)
      (declaration.policies other) := by
  apply forall₂_map_map
  intro declared _
  have sameCause : ¬ declared.form.LeavesCauseOpen →
      declared.form.wrapsCause settings = declared.form.wrapsCause other :=
    Variant.wrapsCause_eq_of_not_leavesCauseOpen settings other
  exact ⟨rfl, Variant.resolveDisplay_congr sameDelimiter rfl rfl rfl, sameCause,
    fun closed => Variant.asksConversion_congr (sameCause closed)⟩

theorem TypeDeclaration.display_generation_eq (declaration : TypeDeclaration) :
    (declaration.generation settings).display = (declaration.generation other).display := by
  apply map_eq_of_forall₂ (declaration.sameUpToInference_policies sameDelimiter)
  intro left right same
  unfold Policy.displayBranch Policy.bindings Policy.name
  rw [same.variant, same.display]

end Inference

/-- Which malformation is found, if any, is a matter of the declaration alone. -/
theorem generate_eq_malformed_iff (settings : Settings) (declaration : TypeDeclaration)
    (cause : Malformation) (variant : Option String) :
    generate settings declaration = .error (.malformed cause variant) ↔
      declaration.Blames (.malformed cause variant) := by
  rw [(judges_generate settings declaration).eq_error_iff]
  apply or_iff_left
  intro conflict
  obtain ⟨_, first, _, impossible⟩ := conflict
  cases impossible

/-- What a setting reaches.  Settings with different delimiters give the same fault, or generations
that differ only in the texts that show the delimiter.  Settings that infer causes differently find
the same malformation or none, and generations that display the same and decide the same wherever
the cause is not left open. -/
theorem generate_settingsReach (settings other : Settings) (declaration : TypeDeclaration) :
    (settings.errorTypeNames = other.errorTypeNames → settings.errorMatch = other.errorMatch →
      (∀ fault, generate settings declaration = .error fault ↔
        generate other declaration = .error fault) ∧
      ∀ left right, generate settings declaration = .ok left →
        generate other declaration = .ok right → left.SameUpToDelimiter right) ∧
    (settings.fieldDelimiter = other.fieldDelimiter →
      (∀ cause variant, generate settings declaration = .error (.malformed cause variant) ↔
        generate other declaration = .error (.malformed cause variant)) ∧
      ∀ left right, generate settings declaration = .ok left →
        generate other declaration = .ok right →
        left.display = right.display ∧
        List.Forall₂ Policy.SameUpToInference left.policies right.policies) := by
  constructor
  · intro sameNames sameMatch
    refine ⟨generate_eq_error_iff_of_sameInference sameNames sameMatch declaration, ?_⟩
    intro left right leftGenerated rightGenerated
    rw [(generation_of_generate leftGenerated).2, (generation_of_generate rightGenerated).2]
    exact declaration.sameUpToDelimiter_generation sameNames sameMatch
  · intro sameDelimiter
    constructor
    · intro cause variant
      rw [generate_eq_malformed_iff, generate_eq_malformed_iff]
    · intro left right leftGenerated rightGenerated
      rw [(generation_of_generate leftGenerated).2, (generation_of_generate rightGenerated).2]
      exact ⟨declaration.display_generation_eq sameDelimiter,
        declaration.sameUpToInference_policies sameDelimiter⟩

/-- A variant with two fields, and one whose sole field may be the cause. -/
def rangeType : TypeDeclaration :=
  ⟨"Fault", .enum, [⟨"Range", none, ["u32", "u32"], []⟩, ⟨"Io", none, ["io::Error"], []⟩]⟩

def commaDelimited : Settings := { fieldDelimiter := ", " }

def matchedWhole : Settings := { errorMatch := .fullPath }

/-- Another delimiter shows between the two fields; matching whole paths leaves the display alone
and loses the conversion. -/
theorem generate_settingsReach_rangeType :
    ∃ first delimited matched,
      generate {} rangeType = .ok first ∧ generate commaDelimited rangeType = .ok delimited ∧
      generate matchedWhole rangeType = .ok matched ∧
      first.SameUpToDelimiter delimited ∧ first.display ≠ delimited.display ∧
      first.display = matched.display ∧
      List.Forall₂ Policy.SameUpToInference first.policies matched.policies ∧
      first.conversions = [⟨"io::Error", "Io"⟩] ∧ matched.conversions = [] := by
  have generated : generate {} rangeType = .ok (rangeType.generation {}) := by
    rfl
  have delimited : generate commaDelimited rangeType =
      .ok (rangeType.generation commaDelimited) := by
    rfl
  have matched : generate matchedWhole rangeType = .ok (rangeType.generation matchedWhole) := by
    rfl
  have sameUpToDelimiter := ((generate_settingsReach {} commaDelimited rangeType).1 rfl rfl).2
    _ _ generated delimited
  have sameUpToInference := ((generate_settingsReach {} matchedWhole rangeType).2 rfl).2
    _ _ generated matched
  have textsDiffer : (rangeType.generation {}).display ≠
      (rangeType.generation commaDelimited).display := by
    decide
  exact ⟨_, _, _, generated, delimited, matched, sameUpToDelimiter, textsDiffer,
    sameUpToInference.1, sameUpToInference.2, rfl, rfl⟩

end ErrorDerive
