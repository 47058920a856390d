import ErrorDerive.Proofs.Generation.SettingsReach

/-!
# More names of error types

The same declaration under settings that name further error types.  A variant that is a cause stays
one, a conversion that is made is made again, and nothing else about a variant changes.  What is
added are conversions, so that a generation can only get lost by a conflict.

* `Policy.Within` compares a policy with its counterpart under more names;
* `generate_moreNames` is the result for whole declarations.
-/

namespace ErrorDerive

/-- Settings that differ at most in that the second names further error types. -/
structure Settings.NamesWithin (fewer more : Settings) : Prop where
  errorTypeNames : fewer.errorTypeNames ⊆ more.errorTypeNames
  errorMatch : fewer.errorMatch = more.errorMatch
  fieldDelimiter : fewer.fieldDelimiter = more.fieldDelimiter

/-- Policies about one variant that display the same, the second deciding for everything that the
first decides for. -/
structure Policy.Within (smaller larger : Policy) : Prop where
  variant : smaller.variant = larger.variant
  display : smaller.display = larger.display
  isCause : smaller.isCause = true → larger.isCause = true
  makeFrom : smaller.makeFrom = true → larger.makeFrom = true

variable {fewer more : Settings}

/-! ## Decisions -/

theorem isErrorLike_mono (within : fewer.NamesWithin more) {typeRef : String}
    (like : isErrorLike fewer typeRef = true) : isErrorLike more typeRef = true := by
  have grows : ∀ name : String, fewer.errorTypeNames.contains name = true →
      more.errorTypeNames.contains name = true := by
    intro name listed
    rw [List.contains_iff_mem] at listed ⊢
    exact within.errorTypeNames listed
  unfold isErrorLike at like ⊢
  rw [within.errorMatch] at like
  by_cases empty : (baseOf typeRef).isEmpty = true
  · rw [if_pos empty] at like
    cases like
  · rw [if_neg empty] at like ⊢
    cases mode : more.errorMatch with
    | fullPath =>
        rw [mode] at like
        exact grows _ like
    | lastSegment =>
        rw [mode] at like
        exact grows _ like

namespace Variant

variable {variant : Variant}

theorem wrapsCause_mono (within : fewer.NamesWithin more)
    (wraps : variant.wrapsCause fewer = true) : variant.wrapsCause more = true := by
  unfold wrapsCause at wraps ⊢
  cases annotated : variant.annotations.err with
  | some flag =>
      rw [annotated, Option.getD_some] at wraps
      rw [Option.getD_some]
      exact wraps
  | none =>
      rw [annotated, Option.getD_none] at wraps
      obtain ⟨field, sole, like⟩ := (Option.any_eq_true _ _).mp wraps
      exact (Option.any_eq_true _ _).mpr ⟨field, sole, isErrorLike_mono within like⟩

theorem asksConversion_mono (within : fewer.NamesWithin more)
    (asks : variant.asksConversion fewer = true) : variant.asksConversion more = true := by
  unfold asksConversion at asks ⊢
  cases annotated : variant.annotations.makeFrom with
  | some flag =>
      rw [annotated, Option.getD_some] at asks
      rw [Option.getD_some]
      exact asks
  | none =>
      rw [annotated, Option.getD_none, Bool.and_eq_true] at asks
      rw [Option.getD_none, Bool.and_eq_true]
      exact ⟨asks.1, wrapsCause_mono within asks.2⟩

theorem within_policy (within : fewer.NamesWithin more) (variant : Variant) :
    (variant.policy fewer).Within (variant.policy more) where
  variant := rfl
  display := resolveDisplay_congr within.fieldDelimiter rfl rfl rfl
  isCause := wrapsCause_mono within
  makeFrom := asksConversion_mono within

end Variant

/-- Decisions that can be taken with fewer names can be taken with more. -/
theorem exists_resolvePolicies (within : fewer.NamesWithin more)
    {variants : List Variant} {smaller : List Policy}
    (resolved : resolvePolicies fewer variants = .ok smaller) :
    ∃ larger, resolvePolicies more variants = .ok larger ∧
      List.Forall₂ Policy.Within smaller larger := by
  obtain ⟨eligible, rfl⟩ := (judges_resolvePolicies fewer variants).eq_ok_iff.mp resolved
  refine ⟨_, (judges_resolvePolicies more variants).succeeds eligible, ?_⟩
  exact forall₂_map_map fun variant _ => variant.within_policy within

/-! ## Conversions -/

theorem asked_sublist_of_within
    {smaller larger : List Policy} (pairs : List.Forall₂ Policy.Within smaller larger) :
    ((smaller.filter Policy.makeFrom).map Policy.fromFirstField).Sublist
      ((larger.filter Policy.makeFrom).map Policy.fromFirstField) := by
  have sameConversion : ∀ first second : Policy, first.Within second →
      first.fromFirstField = second.fromFirstField := by
    intro first second within
    unfold Policy.fromFirstField Policy.name
    rw [within.variant]
  exact asked_sublist pairs sameConversion fun _ _ within => within.makeFrom

namespace TypeDeclaration

variable {declaration : TypeDeclaration}

theorem within_policies (within : fewer.NamesWithin more) (declaration : TypeDeclaration) :
    List.Forall₂ Policy.Within (declaration.policies fewer) (declaration.policies more) :=
  forall₂_map_map fun declared _ => declared.form.within_policy within

/-- With fewer names there are fewer conversions, and no conflict that was not there before. -/
theorem Unambiguous.of_within (within : fewer.NamesWithin more)
    (unambiguous : declaration.Unambiguous more) : declaration.Unambiguous fewer := by
  apply List.Pairwise.imp _ unambiguous
  intro left right apart leftAsks rightAsks
  exact apart (Variant.asksConversion_mono within leftAsks)
    (Variant.asksConversion_mono within rightAsks)

end TypeDeclaration

/-- More names of error types.  What can be generated with more names can be generated with fewer,
with the same display, no other causes and conversions, and the conversions in the same order; and
what can be generated with fewer names only fails by a conflict.  The decisions, taken for
themselves, are never lost. -/
theorem generate_moreNames {fewer more : Settings} (within : fewer.NamesWithin more)
    (declaration : TypeDeclaration) :
    (∀ larger, generate more declaration = .ok larger →
      ∃ smaller, generate fewer declaration = .ok smaller ∧
        List.Forall₂ Policy.Within smaller.policies larger.policies ∧
        smaller.conversions.Sublist larger.conversions ∧
        smaller.display = larger.display) ∧
    (∀ smaller fault, generate fewer declaration = .ok smaller →
      generate more declaration = .error fault →
      ∃ sourceType variants, fault = .conflictingConversion sourceType variants) ∧
    ∀ variants smaller, resolvePolicies fewer variants = .ok smaller →
      ∃ larger, resolvePolicies more variants = .ok larger ∧
        List.Forall₂ Policy.Within smaller larger := by
  refine ⟨?_, ?_, fun _ _ => exists_resolvePolicies within⟩
  · intro larger generated
    obtain ⟨⟨sound, unambiguous⟩, rfl⟩ :=
      (judges_generate more declaration).eq_ok_iff.mp generated
    have success := (judges_generate fewer declaration).succeeds
      ⟨sound, unambiguous.of_within within⟩
    have pairs := declaration.within_policies within
    exact ⟨_, success, pairs, asked_sublist_of_within pairs,
      declaration.display_generation_eq within.fieldDelimiter⟩
  · intro smaller fault generated failure
    have sound := (generation_of_generate generated).1
    rcases (judges_generate more declaration).eq_error_iff.mp failure with blame | conflict
    · exact absurd sound blame.not_sound
    · obtain ⟨_, first, _, rfl⟩ := conflict
      exact ⟨_, _, rfl⟩

/-- A type whose variants `Again` and `Late` hold one type.  `Late` asks for its conversion anyway,
`Again` only where that type is named as an error type. -/
def sharedSourceType : TypeDeclaration :=
  ⟨"Fault", .enum, [⟨"Io", none, ["io::Error"], []⟩, ⟨"Text", none, ["Utf8Error"], []⟩,
    ⟨"Again", none, ["Broken"], []⟩, ⟨"Late", none, [" Broken "], [[("make_from", .bool true)]]⟩]⟩

def namingText : Settings := { errorTypeNames := ["Error", "Utf8Error"] }

def namingBroken : Settings := { errorTypeNames := ["Error", "Utf8Error", "Broken"] }

/-- Naming `Utf8Error` adds a conversion in the middle, and naming `Broken` as well loses the
generation by a conflict, though not the decisions. -/
theorem generate_moreNames_sharedSourceType :
    (∃ larger smaller,
      generate namingText sharedSourceType = .ok larger ∧
      generate {} sharedSourceType = .ok smaller ∧
      List.Forall₂ Policy.Within smaller.policies larger.policies ∧
      smaller.conversions.Sublist larger.conversions ∧
      smaller.display = larger.display ∧
      smaller.conversions = [⟨"io::Error", "Io"⟩, ⟨"Broken", "Late"⟩] ∧
      larger.conversions = [⟨"io::Error", "Io"⟩, ⟨"Utf8Error", "Text"⟩, ⟨"Broken", "Late"⟩]) ∧
    (∃ fault, generate namingBroken sharedSourceType = .error fault ∧
      ∃ sourceType variants, fault = .conflictingConversion sourceType variants) ∧
    ∃ fewer more,
      resolvePolicies {} (sharedSourceType.variants.map (·.form)) = .ok fewer ∧
      resolvePolicies namingBroken (sharedSourceType.variants.map (·.form)) = .ok more ∧
      List.Forall₂ Policy.Within fewer more := by
  have fewerNames : ({} : Settings).NamesWithin namingText := ⟨by decide, rfl, rfl⟩
  have fewestNames : ({} : Settings).NamesWithin namingBroken := ⟨by decide, rfl, rfl⟩
  have generated : generate namingText sharedSourceType =
      .ok (sharedSourceType.generation namingText) := by
    rfl
  have generatedBefore : generate {} sharedSourceType = .ok (sharedSourceType.generation {}) := by
    rfl
  have conflict : generate namingBroken sharedSourceType =
      .error (.conflictingConversion "Broken" ["Again", "Late"]) := by
    rfl
  have resolved : resolvePolicies {} (sharedSourceType.variants.map (·.form)) =
      .ok (sharedSourceType.policies {}) := by
    rfl
  obtain ⟨smaller, success, within, sublist, sameDisplay⟩ :=
    (generate_moreNames fewerNames sharedSourceType).1 _ generated
  have isBefore : smaller = sharedSourceType.generation {} := by
    rw [generatedBefore] at success
    exact (Except.ok.inj success).symm
  obtain ⟨more, resolvedAgain, resolvedWithin⟩ :=
    (generate_moreNames fewestNames sharedSourceType).2.2 _ _ resolved
  have named := (generate_moreNames fewestNames sharedSourceType).2.1 _ _ generatedBefore conflict
  refine ⟨⟨_, smaller, generated, success, within, sublist, sameDisplay, ?_, rfl⟩,
    ⟨_, conflict, named⟩, ⟨_, more, resolved, resolvedAgain, resolvedWithin⟩⟩
  rw [isBefore]
  rfl

end ErrorDerive
