import ErrorDerive.Proofs.Rust.Layout
import ErrorDerive.Proofs.Rust.VariantPatterns

/-!
# What the generated error implementation returns

The policies and the branches of a generation stand in the order of the declared variants.  In the
error implementation, every value is matched by exactly one arm, which returns the only field of a
variant that wraps a cause.
-/

namespace ErrorDerive

open Rust

/-- A policy and two branches that belong to a declared variant. -/
structure VariantDeclaration.Served
    (declared : VariantDeclaration) (policy : Policy) (display : DisplayBranch)
    (source : SourceBranch) : Prop where
  policyName : policy.name = declared.name
  displayName : display.variant = declared.name
  sourceName : source.variant = declared.name
  shape : policy.variant.shape = .unit ∧ declared.fields = [] ∨ policy.variant.shape = .tuple
  displayShape : display.shape = policy.variant.shape
  sourceShape : source.shape = policy.variant.shape
  fields : policy.variant.fields.length = declared.fields.length
  fieldCount : source.fieldCount = declared.fields.length
  bindings : display.bindings = fieldNames declared.fields.length
  soleField : policy.isCause = true ∨ policy.makeFrom = true →
    declared.fields.length = 1 ∧ policy.variant.shape = .tuple
  cause : source.cause.isSome = policy.isCause

/-- A generation with one policy and one branch of each kind for every declared variant, in the
same order. -/
structure Generation.Serves (generation : Generation) (declaration : TypeDeclaration) : Prop where
  distinct : (declaration.variants.map VariantDeclaration.name).Nodup
  policies : generation.policies.length = declaration.variants.length
  display : generation.display.length = declaration.variants.length
  source : generation.source.length = declaration.variants.length
  served : ∀ (index : Nat) (declared : VariantDeclaration),
    declaration.variants[index]? = some declared →
      ∃ policy display source, generation.policies[index]? = some policy ∧
        generation.display[index]? = some display ∧
        generation.source[index]? = some source ∧ declared.Served policy display source

/-- Arms of which exactly one fits each value of a declared type.  It stands at the place of the
value's variant and returns the first field if the variant wraps a cause, and no cause otherwise. -/
structure Generation.ReturnsCauses
    (generation : Generation) (declaration : TypeDeclaration) (arms : List ReadArm) : Prop where
  count : arms.length = declaration.variants.length
  returns : ∀ {α : Type} (index : Nat) (declared : VariantDeclaration) (policy : Policy)
    (values : List α), declaration.variants[index]? = some declared →
      generation.policies[index]? = some policy → values.length = declared.fields.length →
        ∃ arm, arms[index]? = some arm ∧ arm.source? (declared.instanceOf values) =
          some (if policy.isCause then values.head? else none)
  unique : ∀ {α : Type} (index other : Nat) (declared : VariantDeclaration) (arm : ReadArm)
    (values : List α), declaration.variants[index]? = some declared →
      arms[other]? = some arm → arm.pattern.bind? (declared.instanceOf values) ≠ none →
        other = index

namespace VariantDeclaration

theorem Suits.served
    {declared : VariantDeclaration} (suits : declared.Suits) (eligible : declared.form.Eligible)
    (settings : Settings) :
    declared.Served (declared.policy settings) (declared.policy settings).displayBranch
      (declared.policy settings).sourceBranch where
  policyName := rfl
  displayName := rfl
  sourceName := rfl
  shape := suits.formShape_cases
  displayShape := rfl
  sourceShape := rfl
  fields := declared.length_form_fields
  fieldCount := congrArg Int.ofNat declared.length_form_fields
  bindings := declared.bindings_policy settings
  soleField := by
    intro flags
    have sole : declared.fields.length = 1 := by
      rw [← declared.length_form_fields]
      rcases flags with wraps | asks
      · exact eligible.length_of_wrapsCause wraps
      · exact eligible.length_of_asksConversion asks
    refine ⟨sole, ?_⟩
    rcases suits.formShape_cases with ⟨_, empty⟩ | tuple
    · rw [empty] at sole
      cases sole
    · exact tuple
  cause := by
    show (if declared.form.wrapsCause settings then some "e" else none).isSome =
      declared.form.wrapsCause settings
    cases declared.form.wrapsCause settings <;> rfl

/-- The arm for the cause of a declared variant. -/
theorem sourceArm_policy (settings : Settings) (declared : VariantDeclaration) :
    sourceArm (declared.policy settings).sourceBranch =
      if declared.form.wrapsCause settings then
        ⟨.binding declared.name ["e"], .returnCause "e"⟩
      else ⟨declared.textPattern, .returnNone⟩ := by
  by_cases wraps : declared.form.wrapsCause settings = true
  · have bound : boundCause? (declared.policy settings).sourceBranch = some "e" := by
      show Option.filter _ (if declared.form.wrapsCause settings then some "e" else none) = _
      rw [if_pos wraps]
      rfl
    rw [sourceArm, bound, if_pos wraps]
    rfl
  · have unbound : boundCause? (declared.policy settings).sourceBranch = none := by
      show Option.filter _ (if declared.form.wrapsCause settings then some "e" else none) = _
      rw [if_neg wraps]
      rfl
    have noField : (declared.policy settings).sourceBranch.fieldCount = 0 ↔
        declared.fields = [] := by
      show (declared.form.fields.length : Int) = 0 ↔ _
      rw [declared.length_form_fields, Int.natCast_eq_zero, List.length_eq_zero_iff]
    rw [sourceArm, unbound, if_neg wraps]
    simp only [noField]
    exact congrArg (Arm.mk · _) declared.ofShape_textPattern

theorem variant_textPattern (declared : VariantDeclaration) :
    declared.textPattern.variant = declared.name := by
  unfold textPattern
  split
  · rfl
  · split <;> rfl

theorem variant_sourceArm (settings : Settings) (declared : VariantDeclaration) :
    (sourceArm (declared.policy settings).sourceBranch).pattern.variant = declared.name := by
  rw [sourceArm_policy]
  split
  · rfl
  · exact declared.variant_textPattern

theorem isNamed_sourceArm
    {declared : VariantDeclaration} (identifier : Text.isIdentifier declared.name = true)
    (settings : Settings) : (sourceArm (declared.policy settings).sourceBranch).IsNamed := by
  have isName : Text.isIdentifier "e" = true := by
    decide
  rw [sourceArm_policy]
  split
  · exact ⟨⟨identifier, by simpa using isName⟩, isName⟩
  · exact ⟨isNamed_textPattern identifier, trivial⟩

/-- On a value of the declared variant, its arm returns the only field exactly if it wraps a
cause. -/
theorem Suits.source?_sourceArm
    {α : Type} {declared : VariantDeclaration} (suits : declared.Suits)
    (eligible : declared.form.Eligible) (settings : Settings) {values : List α}
    (sameLength : values.length = declared.fields.length) :
    (sourceArm (declared.policy settings).sourceBranch).asRead.source?
        (declared.instanceOf values) =
      some (if (declared.policy settings).isCause then values.head? else none) := by
  have decision : (declared.policy settings).isCause = declared.form.wrapsCause settings := rfl
  rw [sourceArm_policy, decision]
  by_cases wraps : declared.form.wrapsCause settings = true
  · have served := suits.served eligible settings
    obtain ⟨sole, tuple⟩ := served.soleField (Or.inl wraps)
    obtain ⟨value, rfl⟩ := List.length_eq_one_iff.mp (sameLength.trans sole)
    have shape : declared.formShape = .tuple := tuple
    simp [wraps, ReadArm.source?, Arm.asRead, Pattern.bind?, instanceOf, shape, Action.reaction,
      Reaction.source?]
  · rw [if_neg wraps, if_neg wraps, ReadArm.source?, Arm.asRead,
      suits.bind?_textPattern sameLength]
    rfl

end VariantDeclaration

/-! ## Faults that never arise -/

theorem VariantDeclaration.Flaw.ne_conversionWithoutSoleField
    {declared : VariantDeclaration} {cause : Malformation} (flaw : declared.Flaw cause) :
    cause ≠ .conversionWithoutSoleField := by
  cases flaw with
  | shape flaw =>
      cases flaw <;> exact Malformation.noConfusion
  | field _ flaw =>
      obtain ⟨_, _, _, _, _, _, rfl⟩ := flaw
      exact Malformation.noConfusion
  | entry _ _ flaw =>
      obtain ⟨_, _, _, _, _, flaw⟩ := flaw
      cases flaw <;> exact Malformation.noConfusion

theorem TypeDeclaration.Blames.ne_conversionWithoutSoleField
    {declaration : TypeDeclaration} {variant : Option String} :
    ¬ declaration.Blames (.malformed .conversionWithoutSoleField variant) := by
  intro blame
  cases blame with
  | variant _ _ _ fault =>
      obtain ⟨_, _, _, _, _, fault⟩ := fault
      cases fault with
      | inside _ _ _ flaw =>
          exact flaw.ne_conversionWithoutSoleField rfl
  | flag _ _ _ _ _ _ _ _ _ flaw =>
      cases flaw

/-! ## The error implementation of a type -/

namespace TypeDeclaration

theorem Sound.serves
    {declaration : TypeDeclaration} (sound : declaration.Sound) (settings : Settings) :
    (declaration.generation settings).Serves declaration where
  distinct := sound.variants.distinct
  policies := by simp [generation, policies]
  display := by simp [generation, policies]
  source := by simp [generation, policies]
  served := by
    intro index declared found
    have member := List.mem_of_getElem? found
    refine ⟨declared.policy settings, (declared.policy settings).displayBranch,
      (declared.policy settings).sourceBranch, ?_, ?_, ?_,
      (sound.variants.suit declared member).served (sound.eligible member) settings⟩
    · simp [generation, policies, found]
    · simp [generation, policies, found]
    · simp [generation, policies, found]

/-- The arms of the error implementation, in the order of the declared variants. -/
def sourceArms (settings : Settings) (declaration : TypeDeclaration) : List Arm :=
  declaration.variants.map fun declared => sourceArm (declared.policy settings).sourceBranch

theorem map_sourceArm_source (settings : Settings) (declaration : TypeDeclaration) :
    (declaration.generation settings).source.map sourceArm = declaration.sourceArms settings := by
  simp [generation, policies, sourceArms]

theorem Sound.returnsCauses
    {declaration : TypeDeclaration} (sound : declaration.Sound) (settings : Settings) :
    (declaration.generation settings).ReturnsCauses declaration
      ((declaration.sourceArms settings).map Arm.asRead) where
  count := by simp [sourceArms]
  returns := by
    intro _ index declared policy values found decided sameLength
    have member := List.mem_of_getElem? found
    have same : policy = declared.policy settings := by
      simpa [generation, policies, found] using decided.symm
    refine ⟨(sourceArm (declared.policy settings).sourceBranch).asRead, ?_, ?_⟩
    · simp [sourceArms, found]
    · rw [same]
      exact (sound.variants.suit declared member).source?_sourceArm (sound.eligible member)
        settings sameLength
  unique := by
    intro _ index other declared arm values found isArm fits
    obtain ⟨bound, fits⟩ := Option.ne_none_iff_exists'.mp fits
    have armVariant := Pattern.variant_of_bind? fits
    rw [sourceArms, List.map_map, List.getElem?_map, Option.map_eq_some_iff] at isArm
    obtain ⟨otherDeclared, otherFound, rfl⟩ := isArm
    have sameName : otherDeclared.name = declared.name :=
      (otherDeclared.variant_sourceArm settings).symm.trans armVariant
    have names : (declaration.variants.map VariantDeclaration.name)[other]? =
        (declaration.variants.map VariantDeclaration.name)[index]? := by
      rw [List.getElem?_map, List.getElem?_map, otherFound, found, Option.map_some,
        Option.map_some, sameName]
    -- The names of the variants differ, so the name tells the place.
    obtain ⟨inRange, _⟩ := List.getElem?_eq_some_iff.mp otherFound
    exact (List.getElem?_inj (by simpa using inRange) sound.variants.distinct).mp names

end TypeDeclaration

/-- A successful generation serves the declared variants one by one, and in the error
implementation exactly one arm fits each value and returns its cause.  A generation never ends
with an incomplete body or with a conversion that lacks its field. -/
theorem generate_serves (settings : Settings) (declaration : TypeDeclaration) :
    (∀ generation, generate settings declaration = .ok generation →
      generation.Serves declaration ∧
      ∃ lines arms,
        render generation =
          conversionsText generation ++ displayItem declaration.name generation.display ++ "\n" ++
            errorText declaration.name lines ∧
        Lists lines arms ∧
        generation.ReturnsCauses declaration arms ∧
        (declaration.variants = [] → framed lines = ["        match *self \x7b\x7d"])) ∧
    (∀ body covered total missing,
      generate settings declaration ≠ .error (.incompleteCoverage body covered total missing)) ∧
    ∀ variant,
      generate settings declaration ≠ .error (.malformed .conversionWithoutSoleField variant) := by
  have judgement := judges_generate settings declaration
  refine ⟨?_, ?_, ?_⟩
  · intro generation generated
    obtain ⟨sound, rfl⟩ := generation_of_generate generated
    refine ⟨sound.serves settings, (declaration.sourceArms settings).map armLine,
      (declaration.sourceArms settings).map Arm.asRead, ?_, lists_armLines ?_,
      sound.returnsCauses settings, ?_⟩
    · rw [render_eq, errorItem_eq, TypeDeclaration.map_sourceArm_source]
      rfl
    · intro arm member
      obtain ⟨declared, isDeclared, rfl⟩ := List.mem_map.mp member
      exact VariantDeclaration.isNamed_sourceArm
        (sound.variants.identifiers declared isDeclared) settings
    · intro empty
      rw [TypeDeclaration.sourceArms, empty]
      rfl
  · intro body covered total missing failure
    rcases judgement.eq_error_iff.mp failure with blame | ⟨_, _, _, impossible⟩
    · obtain ⟨_, _, impossible⟩ := blame.malformed
      cases impossible
    · cases impossible
  · intro variant failure
    rcases judgement.eq_error_iff.mp failure with blame | ⟨_, _, _, impossible⟩
    · exact TypeDeclaration.Blames.ne_conversionWithoutSoleField blame
    · cases impossible

/-- A type whose only variant wraps a cause by default. -/
def wrapperType : TypeDeclaration :=
  ⟨"Fault", .enum, [⟨"Io", none, ["io::Error"], []⟩]⟩

theorem generate_serves_wrapperType :
    ∃ (generation : Generation) (lines : List String) (arms : List ReadArm),
      generate {} wrapperType = .ok generation ∧
      render generation =
        conversionsText generation ++ displayItem "Fault" generation.display ++ "\n" ++
          errorText "Fault" lines ∧
      lines.map ReadArm.ofLine? = arms.map some ∧
      ∃ arm, arms[0]? = some arm ∧ arm.source? ⟨"Io", .tuple, [7]⟩ = some (some 7) := by
  have generated : generate {} wrapperType = .ok (wrapperType.generation {}) := by
    rfl
  obtain ⟨_, lines, arms, code, lists, causes, _⟩ :=
    (generate_serves {} wrapperType).1 _ generated
  exact ⟨_, lines, arms, generated, code, lists.read, causes.returns 0 _ _ [7] rfl rfl rfl⟩

end ErrorDerive
