import ErrorDerive.Generation.Result
import ErrorDerive.Proofs.Generation.Bodies
import ErrorDerive.Proofs.Generation.Decision

/-!
# The outcome of a generation

A declaration is `Sound` if it is acceptable by itself, and `Unambiguous` under given settings if
no two conversions start from one source type.

* `judges_generate` says that a generation succeeds exactly for sound and unambiguous declarations,
  and which fault it ends with otherwise;
* `generate_outcome` puts this in terms of the kinds of faults.
-/

namespace ErrorDerive

namespace TypeDeclaration

/-- A declaration that is acceptable by itself: an enum with a name, acceptable variants, and flags
only on variants with one field. -/
structure Sound (declaration : TypeDeclaration) : Prop where
  isEnum : declaration.kind = .enum
  isNamed : Text.isIdentifier declaration.name = true
  variants : VariantsSuit [] declaration.variants
  flags : ∀ declared ∈ declaration.variants, declared.FlagsSuit

/-- No two variants into which a conversion is made have the same source type, blanks apart. -/
def Unambiguous (settings : Settings) (declaration : TypeDeclaration) : Prop :=
  declaration.variants.Pairwise fun left right =>
    left.asksConversion settings = true → right.asksConversion settings = true →
      left.fields.map Text.removeBlanks ≠ right.fields.map Text.removeBlanks

/-- The fault of a declaration that is not sound: that of the type itself, or else of the first
variant that is not acceptable, or else of the first variant with a flag that it must not have. -/
inductive Blames (declaration : TypeDeclaration) : Fault → Prop
  | kind :
      declaration.kind ≠ .enum →
      Blames declaration (.malformed (.notAnEnum declaration.name declaration.kind) none)
  | typeName :
      declaration.kind = .enum → Text.isIdentifier declaration.name = false →
      Blames declaration (.malformed (.invalidTypeName declaration.name) none)
  | variant (answer : Fault) :
      declaration.kind = .enum → Text.isIdentifier declaration.name = true →
      FirstVariantFault [] declaration.variants answer → Blames declaration answer
  | flag (earlier later : List VariantDeclaration) (flawed : VariantDeclaration)
      (cause : Malformation) :
      declaration.kind = .enum → Text.isIdentifier declaration.name = true →
      VariantsSuit [] declaration.variants → declaration.variants = earlier ++ flawed :: later →
      (∀ good ∈ earlier, good.FlagsSuit) → flawed.FlagFlaw cause →
      Blames declaration (.malformed cause flawed.name)

def policies (settings : Settings) (declaration : TypeDeclaration) : List Policy :=
  declaration.variants.map (VariantDeclaration.policy settings)

def formConversions (settings : Settings) (declaration : TypeDeclaration) : List Conversion :=
  ((declaration.policies settings).filter Policy.makeFrom).map Policy.fromFirstField

/-- What is generated for a declaration that meets all conditions. -/
def generation (settings : Settings) (declaration : TypeDeclaration) : Generation where
  typeName := declaration.name
  policies := declaration.policies settings
  display := (declaration.policies settings).map Policy.displayBranch
  source := (declaration.policies settings).map Policy.sourceBranch
  conversions := declaration.formConversions settings

theorem judges_extract (declaration : TypeDeclaration) :
    Judges declaration.extract
      (declaration.kind = .enum ∧ Text.isIdentifier declaration.name = true ∧
        VariantsSuit [] declaration.variants)
      (declaration.variants.map VariantDeclaration.form)
      (fun answer =>
        declaration.kind ≠ .enum ∧
            answer = .malformed (.notAnEnum declaration.name declaration.kind) none ∨
          declaration.kind = .enum ∧
            (Text.isIdentifier declaration.name = false ∧
                answer = .malformed (.invalidTypeName declaration.name) none ∨
              Text.isIdentifier declaration.name = true ∧
                FirstVariantFault [] declaration.variants answer)) := by
  have named := Judges.guarded ((!Text.isIdentifier declaration.name) = true)
    (.malformed (.invalidTypeName declaration.name) none) fun _ =>
      judges_extractVariants [] declaration.variants
  have run := Judges.guarded (declaration.kind ≠ .enum)
    (.malformed (.notAnEnum declaration.name declaration.kind) none) fun _ => named
  exact run.reworded (by simp) (fun _ => rfl) (fun answer => by simp)

end TypeDeclaration

theorem generate_eq (settings : Settings) (declaration : TypeDeclaration) :
    generate settings declaration =
      declaration.extract >>= fun variants =>
        resolvePolicies settings variants >>= fun policies =>
          conversions policies >>= fun derived =>
            .ok ⟨declaration.name, policies, policies.map Policy.displayBranch,
              policies.map Policy.sourceBranch, derived⟩ := by
  simp only [generate, displayBody_eq, sourceBody_eq]
  rfl

namespace TypeDeclaration

theorem Sound.eligible
    {declaration : TypeDeclaration} (sound : declaration.Sound)
    {declared : VariantDeclaration} (member : declared ∈ declaration.variants) :
    declared.form.Eligible :=
  ((sound.variants.suit declared member).eligible_iff).mpr (sound.flags declared member)

theorem Sound.length_of_asksConversion
    {declaration : TypeDeclaration} (sound : declaration.Sound) {settings : Settings}
    {declared : VariantDeclaration} (member : declared ∈ declaration.variants)
    (asks : declared.asksConversion settings = true) : declared.fields.length = 1 := by
  rw [← declared.length_form_fields]
  exact (sound.eligible member).length_of_asksConversion asks

theorem source_fromFirstField
    {settings : Settings} {declared : VariantDeclaration} {typeRef : String}
    (sole : declared.fields = [typeRef]) :
    (declared.policy settings).fromFirstField.source = Text.removeBlanks typeRef := by
  have fields : (declared.policy settings).variant.fields = [⟨0, Text.strip typeRef⟩] := by
    show numbered 0 declared.fields = _
    rw [sole]
    rfl
  simp [Conversion.source, Policy.fromFirstField, fields]

/-- For a sound declaration, the source types of the conversions differ exactly if the declaration
is unambiguous. -/
theorem Sound.nodup_sources_iff
    {declaration : TypeDeclaration} (sound : declaration.Sound) (settings : Settings) :
    ((declaration.formConversions settings).map Conversion.source).Nodup ↔
      declaration.Unambiguous settings := by
  unfold formConversions policies Unambiguous
  rw [List.Nodup, List.pairwise_map, List.pairwise_map, List.pairwise_filter, List.pairwise_map]
  apply List.Pairwise.iff_of_mem
  intro left right leftMember rightMember
  refine imp_congr_right fun leftAsks => imp_congr_right fun rightAsks => ?_
  obtain ⟨leftType, leftSole⟩ :=
    List.length_eq_one_iff.mp (sound.length_of_asksConversion leftMember leftAsks)
  obtain ⟨rightType, rightSole⟩ :=
    List.length_eq_one_iff.mp (sound.length_of_asksConversion rightMember rightAsks)
  rw [source_fromFirstField leftSole, source_fromFirstField rightSole, leftSole, rightSole]
  simp

/-- For a sound declaration, only conversions that conflict keep them from being derived. -/
theorem Sound.judges_conversions
    {declaration : TypeDeclaration} (sound : declaration.Sound) (settings : Settings) :
    Judges (conversions (declaration.policies settings)) (declaration.Unambiguous settings)
      (declaration.formConversions settings)
      (ConflictFault (declaration.formConversions settings)) := by
  have sole : ∀ policy ∈ (declaration.policies settings).filter Policy.makeFrom,
      policy.variant.fields.length = 1 := by
    intro policy member
    obtain ⟨isPolicy, asks⟩ := List.mem_filter.mp member
    obtain ⟨declared, isDeclared, rfl⟩ := List.mem_map.mp isPolicy
    exact (sound.eligible isDeclared).length_of_asksConversion asks
  refine (ErrorDerive.judges_conversions (declaration.policies settings)).reworded ?_
    (fun _ => rfl) ?_
  · rw [← sound.nodup_sources_iff settings]
    exact and_iff_right sole
  · intro answer
    constructor
    · intro fault
      rcases fault with ⟨earlier, flawed, later, split, _, many, _⟩ | ⟨_, conflict⟩
      · exact absurd (sole flawed (by rw [split]; simp)) many
      · exact conflict
    · intro conflict
      exact Or.inr ⟨sole, conflict⟩

theorem blames_iff (declaration : TypeDeclaration) (answer : Fault) :
    declaration.Blames answer ↔
      (declaration.kind ≠ .enum ∧
          answer = .malformed (.notAnEnum declaration.name declaration.kind) none ∨
        declaration.kind = .enum ∧
          (Text.isIdentifier declaration.name = false ∧
              answer = .malformed (.invalidTypeName declaration.name) none ∨
            Text.isIdentifier declaration.name = true ∧
              FirstVariantFault [] declaration.variants answer)) ∨
      (declaration.kind = .enum ∧ Text.isIdentifier declaration.name = true ∧
          VariantsSuit [] declaration.variants) ∧
        Judges.FirstFlaw VariantDeclaration.FlagsSuit
          (fun declared => blamedOn declared.name declared.FlagFlaw) declaration.variants
          answer := by
  constructor
  · intro blame
    cases blame with
    | kind notEnum =>
        exact Or.inl (Or.inl ⟨notEnum, rfl⟩)
    | typeName isEnum invalid =>
        exact Or.inl (Or.inr ⟨isEnum, Or.inl ⟨invalid, rfl⟩⟩)
    | variant _ isEnum isNamed fault =>
        exact Or.inl (Or.inr ⟨isEnum, Or.inr ⟨isNamed, fault⟩⟩)
    | flag earlier later flawed cause isEnum isNamed suit split good flaw =>
        exact Or.inr ⟨⟨isEnum, isNamed, suit⟩, earlier, flawed, later, split, good,
          cause, flaw, rfl⟩
  · intro cases_
    rcases cases_ with (⟨notEnum, rfl⟩ | ⟨isEnum, ⟨invalid, rfl⟩ | ⟨isNamed, fault⟩⟩) |
      ⟨⟨isEnum, isNamed, suit⟩, earlier, flawed, later, split, good, cause, flaw, rfl⟩
    · exact .kind notEnum
    · exact .typeName isEnum invalid
    · exact .variant answer isEnum isNamed fault
    · exact .flag earlier later flawed cause isEnum isNamed suit split good flaw

end TypeDeclaration

/-- The decisions about the variants of an acceptable declaration, judged by their own flags. -/
theorem VariantsSuit.judges_resolvePolicies
    {declared : List VariantDeclaration} (suit : VariantsSuit [] declared) (settings : Settings) :
    Judges (resolvePolicies settings (declared.map VariantDeclaration.form))
      (∀ variant ∈ declared, variant.FlagsSuit)
      (declared.map (VariantDeclaration.policy settings))
      (Judges.FirstFlaw VariantDeclaration.FlagsSuit
        (fun variant => blamedOn variant.name variant.FlagFlaw) declared) := by
  refine (ErrorDerive.judges_resolvePolicies settings _).reworded ?_ ?_ ?_
  · rw [List.forall_mem_map]
    exact forall₂_congr fun variant member => (suit.suit variant member).eligible_iff
  · intro _
    rw [List.map_map]
    rfl
  · intro answer
    rw [Judges.firstFlaw_map]
    refine Judges.firstFlaw_congr ?_ ?_
    · intro variant member
      exact (suit.suit variant member).eligible_iff
    · intro variant member
      exact exists_congr fun cause =>
        and_congr_left fun _ => (suit.suit variant member).ineligible_iff cause

/-- A generation succeeds exactly for a sound and unambiguous declaration.  Faults of the type come
before those of a variant, these before forbidden flags, and all of them before conflicts. -/
theorem judges_generate (settings : Settings) (declaration : TypeDeclaration) :
    Judges (generate settings declaration)
      (declaration.Sound ∧ declaration.Unambiguous settings)
      (declaration.generation settings)
      (fun answer => declaration.Blames answer ∨
        declaration.Sound ∧ ConflictFault (declaration.formConversions settings) answer) := by
  rw [generate_eq]
  -- Each stage is judged in terms of the declaration, given that the stages before it accept.
  have run := declaration.judges_extract.bind
    (fun variants => resolvePolicies settings variants >>= fun policies =>
      conversions policies >>= fun derived =>
        .ok (Generation.mk declaration.name policies (policies.map Policy.displayBranch)
          (policies.map Policy.sourceBranch) derived))
    fun extracted => (extracted.2.2.judges_resolvePolicies settings).bind
      (fun policies => conversions policies >>= fun derived =>
        .ok (Generation.mk declaration.name policies (policies.map Policy.displayBranch)
          (policies.map Policy.sourceBranch) derived))
      fun flags =>
        have sound : declaration.Sound := ⟨extracted.1, extracted.2.1, extracted.2.2, flags⟩
        (sound.judges_conversions settings).map fun derived =>
          Generation.mk declaration.name (declaration.policies settings)
            ((declaration.policies settings).map Policy.displayBranch)
            ((declaration.policies settings).map Policy.sourceBranch) derived
  refine run.reworded ?_ (fun _ => rfl) ?_
  · constructor
    · intro conditions
      obtain ⟨⟨isEnum, isNamed, suit⟩, flags, unambiguous⟩ := conditions
      exact ⟨⟨isEnum, isNamed, suit, flags⟩, unambiguous⟩
    · intro conditions
      obtain ⟨⟨isEnum, isNamed, suit, flags⟩, unambiguous⟩ := conditions
      exact ⟨⟨isEnum, isNamed, suit⟩, flags, unambiguous⟩
  · intro answer
    rw [TypeDeclaration.blames_iff]
    constructor
    · intro fault
      rcases fault with early | ⟨extracted, flagged | ⟨flags, conflict⟩⟩
      · exact Or.inl (Or.inl early)
      · exact Or.inl (Or.inr ⟨extracted, flagged⟩)
      · exact Or.inr ⟨⟨extracted.1, extracted.2.1, extracted.2.2, flags⟩, conflict⟩
    · intro fault
      rcases fault with (early | ⟨extracted, flagged⟩) | ⟨sound, conflict⟩
      · exact Or.inl early
      · exact Or.inr ⟨extracted, Or.inl flagged⟩
      · exact Or.inr ⟨⟨sound.isEnum, sound.isNamed, sound.variants⟩,
          Or.inr ⟨sound.flags, conflict⟩⟩

/-! ## Kinds of faults -/

theorem VariantFault.malformed
    {taken : List String} {declared : VariantDeclaration} {answer : Fault}
    (fault : VariantFault taken declared answer) :
    ∃ cause variant, answer = .malformed cause variant := by
  cases fault with
  | name _ =>
      exact ⟨_, _, rfl⟩
  | repeated _ _ =>
      exact ⟨_, _, rfl⟩
  | inside cause _ _ _ =>
      exact ⟨_, _, rfl⟩

namespace TypeDeclaration

theorem Blames.malformed
    {declaration : TypeDeclaration} {answer : Fault} (blame : declaration.Blames answer) :
    ∃ cause variant, answer = .malformed cause variant := by
  cases blame with
  | kind _ =>
      exact ⟨_, _, rfl⟩
  | typeName _ _ =>
      exact ⟨_, _, rfl⟩
  | variant _ _ _ fault =>
      obtain ⟨_, _, _, _, _, fault⟩ := fault
      exact fault.malformed
  | flag _ _ _ _ _ _ _ _ _ _ =>
      exact ⟨_, _, rfl⟩

theorem Blames.not_sound
    {declaration : TypeDeclaration} {answer : Fault} (blame : declaration.Blames answer) :
    ¬ declaration.Sound := by
  intro sound
  have judgement := judges_generate default declaration
  have failure := judgement.fails answer (Or.inl blame)
  rcases (sound.judges_conversions default).decides with unambiguous | ⟨other, conflict⟩
  · rw [judgement.succeeds ⟨sound, unambiguous⟩] at failure
    cases failure
  · rw [judgement.fails other (Or.inr ⟨sound, conflict⟩)] at failure
    obtain ⟨cause, variant, rfl⟩ := blame.malformed
    obtain ⟨first, _, rfl⟩ := conflict
    cases failure

end TypeDeclaration

/-- How a generation ends.  It succeeds exactly for a declaration that is sound and unambiguous; it
answers with a malformation exactly if the declaration is not sound, namely with the one that
`TypeDeclaration.Blames` names; and with a conflict exactly if nothing but the source types is
wrong.  No body is ever incomplete. -/
theorem generate_outcome (settings : Settings) (declaration : TypeDeclaration) :
    ((∃ generation, generate settings declaration = .ok generation) ↔
      declaration.Sound ∧ declaration.Unambiguous settings) ∧
    ((∃ cause variant, generate settings declaration = .error (.malformed cause variant)) ↔
      ¬ declaration.Sound) ∧
    (∀ cause variant, generate settings declaration = .error (.malformed cause variant) ↔
      declaration.Blames (.malformed cause variant)) ∧
    ((∃ sourceType variants,
        generate settings declaration = .error (.conflictingConversion sourceType variants)) ↔
      declaration.Sound ∧ ¬ declaration.Unambiguous settings) ∧
    ∀ body covered total missing,
      generate settings declaration ≠ .error (.incompleteCoverage body covered total missing) := by
  have judgement := judges_generate settings declaration
  have malformed_iff : ∀ cause variant,
      generate settings declaration = .error (.malformed cause variant) ↔
        declaration.Blames (.malformed cause variant) := by
    intro cause variant
    rw [judgement.eq_error_iff]
    refine or_iff_left ?_
    intro conflict
    obtain ⟨_, first, _, impossible⟩ := conflict
    cases impossible
  refine ⟨judgement.exists_ok_iff, ?_, malformed_iff, ?_, ?_⟩
  · constructor
    · intro failure
      obtain ⟨cause, variant, failure⟩ := failure
      exact ((malformed_iff cause variant).mp failure).not_sound
    · intro notSound
      rcases judgement.decides with conditions | ⟨answer, blame | conflict⟩
      · exact absurd conditions.1 notSound
      · obtain ⟨cause, variant, rfl⟩ := blame.malformed
        exact ⟨cause, variant, (malformed_iff cause variant).mpr blame⟩
      · exact absurd conflict.1 notSound
  · constructor
    · intro failure
      obtain ⟨sourceType, variants, failure⟩ := failure
      rcases judgement.eq_error_iff.mp failure with blame | ⟨sound, conflict⟩
      · obtain ⟨_, _, impossible⟩ := blame.malformed
        cases impossible
      · exact ⟨sound, (sound.judges_conversions settings).exists_flaw_iff.mp ⟨_, conflict⟩⟩
    · intro conditions
      obtain ⟨sound, ambiguous⟩ := conditions
      obtain ⟨answer, conflict⟩ :=
        (sound.judges_conversions settings).exists_flaw_iff.mpr ambiguous
      have failure := judgement.fails answer (Or.inr ⟨sound, conflict⟩)
      obtain ⟨first, _, rfl⟩ := conflict
      exact ⟨_, _, failure⟩
  · intro body covered total missing failure
    rcases judgement.eq_error_iff.mp failure with blame | ⟨_, _, _, impossible⟩
    · obtain ⟨_, _, impossible⟩ := blame.malformed
      cases impossible
    · cases impossible

end ErrorDerive
