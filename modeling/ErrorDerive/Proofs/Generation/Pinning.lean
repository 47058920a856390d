import ErrorDerive.Proofs.Generation.Comparison
import ErrorDerive.Proofs.Generation.Selection

/-!
# Pinned decisions

A declaration is pinned to what was generated for it when the decisions about cause and conversion
are written down as annotations of every variant, wherever the variant has no such annotation yet.
A pinned declaration is generated alike under all settings: nothing about cause and conversion is
inferred any more, and the fields that a decision needs are there, since it was taken for them.

* `Suits.annotations_pinnedTo` says what the annotations of a pinned variant are;
* `agree_pinnedTo` compares the policies before and after;
* `generate_pinnedTo` is the result.
-/

namespace ErrorDerive

namespace VariantDeclaration

/-- The decisions of a policy as annotations. -/
def flagEntries (policy : Policy) : AnnotationGroup :=
  [(AnnotationKey.err.name, .bool policy.isCause),
    (AnnotationKey.makeFrom.name, .bool policy.makeFrom)]

/-- Those of the decisions for which a declared variant has no annotation. -/
def missingFlags (declared : VariantDeclaration) (policy : Policy) : AnnotationGroup :=
  (flagEntries policy).filter fun entry => !(declared.entries.map Prod.fst).contains entry.1

/-- A declared variant with the decisions it lacks in one more group of annotations. -/
def pinnedTo (declared : VariantDeclaration) (policy : Policy) : VariantDeclaration :=
  { declared with annotations := declared.annotations ++ [declared.missingFlags policy] }

end VariantDeclaration

/-- A declaration with every variant pinned to its policy in a generation. -/
def TypeDeclaration.pinnedTo (declaration : TypeDeclaration) (generation : Generation) :
    TypeDeclaration :=
  declaration.withVariants
    (List.zipWith VariantDeclaration.pinnedTo declaration.variants generation.policies)

/-! ## Annotations of a pinned variant -/

/-- Look-up among the entries whose keys pass a test. -/
private theorem lookup_filter_fst (keeps : String → Bool) (entries : AnnotationGroup)
    (name : String) :
    (entries.filter fun entry => keeps entry.1).lookup name =
      if keeps name then entries.lookup name else none := by
  induction entries with
  | nil =>
      simp
  | cons entry rest inductionHypothesis =>
      obtain ⟨key, value⟩ := entry
      by_cases same : name = key
      · subst same
        cases kept : keeps name with
        | true =>
            simp [kept]
        | false =>
            simpa [kept] using inductionHypothesis
      · cases kept : keeps key with
        | true =>
            simpa [kept, List.lookup_cons, beq_false_of_ne same] using inductionHypothesis
        | false =>
            simpa [kept, List.lookup_cons, beq_false_of_ne same] using inductionHypothesis

namespace VariantDeclaration

variable {settings other : Settings} {declared : VariantDeclaration}

theorem entries_pinnedTo (declared : VariantDeclaration) (policy : Policy) :
    (declared.pinnedTo policy).entries = declared.entries ++ declared.missingFlags policy := by
  simp [entries, pinnedTo]

/-- An annotation that was there stays, and the decisions stand in for those that were not. -/
theorem lookup_pinnedTo (declared : VariantDeclaration) (policy : Policy) (name : String) :
    (declared.pinnedTo policy).entries.lookup name =
      (declared.entries.lookup name).or ((flagEntries policy).lookup name) := by
  rw [entries_pinnedTo, List.lookup_append, missingFlags,
    lookup_filter_fst fun key => !(declared.entries.map Prod.fst).contains key]
  cases found : declared.entries.lookup name with
  | none =>
      have absent : name ∉ declared.entries.map Prod.fst := by
        intro member
        obtain ⟨entry, isEntry, sameKey⟩ := List.mem_map.mp member
        have different := List.lookup_eq_none_iff.mp found entry isEntry
        simp [sameKey] at different
      simp [absent]
  | some value =>
      rfl

/-- A flag is as annotated, or as inferred if it was not annotated. -/
private theorem flag_of_or
    {found : Option Value} (isFlag : ∀ value, found = some value → ∃ flag, value = .bool flag)
    (inferred : Bool) :
    (found.or (some (.bool ((found.bind Value.flag?).getD inferred)))).bind Value.flag? =
      some ((found.bind Value.flag?).getD inferred) := by
  cases found with
  | none =>
      rfl
  | some value =>
      obtain ⟨flag, rfl⟩ := isFlag value rfl
      rfl

theorem Suits.annotations_pinnedTo (suits : declared.Suits) (settings : Settings) :
    (declared.pinnedTo (declared.policy settings)).form.annotations =
      { declared.form.annotations with
        makeFrom := some (declared.form.asksConversion settings)
        err := some (declared.form.wrapsCause settings) } := by
  have formatStr : (flagEntries (declared.policy settings)).lookup AnnotationKey.formatStr.name =
      none := by
    rfl
  have makeFrom : (flagEntries (declared.policy settings)).lookup AnnotationKey.makeFrom.name =
      some (.bool (declared.form.asksConversion settings)) := by
    rfl
  have err : (flagEntries (declared.policy settings)).lookup AnnotationKey.err.name =
      some (.bool (declared.form.wrapsCause settings)) := by
    rfl
  have sourceIsFlag : ∀ value,
      declared.entries.lookup AnnotationKey.makeFrom.name = some value →
        ∃ flag, value = .bool flag :=
    fun _ found => suits.annotations.takes_of_lookup found
  have causeIsFlag : ∀ value, declared.entries.lookup AnnotationKey.err.name = some value →
      ∃ flag, value = .bool flag :=
    fun _ found => suits.annotations.takes_of_lookup found
  have annotatedSource := flag_of_or sourceIsFlag
    (declared.form.fields.length == 1 && declared.form.wrapsCause settings)
  have annotatedCause := flag_of_or causeIsFlag (declared.form.infersCause settings)
  show Annotations.ofEntries (declared.pinnedTo (declared.policy settings)).entries = _
  rw [Annotations.ofEntries, lookup_pinnedTo, lookup_pinnedTo, lookup_pinnedTo, formatStr, makeFrom,
    err, Option.or_none]
  exact congrArg₂ (Annotations.mk _) annotatedSource annotatedCause

/-! ## Policies of a pinned variant -/

theorem Suits.agrees_pinnedTo (suits : declared.Suits) (settings other : Settings) :
    (declared.policy settings).Agrees
      ((declared.pinnedTo (declared.policy settings)).policy other) where
  name := rfl
  shape := rfl
  fields := rfl
  isCause := by
    show _ = Variant.wrapsCause other _
    rw [Variant.wrapsCause, suits.annotations_pinnedTo settings]
    rfl
  makeFrom := by
    show _ = Variant.asksConversion other _
    rw [Variant.asksConversion, suits.annotations_pinnedTo settings]
    rfl

theorem Suits.display_pinnedTo
    (suits : declared.Suits) (sameDelimiter : settings.fieldDelimiter = other.fieldDelimiter) :
    (declared.policy settings).display =
      ((declared.pinnedTo (declared.policy settings)).policy other).display := by
  have sameText : declared.form.annotations.formatStr =
      (declared.pinnedTo (declared.policy settings)).form.annotations.formatStr := by
    rw [suits.annotations_pinnedTo settings]
  exact Variant.resolveDisplay_congr sameDelimiter rfl rfl sameText

/-! ## A pinned variant is acceptable -/

theorem map_fst_flagEntries (policy : Policy) :
    (flagEntries policy).map Prod.fst = [AnnotationKey.err.name, AnnotationKey.makeFrom.name] := rfl

theorem Suits.entriesSuit_pinnedTo (suits : declared.Suits) (policy : Policy) :
    EntriesSuit (declared.pinnedTo policy).entries where
  known := by
    intro entry member
    rw [entries_pinnedTo, List.mem_append] at member
    rcases member with present | added
    · exact suits.annotations.known entry present
    · have isFlag := (List.mem_filter.mp added).1
      simp only [flagEntries, List.mem_cons, List.not_mem_nil, or_false] at isFlag
      rcases isFlag with isErr | isMakeFrom
      · exact ⟨.err, by rw [isErr], policy.isCause, by rw [isErr]⟩
      · exact ⟨.makeFrom, by rw [isMakeFrom], policy.makeFrom, by rw [isMakeFrom]⟩
  distinct := by
    have flagsDistinct : ((flagEntries policy).map Prod.fst).Nodup := by
      rw [map_fst_flagEntries]
      decide
    rw [entries_pinnedTo, List.map_append, List.nodup_append']
    refine ⟨suits.annotations.distinct, ?_, ?_⟩
    · exact flagsDistinct.sublist (List.filter_sublist.map Prod.fst)
    · intro key present added
      obtain ⟨entry, isAdded, rfl⟩ := List.mem_map.mp added
      have absent := (List.mem_filter.mp isAdded).2
      simp only [Bool.not_eq_true', List.contains_eq_mem, decide_eq_false_iff_not] at absent
      exact absent present

theorem Suits.pinnedTo (suits : declared.Suits) (policy : Policy) :
    (declared.pinnedTo policy).Suits where
  shape := ⟨suits.shape.notStruct, suits.shape.unitIsEmpty⟩
  fields := suits.fields
  annotations := suits.entriesSuit_pinnedTo policy

/-- The decisions that are written down suit the fields, for they were taken for them. -/
theorem Suits.flagsSuit_pinnedTo
    (suits : declared.Suits) (flags : declared.FlagsSuit) (settings : Settings) :
    (declared.pinnedTo (declared.policy settings)).FlagsSuit := by
  have eligible : declared.form.Eligible := suits.eligible_iff.mpr flags
  have pinnedSuits := suits.pinnedTo (declared.policy settings)
  apply pinnedSuits.eligible_iff.mp
  constructor
  · intro annotated
    rw [suits.annotations_pinnedTo settings] at annotated
    exact eligible.length_of_wrapsCause (Option.some.inj annotated)
  · intro annotated
    rw [suits.annotations_pinnedTo settings] at annotated
    exact eligible.length_of_asksConversion (Option.some.inj annotated)

end VariantDeclaration

/-! ## Pinned declarations -/

namespace TypeDeclaration

variable {settings other : Settings} {declaration : TypeDeclaration}

theorem pinnedTo_generation (declaration : TypeDeclaration) (settings : Settings) :
    declaration.pinnedTo (declaration.generation settings) =
      declaration.withVariants (declaration.variants.map fun declared =>
        declared.pinnedTo (declared.policy settings)) := by
  show declaration.withVariants (List.zipWith VariantDeclaration.pinnedTo declaration.variants
    (declaration.variants.map _)) = _
  rw [List.zipWith_map_right, List.zipWith_self]

theorem Sound.pinnedTo (sound : declaration.Sound) (settings : Settings) :
    (declaration.pinnedTo (declaration.generation settings)).Sound := by
  rw [pinnedTo_generation]
  refine ⟨sound.isEnum, sound.isNamed, ⟨?_, ?_, ?_, ?_⟩, ?_⟩
  · exact List.forall_mem_map.mpr sound.variants.identifiers
  · show ((declaration.variants.map _).map VariantDeclaration.name).Nodup
    rw [List.map_map]
    exact sound.variants.distinct
  · exact List.forall_mem_map.mpr sound.variants.fresh
  · refine List.forall_mem_map.mpr ?_
    intro declared member
    exact (sound.variants.suit declared member).pinnedTo _
  · refine List.forall_mem_map.mpr ?_
    intro declared member
    exact (sound.variants.suit declared member).flagsSuit_pinnedTo (sound.flags declared member)
      settings

/-- Pinning leaves what is decided as it is, and with the same delimiter also what is displayed. -/
theorem Sound.policies_pinnedTo (sound : declaration.Sound) (settings other : Settings) :
    List.Forall₂ (fun before after : Policy => before.Agrees after ∧
        (settings.fieldDelimiter = other.fieldDelimiter → before.display = after.display))
      (declaration.policies settings)
      ((declaration.pinnedTo (declaration.generation settings)).policies other) := by
  rw [pinnedTo_generation]
  show List.Forall₂ _ (declaration.variants.map _) ((declaration.variants.map _).map _)
  rw [List.map_map]
  apply forall₂_map_map
  intro declared member
  have suits := sound.variants.suit declared member
  exact ⟨suits.agrees_pinnedTo settings other, suits.display_pinnedTo⟩

end TypeDeclaration

/-- Whatever is generated for a declaration under some settings, the declaration pinned to it is
generated under any settings, with the same decisions, source body and conversions; and where the
delimiter is the same, with the same decision table, display body and code. -/
theorem generate_pinnedTo
    {settings : Settings} {declaration : TypeDeclaration} {generation : Generation}
    (generated : generate settings declaration = .ok generation) (other : Settings) :
    ∃ again, generate other (declaration.pinnedTo generation) = .ok again ∧
      again.policies.map (fun policy => (policy.name, policy.isCause, policy.makeFrom)) =
        generation.policies.map (fun policy => (policy.name, policy.isCause, policy.makeFrom)) ∧
      again.source = generation.source ∧
      again.conversions = generation.conversions ∧
      (other.fieldDelimiter = settings.fieldDelimiter →
        again.toTable = generation.toTable ∧
        again.display = generation.display ∧
        Rust.render again = Rust.render generation) := by
  obtain ⟨⟨sound, unambiguous⟩, rfl⟩ :=
    (judges_generate settings declaration).eq_ok_iff.mp generated
  have pairs := sound.policies_pinnedTo settings other
  have agree := pairs.imp fun _ _ pair => pair.1
  have pinnedSound := sound.pinnedTo settings
  have pinnedUnambiguous := sound.unambiguous_of_agree pinnedSound agree unambiguous
  have success := (judges_generate other _).succeeds ⟨pinnedSound, pinnedUnambiguous⟩
  have sameName : (declaration.pinnedTo (declaration.generation settings)).name =
      declaration.name := rfl
  generalize declaration.pinnedTo (declaration.generation settings) = pinned at *
  have sameSource : (pinned.generation other).source = (declaration.generation settings).source :=
    (map_eq_of_forall₂ agree fun _ _ agrees => agrees.sourceBranch).symm
  have sameConversions :
      (pinned.generation other).conversions = (declaration.generation settings).conversions :=
    (TypeDeclaration.formConversions_eq_of_agree agree).symm
  refine ⟨pinned.generation other, success, ?_, sameSource, sameConversions, ?_⟩
  · symm
    apply map_eq_of_forall₂ agree
    intro before after agrees
    rw [agrees.name, agrees.isCause, agrees.makeFrom]
  · intro sameDelimiter
    have alike := pairs.imp fun _ _ pair => And.intro pair.1 (pair.2 sameDelimiter.symm)
    have sameType :
        (pinned.generation other).typeName = (declaration.generation settings).typeName := sameName
    have sameDisplay :
        (pinned.generation other).display = (declaration.generation settings).display :=
      (map_eq_of_forall₂ alike fun _ _ pair => pair.1.displayBranch pair.2).symm
    have sameRows : (pinned.generation other).policies.map Policy.toRow =
        (declaration.generation settings).policies.map Policy.toRow :=
      (map_eq_of_forall₂ alike fun _ _ pair => pair.1.toRow pair.2).symm
    refine ⟨?_, sameDisplay, ?_⟩
    · rw [Generation.toTable, Generation.toTable, sameType, sameRows, sameConversions]
    · rw [Rust.render, Rust.render, Rust.items, Rust.items, sameType, sameConversions, sameDisplay,
        sameSource]

/-- An inferred cause, a pair of fields, and a cause that is annotated. -/
def halfAnnotatedType : TypeDeclaration :=
  ⟨"Fault", .enum, [⟨"Io", none, ["io::Error"], []⟩, ⟨"Late", none, ["u32", "Error"], []⟩,
    ⟨"Wrapped", none, ["String"], [[("err", .bool true)]]⟩]⟩

/-- Settings under which no type counts as an error type. -/
def withoutErrorTypes : Settings := { errorTypeNames := [] }

/-- Without error types the conversion from `io::Error` is lost, unless the type is pinned. -/
theorem generate_pinnedTo_halfAnnotatedType :
    ∃ generation unpinned again,
      generate {} halfAnnotatedType = .ok generation ∧
      generate withoutErrorTypes halfAnnotatedType = .ok unpinned ∧
      generate withoutErrorTypes (halfAnnotatedType.pinnedTo generation) = .ok again ∧
      generation.conversions = [⟨"io::Error", "Io"⟩, ⟨"String", "Wrapped"⟩] ∧
      unpinned.conversions = [⟨"String", "Wrapped"⟩] ∧
      again.source = generation.source ∧ again.conversions = generation.conversions ∧
      withoutErrorTypes.fieldDelimiter = ({} : Settings).fieldDelimiter ∧
      again.toTable = generation.toTable ∧ Rust.render again = Rust.render generation := by
  have generated : generate {} halfAnnotatedType = .ok (halfAnnotatedType.generation {}) := by
    rfl
  have unpinned : generate withoutErrorTypes halfAnnotatedType =
      .ok (halfAnnotatedType.generation withoutErrorTypes) := by
    rfl
  have sameDelimiter : withoutErrorTypes.fieldDelimiter = ({} : Settings).fieldDelimiter := rfl
  obtain ⟨again, success, _, sameSource, sameConversions, alike⟩ :=
    generate_pinnedTo generated withoutErrorTypes
  obtain ⟨sameTable, _, sameCode⟩ := alike sameDelimiter
  exact ⟨_, _, again, generated, unpinned, success, rfl, rfl, sameSource, sameConversions,
    sameDelimiter, sameTable, sameCode⟩

end ErrorDerive
