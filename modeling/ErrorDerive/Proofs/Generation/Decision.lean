import ErrorDerive.Policy
import ErrorDerive.Proofs.Generation.Acceptance

/-!
# Decisions about a variant

The policy of a variant as a total function, and the one condition under which it is the answer: a
flag set by an annotation needs a variant with exactly one field.  The second part says the same of
a declared variant and its own annotations.
-/

namespace ErrorDerive

namespace Variant

/-- A variant on which no annotation forces what only a sole field allows. -/
structure Eligible (variant : Variant) : Prop where
  cause : variant.annotations.err = some true → variant.fields.length = 1
  source : variant.annotations.makeFrom = some true → variant.fields.length = 1

/-- What an annotation forces on a variant without a sole field. -/
inductive Ineligible (variant : Variant) : Malformation → Prop
  | cause :
      variant.annotations.err = some true → variant.fields.length ≠ 1 →
      Ineligible variant .causeWithoutSoleField
  | source :
      variant.annotations.err ≠ some true → variant.annotations.makeFrom = some true →
      variant.fields.length ≠ 1 → Ineligible variant .sourceWithoutSoleField

/-- Whether a variant wraps a cause: as annotated, or else by default. -/
def wrapsCause (settings : Settings) (variant : Variant) : Bool :=
  variant.annotations.err.getD (variant.infersCause settings)

/-- Whether a conversion into a variant is made: as annotated, or else if its sole field is the
cause. -/
def asksConversion (settings : Settings) (variant : Variant) : Bool :=
  variant.annotations.makeFrom.getD
    (variant.fields.length == 1 && variant.wrapsCause settings)

def policy (settings : Settings) (variant : Variant) : Policy where
  variant := variant
  display := variant.resolveDisplay settings
  isCause := variant.wrapsCause settings
  makeFrom := variant.asksConversion settings

/-- The settings count only by their judgement of types. -/
theorem infersCause_congr {settings other : Settings}
    (sameJudgement : ∀ typeRef, isErrorLike settings typeRef = isErrorLike other typeRef)
    (variant : Variant) : variant.infersCause settings = variant.infersCause other := by
  unfold infersCause
  simp only [sameJudgement]

theorem length_eq_one_of_infersCause
    {settings : Settings} {variant : Variant}
    (infers : variant.infersCause settings = true) : variant.fields.length = 1 := by
  rw [← variant.isSome_soleField?]
  cases sole : variant.soleField? with
  | none =>
      simp [infersCause, sole] at infers
  | some field =>
      rfl

theorem Eligible.length_of_wrapsCause
    {settings : Settings} {variant : Variant} (eligible : variant.Eligible)
    (wraps : variant.wrapsCause settings = true) : variant.fields.length = 1 := by
  unfold wrapsCause at wraps
  cases annotated : variant.annotations.err with
  | none =>
      rw [annotated] at wraps
      exact length_eq_one_of_infersCause wraps
  | some flag =>
      rw [annotated, Option.getD_some] at wraps
      exact eligible.cause (wraps ▸ annotated)

theorem Eligible.length_of_asksConversion
    {settings : Settings} {variant : Variant} (eligible : variant.Eligible)
    (asks : variant.asksConversion settings = true) : variant.fields.length = 1 := by
  unfold asksConversion at asks
  cases annotated : variant.annotations.makeFrom with
  | none =>
      rw [annotated, Option.getD_none, Bool.and_eq_true, beq_iff_eq] at asks
      exact asks.1
  | some flag =>
      rw [annotated, Option.getD_some] at asks
      exact eligible.source (asks ▸ annotated)

/-- A flag as annotated, which only a sole field allows to be set, or else by default. -/
private theorem judges_flag
    (annotated : Option Bool) (default : Bool) (count : Nat) (refusal : Fault) :
    Judges
      (match annotated with
        | some flag => if flag && count ≠ 1 then .error refusal else .ok flag
        | none => .ok default)
      (annotated = some true → count = 1) (annotated.getD default)
      (fun answer => (annotated = some true ∧ count ≠ 1) ∧ answer = refusal) := by
  cases annotated with
  | none =>
      exact (Judges.ok default).reworded (by simp) (fun _ => rfl) (by simp)
  | some flag =>
      have run := Judges.guarded ((flag && count ≠ 1) = true) refusal fun _ => Judges.ok flag
      refine run.reworded ?_ (fun _ => rfl) ?_
      · cases flag <;> simp
      · intro answer
        cases flag <;> simp

theorem judges_resolve (settings : Settings) (variant : Variant) :
    Judges (variant.resolve settings) variant.Eligible (variant.policy settings)
      (blamedOn variant.name variant.Ineligible) := by
  have cause := judges_flag variant.annotations.err (variant.infersCause settings)
    variant.fields.length (.malformed .causeWithoutSoleField variant.name)
  have source := judges_flag variant.annotations.makeFrom
    (variant.fields.length == 1 && variant.wrapsCause settings)
    variant.fields.length (.malformed .sourceWithoutSoleField variant.name)
  have decided := source.map fun makeFrom =>
    Policy.mk variant (variant.resolveDisplay settings) (variant.wrapsCause settings) makeFrom
  have run := cause.bind
    (fun isCause => variant.resolveConversion isCause >>= fun makeFrom =>
      .ok (Policy.mk variant (variant.resolveDisplay settings) isCause makeFrom))
    fun _ => decided
  refine run.reworded ?_ (fun _ => rfl) ?_
  · exact ⟨fun ⟨cause, source⟩ => ⟨cause, source⟩, fun ⟨cause, source⟩ => ⟨cause, source⟩⟩
  · intro answer
    constructor
    · rintro (⟨⟨forced, many⟩, rfl⟩ | ⟨causeFits, ⟨forced, many⟩, rfl⟩)
      · exact ⟨_, .cause forced many, rfl⟩
      · exact ⟨_, .source (fun forcedCause => many (causeFits forcedCause)) forced many, rfl⟩
    · rintro ⟨cause, ineligible, rfl⟩
      cases ineligible with
      | cause forced many =>
          exact Or.inl ⟨⟨forced, many⟩, rfl⟩
      | source free forced many =>
          exact Or.inr ⟨fun forcedCause => absurd forcedCause free, ⟨forced, many⟩, rfl⟩

end Variant

theorem judges_resolvePolicies (settings : Settings) (variants : List Variant) :
    Judges (resolvePolicies settings variants) (∀ variant ∈ variants, variant.Eligible)
      (variants.map (Variant.policy settings))
      (Judges.FirstFlaw Variant.Eligible
        (fun variant => blamedOn variant.name variant.Ineligible) variants) :=
  Judges.mapM (Variant.judges_resolve settings) variants

/-! ## Flags of a declared variant -/

namespace VariantDeclaration

/-- Whether an annotation sets a flag. -/
def Flagged (declared : VariantDeclaration) (key : AnnotationKey) : Prop :=
  (key.name, Value.bool true) ∈ declared.entries

/-- A declared variant that is given a flag only if it has exactly one field. -/
def FlagsSuit (declared : VariantDeclaration) : Prop :=
  declared.Flagged .err ∨ declared.Flagged .makeFrom → declared.fields.length = 1

/-- What a flag forces on a declared variant without exactly one field. -/
inductive FlagFlaw (declared : VariantDeclaration) : Malformation → Prop
  | cause :
      declared.Flagged .err → declared.fields.length ≠ 1 →
      FlagFlaw declared .causeWithoutSoleField
  | source :
      ¬ declared.Flagged .err → declared.Flagged .makeFrom → declared.fields.length ≠ 1 →
      FlagFlaw declared .sourceWithoutSoleField

/-- Whether a conversion into a declared variant is made. -/
def asksConversion (settings : Settings) (declared : VariantDeclaration) : Bool :=
  declared.form.asksConversion settings

def policy (settings : Settings) (declared : VariantDeclaration) : Policy :=
  declared.form.policy settings

end VariantDeclaration

theorem EntriesSuit.lookup_of_mem
    {entries : AnnotationGroup} (suit : EntriesSuit entries) {name : String} {value : Value}
    (member : (name, value) ∈ entries) : entries.lookup name = some value := by
  obtain ⟨before, after, split⟩ := List.append_of_mem member
  rw [List.lookup_eq_some_iff]
  refine ⟨before, after, split, ?_⟩
  intro entry earlier
  have distinct := suit.distinct
  rw [split, List.map_append, List.nodup_append] at distinct
  have apart := distinct.2.2 entry.1 (List.mem_map_of_mem earlier) name (by simp)
  simpa using apart.symm

theorem EntriesSuit.flag_iff
    {entries : AnnotationGroup} (suit : EntriesSuit entries) (name : String) :
    (entries.lookup name).bind Value.flag? = some true ↔ (name, Value.bool true) ∈ entries := by
  constructor
  · intro flagged
    obtain ⟨value, found, isFlag⟩ := Option.bind_eq_some_iff.mp flagged
    obtain ⟨before, after, split, _⟩ := List.lookup_eq_some_iff.mp found
    cases value with
    | bool flag =>
        simp only [Value.flag?, Option.some.injEq] at isFlag
        rw [split, isFlag]
        simp
    | _ =>
        cases isFlag
  · intro member
    rw [suit.lookup_of_mem member]
    rfl

theorem length_numbered (index : Nat) (fields : List String) :
    (numbered index fields).length = fields.length := by
  simp [numbered]

namespace VariantDeclaration

theorem length_form_fields (declared : VariantDeclaration) :
    declared.form.fields.length = declared.fields.length :=
  length_numbered 0 declared.fields

theorem Suits.flagged_err_iff
    {declared : VariantDeclaration} (suits : declared.Suits) :
    declared.form.annotations.err = some true ↔ declared.Flagged .err :=
  suits.annotations.flag_iff AnnotationKey.err.name

theorem Suits.flagged_makeFrom_iff
    {declared : VariantDeclaration} (suits : declared.Suits) :
    declared.form.annotations.makeFrom = some true ↔ declared.Flagged .makeFrom :=
  suits.annotations.flag_iff AnnotationKey.makeFrom.name

theorem Suits.eligible_iff
    {declared : VariantDeclaration} (suits : declared.Suits) :
    declared.form.Eligible ↔ declared.FlagsSuit := by
  constructor
  · intro eligible flagged
    rw [← declared.length_form_fields]
    rcases flagged with err | makeFrom
    · exact eligible.cause (suits.flagged_err_iff.mpr err)
    · exact eligible.source (suits.flagged_makeFrom_iff.mpr makeFrom)
  · intro flagsSuit
    constructor
    · intro err
      rw [declared.length_form_fields]
      exact flagsSuit (Or.inl (suits.flagged_err_iff.mp err))
    · intro makeFrom
      rw [declared.length_form_fields]
      exact flagsSuit (Or.inr (suits.flagged_makeFrom_iff.mp makeFrom))

theorem Suits.ineligible_iff
    {declared : VariantDeclaration} (suits : declared.Suits) (cause : Malformation) :
    declared.form.Ineligible cause ↔ declared.FlagFlaw cause := by
  constructor
  · intro ineligible
    cases ineligible with
    | cause err many =>
        rw [declared.length_form_fields] at many
        exact .cause (suits.flagged_err_iff.mp err) many
    | source free makeFrom many =>
        rw [declared.length_form_fields] at many
        rw [Ne, suits.flagged_err_iff] at free
        exact .source free (suits.flagged_makeFrom_iff.mp makeFrom) many
  · intro flaw
    cases flaw with
    | cause err many =>
        rw [← declared.length_form_fields] at many
        exact .cause (suits.flagged_err_iff.mpr err) many
    | source free makeFrom many =>
        rw [← declared.length_form_fields] at many
        rw [← suits.flagged_err_iff] at free
        exact .source free (suits.flagged_makeFrom_iff.mpr makeFrom) many

end VariantDeclaration

end ErrorDerive
