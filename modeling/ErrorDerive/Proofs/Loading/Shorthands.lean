import ErrorDerive.Proofs.Loading.Breakdowns
import ErrorDerive.Proofs.PairedRows
import ErrorDerive.Proofs.Schema.Entries
import ErrorDerive.Proofs.Schema.Accepting
import Mathlib.Logic.Relation

/-!
# Short forms in declarations

Short forms of variants and annotations stand for longer ones, and a mixture of both forms is read
as any other mixture.

* `TypeDeclaration.ofEntries_eq_ok_iff` says which declaration comes of entries, field by field;
* `SameVariant` and `SameDeclaration` relate entries that differ by short forms only;
* `TypeDeclaration.ofEntries_of_same` says that related entries come to the same.
-/

namespace ErrorDerive

open Schema

variable {entries others : List (Value × Value)}

/-! ## Readings of long forms -/

/-- The groups under the key of annotations once they are written out. -/
def longAnnotations (given? : Option Value) : Option Value :=
  match (given?.getD .null).opened with
  | .null => none
  | .mapping group => some (.list [.mapping group])
  | _ => given?

/-- The groups that are read from what may stand under the key of annotations. -/
def ReadsGroups (given? : Option Value) (groups : List AnnotationGroup) : Prop :=
  given? = none ∧ groups = [] ∨
    ∃ content, given? = some content ∧ readList readGroup content = .accepted groups

theorem lookup?_writeOutAnnotations (name : String) :
    Value.lookup? name (writeOutAnnotations entries) =
      if "annotations" = name then longAnnotations (Value.lookup? "annotations" entries)
      else Value.lookup? name entries := by
  unfold writeOutAnnotations longAnnotations
  cases ((Value.lookup? "annotations" entries).getD .null).opened with
  | null =>
      exact lookup?_removeEntry "annotations" name entries
  | mapping group =>
      exact Value.lookup?_put "annotations" name _ entries
  | _ =>
      by_cases same : "annotations" = name
      · rw [if_pos same, same]
      · rw [if_neg same]

/-- A variant is read from its long form, field by field. -/
theorem read_writeOutAnnotations_iff {variant : VariantDeclaration} :
    VariantDeclaration.read (.mapping (writeOutAnnotations entries)) = .accepted variant ↔
      required "name" readText entries = .accepted variant.name ∧
        Schema.optional "shape" none (readNullable Shape.read) entries = .accepted variant.shape ∧
        Schema.optional "fields" [] (readList readText) entries = .accepted variant.fields ∧
        ReadsGroups (longAnnotations (Value.lookup? "annotations" entries))
          variant.annotations := by
  have kept {name : String} (other : "annotations" ≠ name) :
      Value.lookup? name (writeOutAnnotations entries) = Value.lookup? name entries := by
    rw [lookup?_writeOutAnnotations, if_neg other]
  have written : Value.lookup? "annotations" (writeOutAnnotations entries) =
      longAnnotations (Value.lookup? "annotations" entries) := by
    rw [lookup?_writeOutAnnotations, if_pos rfl]
  rw [VariantDeclaration.read_mapping_eq_accepted_iff]
  simp only [required_eq_accepted_iff, optional_eq_accepted_iff, ReadsGroups, written,
    kept (show "annotations" ≠ "name" by decide), kept (show "annotations" ≠ "shape" by decide),
    kept (show "annotations" ≠ "fields" by decide)]

theorem writeOutVariant_of_mapping {variant : Value}
    (isMapping : variant.opened = .mapping entries) :
    writeOutVariant variant = .mapping (writeOutAnnotations entries) := by
  rw [writeOutVariant, isMapping]

/-- The entries of a declaration with its variants in their long form. -/
def longEntries (variants : List Value) (entries : List (Value × Value)) : List (Value × Value) :=
  Value.put (.text "variants") (.list (variants.map writeOutVariant)) entries

/-- A declaration is read from entries with given variants field by field. -/
theorem read_longEntries_iff {variants : List Value} {declaration : TypeDeclaration} :
    TypeDeclaration.read (.mapping (longEntries variants entries)) = .accepted declaration ↔
      required "name" readText entries = .accepted declaration.name ∧
        Schema.optional "kind" .enum (readChoice TypeKind.all TypeKind.name) entries =
          .accepted declaration.kind ∧
        List.Forall₂ (fun variant declared =>
          VariantDeclaration.read (writeOutVariant variant) = .accepted declared)
          variants declaration.variants := by
  rw [TypeDeclaration.read_mapping_eq_accepted_iff]
  simp only [longEntries, required_eq_accepted_iff, optional_eq_accepted_iff,
    readList_eq_accepted_iff, Value.lookup?_put, if_neg (show "variants" ≠ "name" by decide),
    if_neg (show "variants" ≠ "kind" by decide), if_pos]
  simp [items?, Value.opened]

/-- Entries come to what their long form is read as, and a rejection is reported. -/
theorem TypeDeclaration.ofEntries_of_declared {variants : List Value}
    (declared : declaredVariants entries = .ok variants) :
    ofEntries entries =
      ((TypeDeclaration.read (.mapping (longEntries variants entries))).toExcept
        "TypeDeclaration").mapError fun rejection =>
          .reported (.invalidDeclaration rejection) := by
  rw [ofEntries, declared]
  simp only [bind, Except.bind]
  unfold longEntries
  cases TypeDeclaration.read (.mapping
    (Value.put (.text "variants") (.list (variants.map writeOutVariant)) entries)) <;> rfl

/-- A declaration is read from entries field by field, its variants in their long form. -/
theorem TypeDeclaration.ofEntries_eq_ok_iff {declaration : TypeDeclaration} :
    ofEntries entries = .ok declaration ↔
      required "name" readText entries = .accepted declaration.name ∧
        Schema.optional "kind" .enum (readChoice TypeKind.all TypeKind.name) entries =
          .accepted declaration.kind ∧
        ∃ variants, declaredVariants entries = .ok variants ∧
          List.Forall₂ (fun variant declared =>
            VariantDeclaration.read (writeOutVariant variant) = .accepted declared)
            variants declaration.variants := by
  cases declared : declaredVariants entries with
  | error fault =>
      rw [ofEntries, declared]
      constructor
      · intro impossible
        cases impossible
      · rintro ⟨_, _, _, impossible, _⟩
        cases impossible
  | ok variants =>
      simp only [Except.ok.injEq, exists_eq_left', ← read_longEntries_iff]
      rw [ofEntries_of_declared declared]
      cases TypeDeclaration.read (.mapping (longEntries variants entries)) with
      | accepted found =>
          simp [Reading.toExcept, Except.mapError]
      | refused problems =>
          simp [Reading.toExcept, Except.mapError]

/-! ## Equivalent forms -/

/-- What stands under the key of annotations says the same: one group stands for the list of it,
and null for nothing. -/
inductive SameAnnotations : Option Value → Option Value → Prop
  | same (given? : Option Value) : SameAnnotations given? given?
  | group {content : Value} {group : List (Value × Value)} : content.opened = .mapping group →
      SameAnnotations (some content) (some (.list [content]))
  | nothing : SameAnnotations (some .null) none

/-- A variant is a short form of another one: a text stands for the mapping with this name, and the
annotations of mappings say the same. -/
inductive Abbreviates : Value → Value → Prop
  | name (name : String) : Abbreviates (.text name) (.mapping [(.text "name", .text name)])
  | annotations {variant other : Value} {entries others : List (Value × Value)} :
      variant.opened = .mapping entries → other.opened = .mapping others →
      SameAnnotations (Value.lookup? "annotations" entries) (Value.lookup? "annotations" others) →
      (∀ name, name ≠ "annotations" → Value.lookup? name others = Value.lookup? name entries) →
      Abbreviates variant other

/-- Two variants differ by short forms only. -/
abbrev SameVariant : Value → Value → Prop :=
  Relation.EqvGen Abbreviates

/-- Nothing, or something hollow, stands under a key. -/
def IsHollowOrAbsent (given? : Option Value) : Prop :=
  (given?.getD .null).opened.isHollow = true

/-- What stands under the key of variants says the same: anything hollow stands for an empty list,
and variants may differ by short forms. -/
inductive SameVariants : Option Value → Option Value → Prop
  | same (given? : Option Value) : SameVariants given? given?
  | nothing {given? other? : Option Value} : IsHollowOrAbsent given? → IsHollowOrAbsent other? →
      SameVariants given? other?
  | items {given other : Value} {items others : List Value} : given.opened = .list items →
      other.opened = .list others → List.Forall₂ SameVariant items others →
      SameVariants (some given) (some other)

/-- The entries of two declarations differ by short forms only. -/
structure SameDeclaration (entries others : List (Value × Value)) : Prop where
  variants : SameVariants (Value.lookup? "variants" entries) (Value.lookup? "variants" others)
  others : ∀ name, name ≠ "variants" → Value.lookup? name others = Value.lookup? name entries

/-- Two results of loading are the same value, or two faults that are reported, or the same
breakdown. -/
inductive SameOutcome {result : Type} : Except LoadFault result → Except LoadFault result → Prop
  | ok (value : result) : SameOutcome (.ok value) (.ok value)
  | reported (fault other : ConfigFault) :
      SameOutcome (.error (.reported fault)) (.error (.reported other))
  | brokenDown (cause : Breakdown) :
      SameOutcome (.error (.brokenDown cause)) (.error (.brokenDown cause))

theorem SameOutcome.refl {result : Type} (outcome : Except LoadFault result) :
    SameOutcome outcome outcome := by
  rcases outcome with (fault | cause) | value
  · exact .reported fault fault
  · exact .brokenDown cause
  · exact .ok value

/-! ## Equivalent forms come to the same -/

theorem readList_singleton_iff {content : Value} {groups : List AnnotationGroup} :
    readList readGroup (.list [content]) = .accepted groups ↔
      ∃ group, readGroup content = .accepted group ∧ groups = [group] := by
  rw [readList_eq_accepted_iff]
  simp [items?, Value.opened, List.forall₂_cons_left_iff]

theorem readGroup_of_opened {content : Value} {group : List (Value × Value)}
    (isMapping : content.opened = .mapping group) :
    readGroup content = readGroup (.mapping group) := by
  unfold readGroup
  rw [isMapping]
  rfl

/-- Annotations that say the same are read alike. -/
theorem SameAnnotations.read_iff {given? other? : Option Value} {groups : List AnnotationGroup}
    (same : SameAnnotations given? other?) :
    ReadsGroups (longAnnotations given?) groups ↔ ReadsGroups (longAnnotations other?) groups := by
  cases same with
  | same =>
      rfl
  | nothing =>
      rfl
  | @group content group isMapping =>
      have short : longAnnotations (some content) = some (.list [.mapping group]) := by
        rw [longAnnotations, Option.getD_some, isMapping]
      have long : longAnnotations (some (.list [content])) = some (.list [content]) := rfl
      rw [short, long]
      simp only [ReadsGroups, reduceCtorEq, false_and, false_or, Option.some.injEq, exists_eq_left',
        readList_singleton_iff, readGroup_of_opened isMapping]

theorem Abbreviates.read_iff {variant other : Value} (short : Abbreviates variant other)
    (declared : VariantDeclaration) :
    VariantDeclaration.read (writeOutVariant variant) = .accepted declared ↔
      VariantDeclaration.read (writeOutVariant other) = .accepted declared := by
  cases short with
  | name name =>
      rfl
  | annotations isMapping otherIsMapping annotations rest =>
      rw [writeOutVariant_of_mapping isMapping, writeOutVariant_of_mapping otherIsMapping,
        read_writeOutAnnotations_iff, read_writeOutAnnotations_iff, annotations.read_iff]
      simp only [required_eq_accepted_iff, optional_eq_accepted_iff,
        rest "name" (by decide), rest "shape" (by decide), rest "fields" (by decide)]

/-- Variants that differ by short forms only are read alike. -/
theorem read_iff_of_sameVariant {variant other : Value} (same : SameVariant variant other)
    (declared : VariantDeclaration) :
    VariantDeclaration.read (writeOutVariant variant) = .accepted declared ↔
      VariantDeclaration.read (writeOutVariant other) = .accepted declared := by
  induction same with
  | rel variant other short =>
      exact short.read_iff declared
  | refl variant =>
      rfl
  | symm variant other _ inductionHypothesis =>
      exact inductionHypothesis.symm
  | trans variant other third _ _ firstHypothesis secondHypothesis =>
      exact firstHypothesis.trans secondHypothesis

theorem declaredVariants_eq :
    declaredVariants entries =
      if (givenVariants entries).isHollow then .ok []
      else match givenVariants entries with
        | .list items => .ok items
        | other => .error (variantsFault entries other) := rfl

theorem declaredVariants_of_hollow
    (hollow : IsHollowOrAbsent (Value.lookup? "variants" entries)) :
    declaredVariants entries = .ok [] := by
  rw [declaredVariants_eq]
  exact if_pos hollow

theorem declaredVariants_of_list {given : Value} {items : List Value}
    (found : Value.lookup? "variants" entries = some given) (isList : given.opened = .list items) :
    declaredVariants entries = .ok items := by
  have givenItems : givenVariants entries = .list items := by
    rw [givenVariants, found, Option.getD_some, isList]
  rw [declaredVariants_eq, givenItems]
  cases items with
  | nil => rfl
  | cons item rest => rfl

theorem declaredVariants_congr
    (sameVariants : Value.lookup? "variants" others = Value.lookup? "variants" entries)
    (sameName : Value.lookup? "name" others = Value.lookup? "name" entries) :
    declaredVariants others = declaredVariants entries := by
  have sameFault (variants : Value) :
      variantsFault others variants = variantsFault entries variants := by
    unfold variantsFault
    rw [sameName]
  have given : givenVariants others = givenVariants entries := by
    rw [givenVariants, givenVariants, sameVariants]
  rw [declaredVariants_eq, declaredVariants_eq, given]
  simp only [sameFault]

/-- Declarations that differ by short forms only have variants that do so, or fail alike. -/
theorem SameDeclaration.declaredVariants_cases (same : SameDeclaration entries others) :
    (∃ variants otherVariants, declaredVariants entries = .ok variants ∧
        declaredVariants others = .ok otherVariants ∧
        List.Forall₂ SameVariant variants otherVariants) ∨
      ∃ fault, declaredVariants entries = .error fault ∧
        declaredVariants others = .error fault := by
  have given := same.variants
  -- The relation is about what is looked up, which is named before its cases are told apart.
  generalize found : Value.lookup? "variants" entries = given? at given
  generalize otherFound : Value.lookup? "variants" others = other? at given
  cases given with
  | same =>
      have sameResult : declaredVariants others = declaredVariants entries :=
        declaredVariants_congr (otherFound.trans found.symm) (same.others "name" (by decide))
      rw [sameResult]
      cases declaredVariants entries with
      | error fault =>
          exact Or.inr ⟨fault, rfl, rfl⟩
      | ok variants =>
          exact Or.inl ⟨variants, variants, rfl, rfl, List.forall₂_same.mpr fun variant _ =>
            .refl variant⟩
  | nothing hollow otherHollow =>
      subst found otherFound
      exact Or.inl ⟨[], [], declaredVariants_of_hollow hollow,
        declaredVariants_of_hollow otherHollow, .nil⟩
  | items isList otherIsList related =>
      exact Or.inl ⟨_, _, declaredVariants_of_list found isList,
        declaredVariants_of_list otherFound otherIsList, related⟩

/-- Short forms do not count: the same declaration comes of entries that differ by them, or both are
reported, or both break down from the same cause. -/
theorem TypeDeclaration.ofEntries_of_same (same : SameDeclaration entries others) :
    SameOutcome (ofEntries entries) (ofEntries others) := by
  rcases same.declaredVariants_cases with ⟨variants, otherVariants, declared, otherDeclared,
    related⟩ | ⟨fault, failed, otherFailed⟩
  · -- Readings are compared by what they accept: the problems of a refused one also tell the
    -- places in its entries, and these differ between the two forms.
    have sameReading (declaration : TypeDeclaration) :
        TypeDeclaration.read (.mapping (longEntries variants entries)) = .accepted declaration ↔
          TypeDeclaration.read (.mapping (longEntries otherVariants others)) =
            .accepted declaration := by
      have readAlike := forall₂_iff_of_alike related (fun _ _ => read_iff_of_sameVariant)
        declaration.variants
      rw [read_longEntries_iff, read_longEntries_iff, readAlike]
      simp only [required_eq_accepted_iff, optional_eq_accepted_iff, same.others "name" (by decide),
        same.others "kind" (by decide)]
    rw [ofEntries_of_declared declared, ofEntries_of_declared otherDeclared]
    cases read : TypeDeclaration.read (.mapping (longEntries variants entries)) with
    | accepted declaration =>
        rw [(sameReading declaration).mp read]
        exact .ok declaration
    | refused problems =>
        cases otherRead : TypeDeclaration.read (.mapping (longEntries otherVariants others)) with
        | accepted declaration =>
            rw [(sameReading declaration).mpr otherRead] at read
            cases read
        | refused otherProblems =>
            exact .reported _ _
  · have broken : ofEntries entries = .error fault := by
      rw [ofEntries, failed]
      rfl
    have otherBroken : ofEntries others = .error fault := by
      rw [ofEntries, otherFailed]
      rfl
    rw [broken, otherBroken]
    exact .refl _

end ErrorDerive
