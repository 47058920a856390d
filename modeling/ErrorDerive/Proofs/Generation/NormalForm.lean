import ErrorDerive.Proofs.Generation.Branches

/-!
# Normal forms of variants

Extraction brings the variants of a type into a normal form: the shape is settled, the fields are
numbered and stripped, and at most one annotation of each kind is left.  A row of variants in normal
form can be written back as a declaration, and extracting that gives the same row again.

* `IsNormalForm` says what a normal form is, and `Variant.declared` writes a variant back;
* `TypeDeclaration.exists_extract_iff` says that the normal forms are exactly what is extracted;
* `TypeDeclaration.extract_normalForm` is the result for one declaration.
-/

namespace ErrorDerive

/-! ## Writing variants back -/

/-- The annotations that are set, as one group. -/
def Annotations.entries (annotations : Annotations) : AnnotationGroup :=
  (annotations.formatStr.map fun content =>
      (AnnotationKey.formatStr.name, Value.text content)).toList ++
    (annotations.makeFrom.map fun flag =>
      (AnnotationKey.makeFrom.name, Value.bool flag)).toList ++
    (annotations.err.map fun flag => (AnnotationKey.err.name, Value.bool flag)).toList

/-- A variant as a declaration, with its shape spelled out and its annotations in one group. -/
def Variant.declared (variant : Variant) : VariantDeclaration where
  name := variant.name
  shape := some variant.shape
  fields := variant.fields.map Field.typeRef
  annotations := [variant.annotations.entries]

/-- An enum with the given variants, written back. -/
def TypeDeclaration.ofVariants (name : String) (variants : List Variant) : TypeDeclaration where
  name := name
  kind := .enum
  variants := variants.map Variant.declared

/-! ## Normal forms -/

/-- A variant with an identifier as its name, as a unit without fields or a tuple, whose fields are
numbered from zero and stripped. -/
structure Variant.IsNormal (variant : Variant) : Prop where
  isNamed : Text.isIdentifier variant.name = true
  shape : variant.shape = .unit ∧ variant.fields = [] ∨ variant.shape = .tuple
  indices : ∀ (place : Nat) (field : Field), variant.fields[place]? = some field →
    field.index = place
  notEmpty : ∀ field ∈ variant.fields, field.typeRef ≠ ""
  stripped : ∀ field ∈ variant.fields, Text.strip field.typeRef = field.typeRef

/-- Variants in normal form, no two of one name. -/
structure IsNormalForm (variants : List Variant) : Prop where
  distinct : (variants.map Variant.name).Nodup
  normal : ∀ variant ∈ variants, variant.IsNormal

theorem getElem?_numbered (index : Nat) (fields : List String) (place : Nat) :
    (numbered index fields)[place]? =
      fields[place]?.map fun typeRef => ⟨(index + place : Nat), Text.strip typeRef⟩ := by
  simp [numbered, List.getElem?_zipIdx, Option.map_map, Function.comp_def]

/-! ## What is extracted is normal -/

namespace VariantDeclaration

variable {declared : VariantDeclaration}

theorem map_typeRef_form (declared : VariantDeclaration) :
    declared.form.fields.map Field.typeRef = declared.fields.map Text.strip := by
  apply List.ext_getElem?
  intro place
  show ((numbered 0 declared.fields).map Field.typeRef)[place]? = _
  rw [List.getElem?_map, List.getElem?_map, getElem?_numbered, Option.map_map]
  rfl

theorem exists_typeRef_of_mem_form_fields {field : Field} (member : field ∈ declared.form.fields) :
    ∃ typeRef ∈ declared.fields, Text.strip typeRef = field.typeRef := by
  have isTypeRef : field.typeRef ∈ declared.form.fields.map Field.typeRef :=
    List.mem_map_of_mem member
  rw [map_typeRef_form] at isTypeRef
  exact List.mem_map.mp isTypeRef

theorem Suits.isNormal_form (suits : declared.Suits)
    (isNamed : Text.isIdentifier declared.name = true) : declared.form.IsNormal where
  isNamed := isNamed
  shape := by
    rcases suits.formShape_cases with ⟨isUnit, noFields⟩ | isTuple
    · refine Or.inl ⟨isUnit, ?_⟩
      show numbered 0 declared.fields = []
      rw [noFields]
      rfl
    · exact Or.inr isTuple
  indices := by
    intro place field found
    have isNumbered : (numbered 0 declared.fields)[place]? = some field := found
    rw [getElem?_numbered, Option.map_eq_some_iff] at isNumbered
    obtain ⟨typeRef, _, rfl⟩ := isNumbered
    rw [Nat.zero_add]
  notEmpty := by
    intro field member
    obtain ⟨typeRef, isField, same⟩ := exists_typeRef_of_mem_form_fields member
    rw [← same]
    exact suits.fields typeRef isField
  stripped := by
    intro field member
    obtain ⟨typeRef, _, same⟩ := exists_typeRef_of_mem_form_fields member
    rw [← same, Text.strip_strip]

end VariantDeclaration

/-! ## What is normal is extracted again -/

namespace Annotations

theorem ofEntries_entries (annotations : Annotations) :
    ofEntries annotations.entries = annotations := by
  obtain ⟨formatStr, makeFrom, err⟩ := annotations
  cases formatStr <;> cases makeFrom <;> cases err <;> rfl

theorem entriesSuit_entries (annotations : Annotations) : EntriesSuit annotations.entries where
  known := by
    intro entry member
    simp only [entries, List.mem_append, Option.mem_toList, Option.map_eq_some_iff] at member
    rcases member with (⟨content, _, rfl⟩ | ⟨flag, _, rfl⟩) | ⟨flag, _, rfl⟩
    · exact ⟨.formatStr, rfl, content, rfl⟩
    · exact ⟨.makeFrom, rfl, flag, rfl⟩
    · exact ⟨.err, rfl, flag, rfl⟩
  distinct := by
    obtain ⟨formatStr, makeFrom, err⟩ := annotations
    -- Which keys occur is all that counts, and no two keys have one name.
    have names : ∀ first second third : Bool,
        ((if first then [AnnotationKey.formatStr.name] else []) ++
          (if second then [AnnotationKey.makeFrom.name] else []) ++
          (if third then [AnnotationKey.err.name] else [])).Nodup := by
      decide
    have occurring := names formatStr.isSome makeFrom.isSome err.isSome
    cases formatStr <;> cases makeFrom <;> cases err <;> exact occurring

end Annotations

namespace Variant

variable {variant : Variant}

theorem IsNormal.numbered_eq (normal : variant.IsNormal) :
    numbered 0 (variant.fields.map Field.typeRef) = variant.fields := by
  apply List.ext_getElem?
  intro place
  rw [getElem?_numbered, List.getElem?_map, Option.map_map]
  cases found : variant.fields[place]? with
  | none =>
      rfl
  | some field =>
      obtain ⟨index, typeRef⟩ := field
      have sameIndex : index = place := normal.indices place ⟨index, typeRef⟩ found
      have stripped : Text.strip typeRef = typeRef :=
        normal.stripped ⟨index, typeRef⟩ (List.mem_of_getElem? found)
      simp [sameIndex, stripped]

theorem IsNormal.form_declared (normal : variant.IsNormal) : variant.declared.form = variant := by
  have annotated : variant.declared.entries = variant.annotations.entries :=
    List.append_nil _
  show Variant.mk variant.name variant.shape (numbered 0 (variant.fields.map Field.typeRef))
    (.ofEntries variant.declared.entries) = variant
  rw [normal.numbered_eq, annotated, Annotations.ofEntries_entries]

theorem IsNormal.suits_declared (normal : variant.IsNormal) : variant.declared.Suits where
  shape := by
    have shape : variant.declared.shape = some variant.shape := rfl
    rcases normal.shape with ⟨isUnit, noFields⟩ | isTuple
    · refine ⟨by rw [shape, isUnit]; decide, fun _ => ?_⟩
      show variant.fields.map Field.typeRef = []
      rw [noFields]
      rfl
    · rw [isTuple] at shape
      exact ⟨by rw [shape]; decide, fun isUnit => absurd (shape.symm.trans isUnit) (by decide)⟩
  fields := by
    intro typeRef member
    obtain ⟨field, isField, rfl⟩ := List.mem_map.mp member
    rw [normal.stripped field isField]
    exact normal.notEmpty field isField
  annotations := by
    have annotated : variant.declared.entries = variant.annotations.entries :=
      List.append_nil _
    rw [annotated]
    exact variant.annotations.entriesSuit_entries

end Variant

namespace TypeDeclaration

variable {variants : List Variant}

theorem extract_ofVariants {name : String} (isNamed : Text.isIdentifier name = true)
    (normalForm : IsNormalForm variants) : (ofVariants name variants).extract = .ok variants := by
  have suit : VariantsSuit [] (variants.map Variant.declared) := by
    refine ⟨?_, ?_, ?_, ?_⟩
    · exact List.forall_mem_map.mpr fun variant member => (normalForm.normal variant member).isNamed
    · rw [List.map_map]
      exact normalForm.distinct
    · simp
    · exact List.forall_mem_map.mpr fun variant member =>
        (normalForm.normal variant member).suits_declared
  have same : (variants.map Variant.declared).map VariantDeclaration.form = variants := by
    rw [List.map_map]
    have each : ∀ variant ∈ variants, variant.declared.form = variant :=
      fun variant member => (normalForm.normal variant member).form_declared
    exact (List.map_congr_left each).trans (List.map_id variants)
  have extracted := (judges_extract (ofVariants name variants)).succeeds ⟨rfl, isNamed, suit⟩
  rw [extracted]
  exact congrArg Except.ok same

theorem isNormalForm_of_extract {declaration : TypeDeclaration}
    (extracted : declaration.extract = .ok variants) : IsNormalForm variants := by
  obtain ⟨⟨_, _, suit⟩, rfl⟩ := (judges_extract declaration).eq_ok_iff.mp extracted
  refine ⟨?_, ?_⟩
  · rw [List.map_map]
    exact suit.distinct
  · exact List.forall_mem_map.mpr fun declared member =>
      (suit.suit declared member).isNormal_form (suit.identifiers declared member)

/-- Normal forms are exactly what is extracted from the declarations of a type. -/
theorem exists_extract_iff {name : String} (variants : List Variant) :
    (∃ declaration : TypeDeclaration, declaration.name = name ∧
        declaration.extract = .ok variants) ↔
      Text.isIdentifier name = true ∧ IsNormalForm variants := by
  constructor
  · rintro ⟨declaration, rfl, extracted⟩
    have conditions := ((judges_extract declaration).eq_ok_iff.mp extracted).1
    exact ⟨conditions.2.1, isNormalForm_of_extract extracted⟩
  · rintro ⟨isNamed, normalForm⟩
    exact ⟨ofVariants name variants, rfl, extract_ofVariants isNamed normalForm⟩

/-- What is extracted is in normal form, variant by variant in the order of the declaration and with
its types stripped; and it is extracted again from the declaration that writes it back. -/
theorem extract_normalForm {declaration : TypeDeclaration}
    (extracted : declaration.extract = .ok variants) :
    List.Forall₂ (fun (declared : VariantDeclaration) (variant : Variant) =>
        variant.name = declared.name ∧
          variant.fields.map Field.typeRef = declared.fields.map Text.strip)
      declaration.variants variants ∧
    IsNormalForm variants ∧
    (ofVariants declaration.name variants).extract = .ok variants := by
  have normalForm := isNormalForm_of_extract extracted
  obtain ⟨⟨_, isNamed, _⟩, rfl⟩ := (judges_extract declaration).eq_ok_iff.mp extracted
  refine ⟨?_, normalForm, extract_ofVariants isNamed normalForm⟩
  rw [List.forall₂_map_right_iff, List.forall₂_same]
  intro declared _
  exact ⟨rfl, declared.map_typeRef_form⟩

/-- A tuple without fields, and a variant with blanks around its types and with annotations, one of
them false and one empty, in several groups. -/
def loosenedType : TypeDeclaration :=
  ⟨"Fault", .enum, [⟨"Hollow", some .tuple, [], []⟩, ⟨"Bare", none, [], [[], []]⟩,
    ⟨"Wrapped", none, ["\u2003io::Error\u00a0", " u32\n"],
      [[("err", .bool false)], [], [("format_str", .text "")]]⟩]⟩

/-- The tuple without fields stays a tuple, and neither the false annotation nor the empty one gets
lost. -/
theorem extract_normalForm_loosenedType :
    ∃ variants, loosenedType.extract = .ok variants ∧
      variants = [⟨"Hollow", .tuple, [], {}⟩, ⟨"Bare", .unit, [], {}⟩,
        ⟨"Wrapped", .tuple, [⟨0, "io::Error"⟩, ⟨1, "u32"⟩],
          { formatStr := some "", err := some false }⟩] ∧
      IsNormalForm variants ∧ (ofVariants "Fault" variants).extract = .ok variants := by
  have extracted : loosenedType.extract = .ok [⟨"Hollow", .tuple, [], {}⟩, ⟨"Bare", .unit, [], {}⟩,
      ⟨"Wrapped", .tuple, [⟨0, "io::Error"⟩, ⟨1, "u32"⟩],
        { formatStr := some "", err := some false }⟩] := by
    rfl
  obtain ⟨_, normalForm, again⟩ := extract_normalForm extracted
  exact ⟨_, extracted, rfl, normalForm, again⟩

end TypeDeclaration

end ErrorDerive
