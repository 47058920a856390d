import ErrorDerive.Proofs.Loading.Shorthands

/-!
# Written declarations

A declaration is written out with all its fields, and reading the entries gives the declaration
itself.

* `TypeDeclaration.writtenEntries` are the entries of a declaration;
* `TypeDeclaration.ofEntries_writtenEntries` reads them back;
* `TypeDeclaration.keysAreDistinct_of_ofEntries` says that every declaration that was read can be
  written so.
-/

namespace ErrorDerive

open Schema

/-! ## Declarations as entries -/

/-- A group of annotations as a value. -/
def writtenGroup (group : AnnotationGroup) : Value :=
  .mapping (group.map fun entry => (.text entry.1, entry.2))

/-- A shape as a value, null where none is given. -/
def writtenShape : Option Shape → Value
  | some shape => .text shape.name
  | none => .null

/-- A variant as a value with all its fields. -/
def VariantDeclaration.written (variant : VariantDeclaration) : Value :=
  .mapping [(.text "name", .text variant.name), (.text "shape", writtenShape variant.shape),
    (.text "fields", .list (variant.fields.map .text)),
    (.text "annotations", .list (variant.annotations.map writtenGroup))]

/-- The entries of a declaration, all its fields among them. -/
def TypeDeclaration.writtenEntries (declaration : TypeDeclaration) : List (Value × Value) :=
  [(.text "name", .text declaration.name), (.text "kind", .text declaration.kind.name),
    (.text "variants", .list (declaration.variants.map VariantDeclaration.written))]

/-- No group of annotations holds a key twice. -/
def VariantDeclaration.KeysAreDistinct (variant : VariantDeclaration) : Prop :=
  ∀ group ∈ variant.annotations, (group.map Prod.fst).Nodup

/-- No group of annotations in a declaration holds a key twice. -/
def TypeDeclaration.KeysAreDistinct (declaration : TypeDeclaration) : Prop :=
  ∀ variant ∈ declaration.variants, variant.KeysAreDistinct

/-! ## Groups with distinct keys -/

theorem putNamed_of_not_mem {entry : String × Value} {group : AnnotationGroup}
    (unused : entry.1 ∉ group.map Prod.fst) : putNamed entry group = group ++ [entry] := by
  induction group with
  | nil =>
      rfl
  | cons first rest inductionHypothesis =>
      rw [List.map_cons, List.mem_cons, not_or] at unused
      rw [putNamed, if_neg unused.1, inductionHypothesis unused.2, List.cons_append]

/-- Writing entries with distinct keys keeps them all in order. -/
theorem foldl_putNamed_of_nodup {seen group : AnnotationGroup}
    (distinct : ((seen ++ group).map Prod.fst).Nodup) :
    group.foldl (fun seen entry => putNamed entry seen) seen = seen ++ group := by
  induction group generalizing seen with
  | nil =>
      rw [List.foldl_nil, List.append_nil]
  | cons entry rest inductionHypothesis =>
      have regroup : seen ++ entry :: rest = seen ++ [entry] ++ rest := by simp
      rw [regroup] at distinct ⊢
      -- The key of the next entry is unused, so this entry is written at the end.
      have earlier : ((seen ++ [entry]).map Prod.fst).Nodup := by
        rw [List.map_append] at distinct
        exact (List.nodup_append.mp distinct).1
      have unused : entry.1 ∉ seen.map Prod.fst := by
        rw [List.map_append, List.map_singleton, List.nodup_append] at earlier
        intro used
        exact earlier.2.2 entry.1 used entry.1 (List.mem_singleton_self _) rfl
      rw [List.foldl_cons, putNamed_of_not_mem unused, inductionHypothesis distinct]

theorem mem_map_fst_putNamed {entry : String × Value} {group : AnnotationGroup} {key : String} :
    key ∈ (putNamed entry group).map Prod.fst ↔ key = entry.1 ∨ key ∈ group.map Prod.fst := by
  induction group with
  | nil =>
      simp [putNamed]
  | cons first rest inductionHypothesis =>
      rw [putNamed]
      by_cases same : entry.1 = first.1
      · rw [if_pos same, List.map_cons, List.map_cons, List.mem_cons, List.mem_cons, same]
        tauto
      · rw [if_neg same, List.map_cons, List.map_cons, List.mem_cons, List.mem_cons,
          inductionHypothesis]
        tauto

theorem nodup_putNamed {entry : String × Value} {group : AnnotationGroup}
    (distinct : (group.map Prod.fst).Nodup) : ((putNamed entry group).map Prod.fst).Nodup := by
  induction group with
  | nil =>
      simp [putNamed]
  | cons first rest inductionHypothesis =>
      rw [List.map_cons, List.nodup_cons] at distinct
      rw [putNamed]
      by_cases same : entry.1 = first.1
      · rw [if_pos same, List.map_cons, List.nodup_cons, same]
        exact distinct
      · rw [if_neg same, List.map_cons, List.nodup_cons, mem_map_fst_putNamed, not_or]
        exact ⟨⟨Ne.symm same, distinct.1⟩, inductionHypothesis distinct.2⟩

theorem nodup_foldl_putNamed {seen group : AnnotationGroup} (distinct : (seen.map Prod.fst).Nodup) :
    ((group.foldl (fun seen entry => putNamed entry seen) seen).map Prod.fst).Nodup := by
  induction group generalizing seen with
  | nil =>
      exact distinct
  | cons entry rest inductionHypothesis =>
      exact inductionHypothesis (nodup_putNamed distinct)

/-! ## Reading back -/

theorem readEntries_texts (group : AnnotationGroup) :
    readEntries (group.map fun entry => (.text entry.1, entry.2)) = .accepted group := by
  induction group with
  | nil =>
      rfl
  | cons entry rest inductionHypothesis =>
      rw [List.map_cons, readEntries, inductionHypothesis]
      rfl

theorem readGroup_writtenGroup {group : AnnotationGroup} (distinct : (group.map Prod.fst).Nodup) :
    readGroup (writtenGroup group) = .accepted group := by
  have fold : readGroup (writtenGroup group) =
      (readEntries (group.map fun entry => (.text entry.1, entry.2))).map fun named =>
        named.foldl (fun seen entry => putNamed entry seen) [] := rfl
  rw [fold, readEntries_texts, Reading.map, foldl_putNamed_of_nodup (by simpa using distinct),
    List.nil_append]

theorem readShape_writtenShape (shape? : Option Shape) :
    readNullable Shape.read (writtenShape shape?) = .accepted shape? := by
  rcases shape? with _ | shape
  · rfl
  · cases shape <;> rfl

theorem readKind_name (kind : TypeKind) :
    readChoice TypeKind.all TypeKind.name (.text kind.name) = .accepted kind := by
  cases kind <;> rfl

theorem VariantDeclaration.read_written {variant : VariantDeclaration}
    (distinct : variant.KeysAreDistinct) :
    VariantDeclaration.read (writeOutVariant variant.written) = .accepted variant := by
  have unchanged : writeOutVariant variant.written = variant.written := rfl
  rw [unchanged, written, read_mapping_eq_accepted_iff]
  simp only [required_eq_accepted_iff, optional_eq_accepted_iff]
  refine ⟨⟨_, rfl, rfl⟩, Or.inr ⟨_, rfl, readShape_writtenShape variant.shape⟩,
    Or.inr ⟨_, rfl, ?_⟩, Or.inr ⟨_, rfl, ?_⟩⟩
  · exact readList_map_of_reads fun field _ => rfl
  · exact readList_map_of_reads fun group member => readGroup_writtenGroup (distinct group member)

/-- A declaration that is written out is read back. -/
theorem TypeDeclaration.ofEntries_writtenEntries {declaration : TypeDeclaration}
    (distinct : declaration.KeysAreDistinct) :
    ofEntries declaration.writtenEntries = .ok declaration := by
  have declared : declaredVariants declaration.writtenEntries =
      .ok (declaration.variants.map VariantDeclaration.written) :=
    declaredVariants_of_list rfl rfl
  rw [ofEntries_eq_ok_iff]
  simp only [required_eq_accepted_iff, optional_eq_accepted_iff]
  refine ⟨⟨_, rfl, rfl⟩, Or.inr ⟨_, rfl, readKind_name declaration.kind⟩, _, declared, ?_⟩
  rw [List.forall₂_map_left_iff]
  exact List.forall₂_same.mpr fun variant member =>
    VariantDeclaration.read_written (distinct variant member)

/-! ## Declarations that were read -/

theorem nodup_of_readGroup {content : Value} {group : AnnotationGroup}
    (read : readGroup content = .accepted group) : (group.map Prod.fst).Nodup := by
  unfold readGroup at read
  split at read
  next entries isMapping =>
    obtain ⟨named, _, rfl⟩ := Reading.map_eq_accepted_iff.mp read
    exact nodup_foldl_putNamed List.nodup_nil
  next =>
    cases read

/-- What is read from items is read from one of them each. -/
theorem exists_of_mem_read {data : Type} {read : Value → Reading data} {items : List Value}
    {results : List data} (reads : List.Forall₂ (fun item datum => read item = .accepted datum)
      items results) {datum : data} (member : datum ∈ results) :
    ∃ item, read item = .accepted datum := by
  induction reads with
  | nil =>
      cases member
  | cons first _ inductionHypothesis =>
      rcases List.mem_cons.mp member with rfl | member
      · exact ⟨_, first⟩
      · exact inductionHypothesis member

theorem VariantDeclaration.keysAreDistinct_of_read {value : Value} {variant : VariantDeclaration}
    (read : VariantDeclaration.read value = .accepted variant) : variant.KeysAreDistinct := by
  obtain ⟨entries, _, entriesRead⟩ := readRecord_eq_accepted_iff.mp read
  obtain ⟨_, _, _, groupsRead⟩ := read_mapping_eq_accepted_iff.mp entriesRead
  intro group member
  rcases optional_eq_accepted_iff.mp groupsRead with ⟨_, empty⟩ | ⟨content, _, groups⟩
  · rw [empty] at member
    cases member
  · obtain ⟨items, _, reads⟩ := readList_eq_accepted_iff.mp groups
    obtain ⟨item, isGroup⟩ := exists_of_mem_read reads member
    exact nodup_of_readGroup isGroup

/-- A declaration that was read holds no key twice in a group, so it can be written out. -/
theorem TypeDeclaration.keysAreDistinct_of_ofEntries {entries : List (Value × Value)}
    {declaration : TypeDeclaration} (read : ofEntries entries = .ok declaration) :
    declaration.KeysAreDistinct := by
  obtain ⟨_, _, variants, _, reads⟩ := ofEntries_eq_ok_iff.mp read
  intro variant member
  obtain ⟨value, isVariant⟩ := exists_of_mem_read
    (List.forall₂_map_left_iff.mpr reads : List.Forall₂
      (fun value declared => VariantDeclaration.read value = .accepted declared) _ _) member
  exact VariantDeclaration.keysAreDistinct_of_read isVariant

end ErrorDerive
