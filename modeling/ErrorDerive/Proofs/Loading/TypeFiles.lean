import ErrorDerive.Proofs.Loading.Dumps

/-!
# Files of several types

A file with a list of mappings under the key `types` declares one type with each of them, and a
file without this key declares a single type.

* `declarationsOfEntries_of_types` and `declarationsOfEntries_of_single` say how both are loaded;
* `Workplace.loadDeclarations_lawful` puts together what holds of loading declarations: short forms
  do not count, written declarations are read back, and types are loaded one by one;
* `declarationsOfEntries_overlongName` is a file that is neither loaded nor reported.
-/

namespace ErrorDerive

variable {path : Path} {entries : List (Value × Value)}

theorem mapM_eq_ok_iff {item fault result : Type} {check : item → Except fault result}
    {items : List item} {results : List result} :
    items.mapM check = .ok results ↔
      List.Forall₂ (fun given value => check given = .ok value) items results := by
  induction items generalizing results with
  | nil =>
      rw [List.mapM_nil, List.forall₂_nil_left_iff]
      constructor
      · intro same
        cases same
        rfl
      · rintro rfl
        rfl
  | cons head tail inductionHypothesis =>
      rw [List.mapM_cons, List.forall₂_cons_left_iff, Judges.bind_eq_ok_iff]
      simp only [Judges.bind_eq_ok_iff, inductionHypothesis]
      constructor
      · rintro ⟨value, first, values, rest, same⟩
        cases same
        exact ⟨value, values, first, rest, rfl⟩
      · rintro ⟨value, values, first, rest, rfl⟩
        exact ⟨value, first, values, rest, rfl⟩

/-- Values are mappings with the given entries, one by one. -/
def AreMappings (values : List Value) (mappings : List (List (Value × Value))) : Prop :=
  List.Forall₂ (fun value entries => value.opened = .mapping entries) values mappings

theorem TypeDeclaration.ofValue_of_mapping {value : Value}
    (isMapping : value.opened = .mapping entries) : ofValue path value = ofEntries entries := by
  unfold ofValue
  rw [isMapping]

theorem mapM_ofValue {values : List Value} {mappings : List (List (Value × Value))}
    (areMappings : AreMappings values mappings) :
    values.mapM (TypeDeclaration.ofValue path) = mappings.mapM TypeDeclaration.ofEntries := by
  induction areMappings with
  | nil =>
      rfl
  | cons isMapping _ inductionHypothesis =>
      rw [List.mapM_cons, List.mapM_cons, TypeDeclaration.ofValue_of_mapping isMapping,
        inductionHypothesis]

theorem declarationsOfEntries_of_declaring {values : List Value}
    (declaring : declaringValues path entries = .ok values) :
    declarationsOfEntries path entries = values.mapM (TypeDeclaration.ofValue path) := by
  rw [declarationsOfEntries, declaring]
  rfl

/-- The types in a list are declared one by one. -/
theorem declarationsOfEntries_of_types {values : List Value}
    {mappings : List (List (Value × Value))}
    (listed : (Value.lookup? "types" entries).map Value.opened = some (.list values))
    (areMappings : AreMappings values mappings) (nonempty : mappings ≠ []) :
    declarationsOfEntries path entries = mappings.mapM TypeDeclaration.ofEntries := by
  have declaring : declaringValues path entries = .ok values := by
    cases areMappings with
    | nil =>
        exact absurd rfl nonempty
    | cons =>
        unfold declaringValues
        rw [listed]
  rw [declarationsOfEntries_of_declaring declaring, mapM_ofValue areMappings]

/-- A single type is declared by a whole file. -/
theorem declarationsOfEntries_of_single (unlisted : Value.lookup? "types" entries = none)
    (nonempty : entries ≠ []) :
    declarationsOfEntries path entries = [entries].mapM TypeDeclaration.ofEntries := by
  have declaring : declaringValues path entries = .ok [.mapping entries] := by
    unfold declaringValues
    rw [unlisted]
    dsimp only [Option.map_none]
    rw [if_neg]
    rwa [List.isEmpty_iff]
  rw [declarationsOfEntries_of_declaring declaring]
  exact mapM_ofValue (.cons rfl .nil)

theorem mapM_ofEntries_eq_brokenDown_iff {mappings : List (List (Value × Value))}
    {cause : Breakdown} :
    mappings.mapM TypeDeclaration.ofEntries = .error (.brokenDown cause) ↔
      Judges.FirstFlaw (fun entries => ∃ declaration,
        TypeDeclaration.ofEntries entries = .ok declaration) NameBreaks mappings cause := by
  rw [Judges.mapM_eq_error_iff]
  simp only [Judges.FirstFlaw, ofEntries_eq_brokenDown_iff]

theorem Workplace.loadDeclarations_of_read {workplace : Workplace}
    (read : workplace.readMapping path = .ok entries) :
    workplace.loadDeclarations path = declarationsOfEntries path entries := by
  rw [loadDeclarations, read]
  rfl

/-! ## Forms and files of one declaration -/

/-- The key and the text of entries with a single text. -/
def loneText? : List (Value × Value) → Option (String × String)
  | [(.text key, .text content)] => some (key, content)
  | _ => none

/-- The same of entries with a list of a single mapping, and the key of the list. -/
def loneMapping? : List (Value × Value) → Option (String × String × String)
  | [(.text key, .list [.mapping inner])] => (loneText? inner).map fun text => (key, text)
  | _ => none

theorem eq_of_loneText? {key content : String} (lone : loneText? entries = some (key, content)) :
    entries = [(.text key, .text content)] := by
  unfold loneText? at lone
  split at lone
  next =>
    cases lone
    rfl
  next =>
    cases lone

theorem eq_of_loneMapping? {key inner content : String}
    (lone : loneMapping? entries = some (key, inner, content)) :
    entries = [(.text key, .list [.mapping [(.text inner, .text content)]])] := by
  unfold loneMapping? at lone
  split at lone
  next =>
    obtain ⟨text, found, same⟩ := Option.map_eq_some_iff.mp lone
    cases same
    rw [eq_of_loneText? found]
  next =>
    cases lone

/-- The declaration of a type without variants. -/
def emptyType : TypeDeclaration where
  name := "E"

/-- The declaration of a type with two groups of annotations on its variant. -/
def annotatedType : TypeDeclaration where
  name := "E"
  variants := [{
    name := "A"
    annotations := [[("err", .bool true), ("format_str", .text "x")], [("err", .null)]] }]

theorem keysAreDistinct_annotatedType : annotatedType.KeysAreDistinct := by
  simp [annotatedType, TypeDeclaration.KeysAreDistinct, VariantDeclaration.KeysAreDistinct]

/-- A declaration with all short forms. -/
def shortForms : List (Value × Value) :=
  [(.text "name", .text "E"), (.text "variants", .list [.text "A",
    .mapping [(.text "name", .text "B"),
      (.text "annotations", .mapping [(.text "err", .bool true)])],
    .mapping [(.text "name", .text "C"), (.text "annotations", .null)]])]

/-- The same declaration without short forms. -/
def longForms : List (Value × Value) :=
  [(.text "variants", .list [.mapping [(.text "name", .text "A")],
    .mapping [(.text "name", .text "B"),
      (.text "annotations", .list [.mapping [(.text "err", .bool true)]])],
    .mapping [(.text "name", .text "C")]]), (.text "name", .text "E")]

theorem sameDeclaration_forms : SameDeclaration shortForms longForms where
  variants := by
    refine .items rfl rfl (.cons (.rel _ _ (.name "A")) (.cons
      (.rel _ _ (.annotations rfl rfl (.group rfl) ?_)) (.cons
      (.rel _ _ (.annotations rfl rfl .nothing ?_)) .nil)))
    · intro name other
      simp [Value.lookup?, other.symm]
    · intro name other
      simp [Value.lookup?, other.symm]
  others := by
    intro name other
    simp [shortForms, longForms, Value.lookup?, other.symm]

/-- A folder with a file that holds a list of one type. -/
def listFolder : Workplace :=
  Workplace.declarationFolder "types: [\x7bname: E\x7d]\n".toUTF8.toList

/-- A folder with a file that holds the same type alone. -/
def loneFolder : Workplace :=
  Workplace.declarationFolder "name: E\n".toUTF8.toList

theorem listFolder_read :
    listFolder.readMapping (.ofText "e.yml") =
      .ok [(.text "types", .list [.mapping [(.text "name", .text "E")]])] :=
  eq_ok_of_found loneMapping? ("types", "name", "E") (by decide +kernel) fun _ => eq_of_loneMapping?

theorem loneFolder_read :
    loneFolder.readMapping (.ofText "e.yml") = .ok [(.text "name", .text "E")] :=
  eq_ok_of_found loneText? ("name", "E") (by decide +kernel) fun _ => eq_of_loneText?

/-! ## Loading -/

/-- What holds of loading declarations.  Entries that differ by short forms only come to the same,
and a declaration that is written out is read back.  The mappings in a list of types are loaded one
by one, so the first one that fails decides, and the run breaks down exactly if its name must be
reported and cannot be shown; a single type may stand in a file of its own as well. -/
theorem Workplace.loadDeclarations_lawful (workplace : Workplace) (path : Path) :
    (∀ entries others, SameDeclaration entries others →
      SameOutcome (TypeDeclaration.ofEntries entries) (TypeDeclaration.ofEntries others)) ∧
    (∀ declaration : TypeDeclaration, declaration.KeysAreDistinct →
      TypeDeclaration.ofEntries declaration.writtenEntries = .ok declaration) ∧
    (∀ entries values mappings, workplace.readMapping path = .ok entries →
      (Value.lookup? "types" entries).map Value.opened = some (.list values) →
      AreMappings values mappings → mappings ≠ [] →
      (∀ declarations, workplace.loadDeclarations path = .ok declarations ↔
        List.Forall₂ (fun mapping declaration =>
          TypeDeclaration.ofEntries mapping = .ok declaration) mappings declarations) ∧
      (∀ fault, workplace.loadDeclarations path = .error fault ↔
        Judges.FirstFlaw (fun mapping => ∃ declaration,
            TypeDeclaration.ofEntries mapping = .ok declaration)
          (fun mapping blame => TypeDeclaration.ofEntries mapping = .error blame)
          mappings fault) ∧
      ∀ cause, workplace.loadDeclarations path = .error (.brokenDown cause) ↔
        Judges.FirstFlaw (fun mapping => ∃ declaration,
          TypeDeclaration.ofEntries mapping = .ok declaration) NameBreaks mappings cause) ∧
    ∀ mapping (other : Workplace) otherPath entries value,
      workplace.readMapping path = .ok mapping → mapping ≠ [] →
      Value.lookup? "types" mapping = none → other.readMapping otherPath = .ok entries →
      (Value.lookup? "types" entries).map Value.opened = some (.list [value]) →
      value.opened = .mapping mapping →
      workplace.loadDeclarations path = other.loadDeclarations otherPath := by
  refine ⟨fun _ _ => TypeDeclaration.ofEntries_of_same,
    fun _ => TypeDeclaration.ofEntries_writtenEntries, ?_, ?_⟩
  · intro entries values mappings read listed areMappings nonempty
    rw [loadDeclarations_of_read read, declarationsOfEntries_of_types listed areMappings nonempty]
    exact ⟨fun _ => mapM_eq_ok_iff, fun _ => Judges.mapM_eq_error_iff,
      fun _ => mapM_ofEntries_eq_brokenDown_iff⟩
  · intro mapping other otherPath entries value read nonempty unlisted otherRead listed isMapping
    rw [loadDeclarations_of_read read, loadDeclarations_of_read otherRead,
      declarationsOfEntries_of_single unlisted nonempty,
      declarationsOfEntries_of_types listed (.cons isMapping .nil) (List.cons_ne_nil mapping [])]

theorem Workplace.loadDeclarations_lawful_forms :
    SameOutcome (TypeDeclaration.ofEntries shortForms) (TypeDeclaration.ofEntries longForms) ∧
      TypeDeclaration.ofEntries annotatedType.writtenEntries = .ok annotatedType ∧
      listFolder.loadDeclarations (.ofText "e.yml") = .ok [emptyType] ∧
      loneFolder.loadDeclarations (.ofText "e.yml") = .ok [emptyType] := by
  obtain ⟨sameOutcome, readsBack, loadsTypes, _⟩ :=
    loadDeclarations_lawful listFolder (.ofText "e.yml")
  obtain ⟨_, _, _, loadsAlone⟩ := loadDeclarations_lawful loneFolder (.ofText "e.yml")
  have listLoaded : listFolder.loadDeclarations (.ofText "e.yml") = .ok [emptyType] := by
    obtain ⟨loads, _⟩ := loadsTypes _ _ _ listFolder_read rfl (.cons rfl .nil)
      (List.cons_ne_nil _ [])
    exact (loads [emptyType]).mpr (.cons rfl .nil)
  have sameFile := loadsAlone _ _ _ _ _ loneFolder_read (List.cons_ne_nil _ []) rfl
    listFolder_read rfl rfl
  exact ⟨sameOutcome _ _ sameDeclaration_forms, readsBack _ keysAreDistinct_annotatedType,
    listLoaded, sameFile.trans listLoaded⟩

/-! ## A name that cannot be reported -/

/-- The entries of a type whose variants are no list, with a number as its name that has too many
digits to be shown. -/
def overlongName : List (Value × Value) :=
  [(.text "name", .int (.ofNat (Nat.pow 10 Numeral.longestDecimal))), (.text "variants", .int 3)]

/-- Such a type is not reported. -/
theorem declarationsOfEntries_overlongName :
    declarationsOfEntries (.ofText "e.yml") [(.text "types", .list [.mapping overlongName])] =
      .error (.brokenDown .impossibleValue) := by
  have unshowable : (calledName overlongName).unshowable? = some .impossibleValue := by
    decide +kernel
  have breaks : NameBreaks overlongName .impossibleValue := {
    given := rfl
    noList := by
      intro items isList
      cases isList
    unshowable := unshowable }
  rw [declarationsOfEntries_of_types rfl (.cons rfl .nil) (List.cons_ne_nil overlongName []),
    mapM_ofEntries_eq_brokenDown_iff]
  exact Judges.firstFlaw_cons.mpr (Or.inl breaks)

end ErrorDerive
