import ErrorDerive.Proofs.Loading.TypeFiles
import ErrorDerive.Proofs.Loading.Warnings
import ErrorDerive.Proofs.Schema.SetOrder

/-!
# Files in two orders

Processes that bring out the items of sets in different orders load the same of a file, apart from
rows that are given as a set.

* `Settings.Alike` and `TypeDeclaration.Alike` relate what is loaded;
* `Workplace.loadSettings_inOrder` and `Workplace.loadDeclarations_inOrder` say that it is loaded in
  every order or in none.
-/

namespace ErrorDerive

open Schema Value

variable {order other : SetOrder}

/-! ## Short forms -/

theorem removeEntry_resembles {entries others : List (Value × Value)}
    (alike : List.Forall₂ (EntryResembles order other) entries others) (name : String) :
    List.Forall₂ (EntryResembles order other) (removeEntry name entries)
      (removeEntry name others) := by
  refine List.rel_filter ?_ alike
  intro entry entryTaken pair
  cases pair with
  | mk key contents => exact Iff.rfl

theorem writeOutAnnotations_resembles {entries others : List (Value × Value)}
    (alike : List.Forall₂ (EntryResembles order other) entries others) :
    List.Forall₂ (EntryResembles order other) (writeOutAnnotations entries)
      (writeOutAnnotations others) := by
  have given := (getD_lookup?_resembles alike "annotations" .null).opened
  unfold writeOutAnnotations
  generalize ((lookup? "annotations" entries).getD .null).opened = here at given ⊢
  generalize ((lookup? "annotations" others).getD .null).opened = there at given ⊢
  have writeOut {group groupTaken : List (Value × Value)}
      (groups : List.Forall₂ (EntryResembles order other) group groupTaken) :
      List.Forall₂ (EntryResembles order other)
        (put (.text "annotations") (.list [.mapping group]) entries)
        (put (.text "annotations") (.list [.mapping groupTaken]) others) :=
    put_resembles alike _ (.list (.cons (.mapping groups) .nil))
  cases given with
  | refl here =>
      cases here with
      | null => exact removeEntry_resembles alike "annotations"
      | mapping group => exact writeOut (EntryResembles.forall₂_refl group)
      | _ => exact alike
  | mapping groups => exact writeOut groups
  | set _ | list _ | tuple _ | circle _ _ => exact alike

theorem writeOutVariant_resembles {variant taken : Value}
    (alike : Resembles order other variant taken) :
    Resembles order other (writeOutVariant variant) (writeOutVariant taken) := by
  have held := alike.opened
  unfold writeOutVariant
  generalize variant.opened = here at held ⊢
  generalize taken.opened = there at held ⊢
  have unchanged := held
  cases held with
  | refl here =>
      cases here with
      | text name => exact .refl _
      | mapping entries =>
          exact .mapping (writeOutAnnotations_resembles (EntryResembles.forall₂_refl entries))
      | _ => exact .refl _
  | mapping entries => exact .mapping (writeOutAnnotations_resembles entries)
  | set _ | list _ | tuple _ | circle _ _ => exact unchanged

/-! ## Settings -/

/-- Settings that two processes load of one file: the names of error types may be rearranged. -/
structure Settings.Alike (left right : Settings) : Prop where
  names : left.errorTypeNames.Perm right.errorTypeNames
  sameMatch : left.errorMatch = right.errorMatch
  delimiter : left.fieldDelimiter = right.fieldDelimiter

theorem Settings.Alike.refl (settings : Settings) : settings.Alike settings :=
  ⟨.refl _, rfl, rfl⟩

theorem carries_readDelimiter : Carries order other Settings.read.readDelimiter Eq := by
  intro value taken alike data accepted
  obtain ⟨text, readText, checked⟩ := Reading.refine_eq_accepted_iff.mp accepted
  obtain ⟨_, readTaken, rfl⟩ := carries_readText value taken alike text readText
  exact ⟨data, Reading.refine_eq_accepted_iff.mpr ⟨text, readTaken, checked⟩, rfl⟩

theorem Settings.read_alike {entries others : List (Value × Value)}
    (alike : List.Forall₂ (EntryResembles order other) entries others) {settings : Settings}
    (accepted : Settings.read (.mapping entries) = .accepted settings) :
    ∃ taken, Settings.read (.mapping others) = .accepted taken ∧ settings.Alike taken := by
  obtain ⟨names, mode, delimiter⟩ := read_mapping_eq_accepted_iff.mp accepted
  obtain ⟨namesTaken, readNames, sameNames⟩ := carries_readText.readList.optional _
    (.items (List.forall₂_refl _)) _ _ alike _ names
  obtain ⟨modeTaken, readMode, rfl⟩ := (carries_readChoice _ _).optional _ rfl _ _ alike _ mode
  obtain ⟨delimiterTaken, readDelimiter, rfl⟩ :=
    carries_readDelimiter.optional _ rfl _ _ alike _ delimiter
  exact ⟨⟨namesTaken, _, _⟩,
    read_mapping_eq_accepted_iff.mpr ⟨readNames, readMode, readDelimiter⟩, sameNames.perm, rfl, rfl⟩

theorem settingsEntries_resembles {entries others : List (Value × Value)}
    (alike : List.Forall₂ (EntryResembles order other) entries others) :
    List.Forall₂ (EntryResembles order other) (settingsEntries entries)
      (settingsEntries others) := by
  have found := lookup?_resembles alike "settings"
  unfold settingsEntries
  generalize lookup? "settings" entries = here at found ⊢
  generalize lookup? "settings" others = there at found ⊢
  cases found with
  | none => exact alike
  | @some content contentTaken contents =>
      have held := contents.opened
      rw [Option.map_some, Option.map_some]
      generalize content.opened = inside at held ⊢
      generalize contentTaken.opened = insideTaken at held ⊢
      cases held with
      | refl inside =>
          cases inside with
          | mapping inner => exact EntryResembles.forall₂_refl inner
          | _ => exact alike
      | mapping pairs => exact pairs
      | _ => exact alike

theorem settingsOfEntries_alike {path : Path} {entries others : List (Value × Value)}
    (alike : List.Forall₂ (EntryResembles order other) entries others) {settings : Settings}
    (loaded : settingsOfEntries path entries = .ok settings) :
    ∃ taken, settingsOfEntries path others = .ok taken ∧ settings.Alike taken := by
  rw [settingsOfEntries_eq_ok_iff] at loaded
  obtain ⟨taken, readTaken, alikeSettings⟩ :=
    Settings.read_alike (settingsEntries_resembles alike) loaded
  exact ⟨taken, settingsOfEntries_eq_ok_iff.mpr readTaken, alikeSettings⟩

/-! ## Declarations -/

/-- Variants that two processes load of one file: the fields may come from one set, and so may the
groups of annotations. -/
structure VariantDeclaration.Alike (order other : SetOrder) (left right : VariantDeclaration) :
    Prop where
  name : left.name = right.name
  shape : left.shape = right.shape
  fields : RowAlike order other readText Eq left.fields right.fields
  annotations :
    RowAlike order other readGroup (GroupAlike order other) left.annotations right.annotations

/-- Types that two processes load of one file. -/
structure TypeDeclaration.Alike (order other : SetOrder) (left right : TypeDeclaration) : Prop where
  name : left.name = right.name
  kind : left.kind = right.kind
  variants :
    List.Forall₂ (VariantDeclaration.Alike order other) left.variants right.variants

theorem VariantDeclaration.carries_read :
    Carries order other VariantDeclaration.read (VariantDeclaration.Alike order other) := by
  apply CarriesEntries.record
  intro entries others alike variant accepted
  obtain ⟨name, shape, fields, annotations⟩ := read_mapping_eq_accepted_iff.mp accepted
  obtain ⟨nameTaken, readName, sameName⟩ := carries_readText.required _ _ _ alike _ name
  obtain ⟨shapeTaken, readShape, sameShape⟩ :=
    (carries_readChoice _ _).nullable.optional _ rfl _ _ alike _ shape
  obtain ⟨fieldsTaken, readFields, fieldsAlike⟩ :=
    carries_readText.readList.optional _ (.items .nil) _ _ alike _ fields
  obtain ⟨annotationsTaken, readAnnotations, annotationsAlike⟩ :=
    carries_readGroup.readList.optional _ (.items .nil) _ _ alike _ annotations
  exact ⟨⟨nameTaken, shapeTaken, fieldsTaken, annotationsTaken⟩,
    read_mapping_eq_accepted_iff.mpr ⟨readName, readShape, readFields, readAnnotations⟩,
    sameName, sameShape, fieldsAlike, annotationsAlike⟩

theorem declaredVariants_resembles {entries others : List (Value × Value)}
    (alike : List.Forall₂ (EntryResembles order other) entries others) {variants : List Value}
    (declared : declaredVariants entries = .ok variants) :
    ∃ taken, declaredVariants others = .ok taken ∧
      List.Forall₂ (Resembles order other) variants taken := by
  have given : Resembles order other (givenVariants entries) (givenVariants others) :=
    (getD_lookup?_resembles alike "variants" .null).opened
  have sameHollow := given.isHollow_eq
  rw [declaredVariants_eq] at declared ⊢
  by_cases hollow : (givenVariants entries).isHollow = true
  · rw [if_pos hollow] at declared
    cases declared
    rw [if_pos (sameHollow ▸ hollow)]
    exact ⟨[], rfl, .nil⟩
  · rw [if_neg hollow] at declared
    rw [if_neg (sameHollow ▸ hollow)]
    generalize givenVariants entries = here at given declared
    generalize givenVariants others = there at given ⊢
    cases here with
    | list items =>
        cases declared
        obtain ⟨itemsTaken, rfl, pairs⟩ := given.exists_list
        exact ⟨itemsTaken, rfl, pairs⟩
    | _ => cases declared

theorem TypeDeclaration.ofEntries_alike {entries others : List (Value × Value)}
    (alike : List.Forall₂ (EntryResembles order other) entries others)
    {declaration : TypeDeclaration} (declared : ofEntries entries = .ok declaration) :
    ∃ taken, ofEntries others = .ok taken ∧ declaration.Alike order other taken := by
  obtain ⟨name, kind, variants, areVariants, read⟩ := ofEntries_eq_ok_iff.mp declared
  obtain ⟨nameTaken, readName, sameName⟩ := carries_readText.required _ _ _ alike _ name
  obtain ⟨kindTaken, readKind, sameKind⟩ :=
    (carries_readChoice _ _).optional _ rfl _ _ alike _ kind
  obtain ⟨variantsTaken, areTaken, pairs⟩ := declaredVariants_resembles alike areVariants
  obtain ⟨declaredTaken, readTaken, variantsAlike⟩ := exists_forall₂_of_carried pairs
    (fun _ _ pair => VariantDeclaration.carries_read _ _ (writeOutVariant_resembles pair)) read
  exact ⟨⟨nameTaken, kindTaken, declaredTaken⟩,
    ofEntries_eq_ok_iff.mpr ⟨readName, readKind, variantsTaken, areTaken, readTaken⟩,
    sameName, sameKind, variantsAlike⟩

theorem declaringValues_resembles {path : Path} {entries others : List (Value × Value)}
    (alike : List.Forall₂ (EntryResembles order other) entries others) {values : List Value}
    (declaring : declaringValues path entries = .ok values) :
    ∃ taken, declaringValues path others = .ok taken ∧
      List.Forall₂ (Resembles order other) values taken := by
  have found := lookup?_resembles alike "types"
  have sameEmpty := isEmpty_resembles alike
  unfold declaringValues at declaring ⊢
  generalize lookup? "types" entries = here at found declaring
  generalize lookup? "types" others = there at found ⊢
  cases found with
  | none =>
      simp only [Option.map_none] at declaring ⊢
      rw [← sameEmpty]
      by_cases empty : entries.isEmpty = true
      · rw [if_pos empty] at declaring
        cases declaring
      · rw [if_neg empty] at declaring ⊢
        cases declaring
        exact ⟨_, rfl, .cons (.mapping alike) .nil⟩
  | @some content contentTaken contents =>
      have held := contents.opened
      simp only [Option.map_some] at declaring ⊢
      generalize content.opened = inside at held declaring
      generalize contentTaken.opened = insideTaken at held ⊢
      cases inside with
      | list types =>
          obtain ⟨typesTaken, rfl, pairs⟩ := held.exists_list
          cases pairs with
          | nil => cases declaring
          | cons first rest =>
              cases declaring
              exact ⟨_, rfl, .cons first rest⟩
      | _ => cases declaring

theorem TypeDeclaration.ofValue_alike {path : Path} {value taken : Value}
    (alike : Resembles order other value taken) {declaration : TypeDeclaration}
    (declared : ofValue path value = .ok declaration) :
    ∃ declarationTaken, ofValue path taken = .ok declarationTaken ∧
      declaration.Alike order other declarationTaken := by
  have held := alike.opened
  unfold ofValue at declared
  generalize value.opened = inside at held declared
  cases inside with
  | mapping entries =>
      obtain ⟨others, isMapping, pairs⟩ := held.exists_mapping
      obtain ⟨declarationTaken, declaredTaken, alikeTypes⟩ := ofEntries_alike pairs declared
      exact ⟨declarationTaken, by rw [ofValue_of_mapping isMapping, declaredTaken], alikeTypes⟩
  | _ => cases declared

theorem declarationsOfEntries_alike {path : Path} {entries others : List (Value × Value)}
    (alike : List.Forall₂ (EntryResembles order other) entries others)
    {declarations : List TypeDeclaration}
    (declared : declarationsOfEntries path entries = .ok declarations) :
    ∃ taken, declarationsOfEntries path others = .ok taken ∧
      List.Forall₂ (TypeDeclaration.Alike order other) declarations taken := by
  cases declaring : declaringValues path entries with
  | error fault =>
      rw [declarationsOfEntries, declaring] at declared
      cases declared
  | ok values =>
      rw [declarationsOfEntries_of_declaring declaring, mapM_eq_ok_iff] at declared
      obtain ⟨valuesTaken, declaringTaken, pairs⟩ := declaringValues_resembles alike declaring
      obtain ⟨taken, declaredTaken, alikeTypes⟩ := exists_forall₂_of_carried pairs
        (fun _ _ pair _ isDeclared => TypeDeclaration.ofValue_alike pair isDeclared) declared
      rw [declarationsOfEntries_of_declaring declaringTaken]
      exact ⟨taken, mapM_eq_ok_iff.mpr declaredTaken, alikeTypes⟩

/-! ## Files -/

/-- The same files, in a process that brings out the items of sets in the given order. -/
def Workplace.inOrder (workplace : Workplace) (order : SetOrder) : Workplace :=
  { workplace with process := { workplace.process with order } }

namespace Workplace

variable {workplace : Workplace} {path : Path}

theorem mappingOfText_inOrder {process : Process} {text : String}
    {entries : List (Value × Value)}
    (read : mappingOfText { process with order } path text = .ok entries) :
    ∃ others, mappingOfText { process with order := other } path text = .ok others ∧
      List.Forall₂ (EntryResembles order other) entries others := by
  unfold mappingOfText at read ⊢
  cases isRead : Yaml.read { process with order } text with
  | error fault =>
      rw [isRead] at read
      cases fault with
      | malformed => cases read
      | broken cause => cases read
  | ok value =>
      have readsAlike : ∃ taken, Yaml.read { process with order := other } text = .ok taken ∧
          Resembles order other value taken :=
        Yaml.read_resembles process text isRead
      obtain ⟨taken, isTaken, alike⟩ := readsAlike
      have held := alike.opened
      rw [isRead] at read
      rw [isTaken]
      simp only [Except.map] at read ⊢
      generalize value.opened = inside at held read
      generalize taken.opened = insideTaken at held ⊢
      cases inside with
      | null =>
          cases read
          cases held
          exact ⟨[], rfl, .nil⟩
      | mapping inner =>
          cases read
          obtain ⟨others, rfl, pairs⟩ := held.exists_mapping
          exact ⟨others, rfl, pairs⟩
      | _ => cases read

theorem readMapping_inOrder {entries : List (Value × Value)}
    (read : (workplace.inOrder order).readMapping path = .ok entries) :
    ∃ others, (workplace.inOrder other).readMapping path = .ok others ∧
      List.Forall₂ (EntryResembles order other) entries others := by
  unfold readMapping at read ⊢
  have sameFile (order : SetOrder) :
      (workplace.inOrder order).fileAt? path = workplace.fileAt? path := rfl
  rw [sameFile] at read ⊢
  cases found : workplace.fileAt? path with
  | error cause =>
      rw [found] at read
      cases read
  | ok file? =>
      rw [found] at read
      cases file? with
      | none => cases read
      | some file =>
          obtain ⟨text, isText, readText⟩ := Judges.bind_eq_ok_iff.mp read
          obtain ⟨others, readTaken, alike⟩ := mappingOfText_inOrder readText
          exact ⟨others, Judges.bind_eq_ok_iff.mpr ⟨text, isText, readTaken⟩, alike⟩

theorem firstWithSettings_inOrder (order : SetOrder) (folders : List Location) :
    (workplace.inOrder order).firstWithSettings folders = workplace.firstWithSettings folders := by
  induction folders with
  | nil => rfl
  | cons folder rest inductionHypothesis =>
      rw [firstWithSettings, firstWithSettings, inductionHypothesis]
      rfl

theorem settingsPath_inOrder (order : SetOrder) (path? : Option Path) :
    (workplace.inOrder order).settingsPath path? = workplace.settingsPath path? := by
  cases path? with
  | some path => rfl
  | none =>
      unfold settingsPath findSettings
      simp only [firstWithSettings_inOrder]
      rfl

/-- Settings are loaded in one order if they are in another, and are alike. -/
theorem loadSettings_inOrder {path? : Option Path} {settings : Settings}
    (loaded : (workplace.inOrder order).loadSettings path? = .ok settings) :
    ∃ taken, (workplace.inOrder other).loadSettings path? = .ok taken ∧ settings.Alike taken := by
  unfold loadSettings at loaded ⊢
  rw [settingsPath_inOrder] at loaded ⊢
  cases found : workplace.settingsPath path? with
  | error cause =>
      rw [found] at loaded
      cases loaded
  | ok place? =>
      rw [found] at loaded
      cases place? with
      | none =>
          cases loaded
          exact ⟨{}, rfl, .refl {}⟩
      | some place =>
          obtain ⟨entries, read, isSettings⟩ := Judges.bind_eq_ok_iff.mp loaded
          obtain ⟨others, readTaken, alike⟩ := readMapping_inOrder read
          obtain ⟨taken, isTaken, alikeSettings⟩ := settingsOfEntries_alike alike isSettings
          exact ⟨taken, Judges.bind_eq_ok_iff.mpr ⟨others, readTaken, isTaken⟩, alikeSettings⟩

/-- Declarations are loaded in one order if they are in another, and are alike. -/
theorem loadDeclarations_inOrder {declarations : List TypeDeclaration}
    (loaded : (workplace.inOrder order).loadDeclarations path = .ok declarations) :
    ∃ taken, (workplace.inOrder other).loadDeclarations path = .ok taken ∧
      List.Forall₂ (TypeDeclaration.Alike order other) declarations taken := by
  obtain ⟨entries, read, declared⟩ := Judges.bind_eq_ok_iff.mp loaded
  obtain ⟨others, readTaken, alike⟩ := readMapping_inOrder read
  obtain ⟨taken, declaredTaken, alikeTypes⟩ := declarationsOfEntries_alike alike declared
  exact ⟨taken, Judges.bind_eq_ok_iff.mpr ⟨others, readTaken, declaredTaken⟩, alikeTypes⟩

end Workplace

end ErrorDerive
