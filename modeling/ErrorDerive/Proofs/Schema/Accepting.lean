import ErrorDerive.Schema.Records
import Mathlib.Data.List.Forall2

/-!
# Accepted readings

A reading that is put together accepts a value exactly if all its parts do.  So a record holds what
is read from its fields, one field at a time, and a list what is read from its items.

* `Schema.required_eq_accepted_iff` and `Schema.optional_eq_accepted_iff` are about one field, and
  `Schema.readList_eq_accepted_iff` is about the items of a list;
* one theorem for each record puts its fields together;
* `Settings.exists_read_iff` says which settings can be read.
-/

namespace ErrorDerive

namespace Schema.Reading

variable {α β : Type}

theorem map_eq_accepted_iff {transform : α → β} {reading : Reading α} {result : β} :
    transform <$> reading = .accepted result ↔
      ∃ data, reading = .accepted data ∧ transform data = result := by
  cases reading with
  | accepted data =>
      simp [Functor.map, map]
  | refused problems =>
      simp [Functor.map, map]

theorem seq_eq_accepted_iff {transform : Reading (α → β)} {reading : Reading α} {result : β} :
    transform <*> reading = .accepted result ↔
      ∃ function data, transform = .accepted function ∧ reading = .accepted data ∧
        function data = result := by
  cases transform with
  | accepted function =>
      cases reading with
      | accepted data =>
          simp [Seq.seq, apply]
      | refused problems =>
          simp [Seq.seq, apply]
  | refused earlier =>
      cases reading with
      | accepted data =>
          simp [Seq.seq, apply]
      | refused problems =>
          simp [Seq.seq, apply]

theorem under_eq_accepted_iff {step : String} {reading : Reading α} {data : α} :
    reading.under step = .accepted data ↔ reading = .accepted data := by
  cases reading with
  | accepted found =>
      rfl
  | refused problems =>
      simp [under]

theorem refine_eq_accepted_iff {value : Value} {check : α → Except Objection β}
    {reading : Reading α} {result : β} :
    reading.refine value check = .accepted result ↔
      ∃ data, reading = .accepted data ∧ check data = .ok result := by
  cases reading with
  | accepted data =>
      cases checked : check data with
      | ok found =>
          simp [refine, checked]
      | error objection =>
          simp [refine, checked, objectTo]
  | refused problems =>
      simp [refine]

end Schema.Reading

namespace Schema

variable {α : Type} {read : Value → Reading α} {name : String} {entries : List (Value × Value)}

theorem required_eq_accepted_iff {data : α} :
    required name read entries = .accepted data ↔
      ∃ content, Value.lookup? name entries = some content ∧ read content = .accepted data := by
  unfold required
  cases Value.lookup? name entries with
  | none =>
      simp
  | some content =>
      simp [Reading.under_eq_accepted_iff]

theorem optional_eq_accepted_iff {default data : α} :
    optional name default read entries = .accepted data ↔
      Value.lookup? name entries = none ∧ data = default ∨
        ∃ content, Value.lookup? name entries = some content ∧ read content = .accepted data := by
  unfold optional
  cases Value.lookup? name entries with
  | none =>
      simp [eq_comm]
  | some content =>
      simp [Reading.under_eq_accepted_iff]

/-- Items are accepted one by one. -/
theorem readItems_eq_accepted_iff {index : Nat} {items : List Value} {data : List α} :
    readItems read index items = .accepted data ↔
      List.Forall₂ (fun item datum => read item = .accepted datum) items data := by
  induction items generalizing index data with
  | nil =>
      rw [readItems, List.forall₂_nil_left_iff, Reading.accepted.injEq, eq_comm]
  | cons item rest inductionHypothesis =>
      have parts : readItems read index (item :: rest) =
          (List.cons <$> (read item).under (toString index)) <*> readItems read (index + 1) rest :=
        rfl
      rw [parts, Reading.seq_eq_accepted_iff, List.forall₂_cons_left_iff]
      simp only [Reading.map_eq_accepted_iff, Reading.under_eq_accepted_iff, inductionHypothesis]
      constructor
      · rintro ⟨_, others, ⟨first, readFirst, rfl⟩, readOthers, rfl⟩
        exact ⟨first, others, readFirst, readOthers, rfl⟩
      · rintro ⟨first, others, readFirst, readOthers, rfl⟩
        exact ⟨_, others, ⟨first, readFirst, rfl⟩, readOthers, rfl⟩

theorem readList_eq_accepted_iff {value : Value} {data : List α} :
    readList read value = .accepted data ↔
      ∃ items, items? value = some items ∧
        List.Forall₂ (fun item datum => read item = .accepted datum) items data := by
  unfold readList
  cases items? value with
  | none =>
      simp [Reading.objectTo]
  | some items =>
      simp [readItems_eq_accepted_iff]

/-- Items that are each read back are read back as a list. -/
theorem readList_map_of_reads {data : Type} {read : Value → Reading data} {write : data → Value}
    {items : List data} (readsBack : ∀ item ∈ items, read (write item) = .accepted item) :
    readList read (.list (items.map write)) = .accepted items := by
  rw [readList_eq_accepted_iff]
  refine ⟨items.map write, rfl, ?_⟩
  rw [List.forall₂_map_left_iff]
  exact List.forall₂_same.mpr readsBack

/-- A record that accepts a value reads it from the entries of a mapping. -/
theorem readRecord_eq_accepted_iff {record : String} {read : List (Value × Value) → Reading α}
    {value : Value} {data : α} :
    readRecord record read value = .accepted data ↔
      ∃ entries, value.opened = .mapping entries ∧ read entries = .accepted data := by
  unfold readRecord
  cases value.opened with
  | mapping entries =>
      simp
  | _ =>
      simp [Reading.objectTo]

end Schema

open Schema

variable {entries : List (Value × Value)}

theorem Settings.read_mapping_eq_accepted_iff {settings : Settings} :
    Settings.read (.mapping entries) = .accepted settings ↔
      Schema.optional "error_type_names" ["Error"] (readList readText) entries =
          .accepted settings.errorTypeNames ∧
        Schema.optional "error_match" .lastSegment (readChoice MatchMode.all MatchMode.name)
          entries = .accepted settings.errorMatch ∧
        Schema.optional "field_delimiter" " " read.readDelimiter entries =
          .accepted settings.fieldDelimiter := by
  have fields : Settings.read (.mapping entries) = Settings.mk
      <$> Schema.optional "error_type_names" ["Error"] (readList readText) entries
      <*> Schema.optional "error_match" .lastSegment (readChoice MatchMode.all MatchMode.name)
        entries
      <*> Schema.optional "field_delimiter" " " read.readDelimiter entries := rfl
  rw [fields]
  simp only [Reading.seq_eq_accepted_iff, Reading.map_eq_accepted_iff]
  constructor
  · rintro ⟨_, delimiter, ⟨_, mode, ⟨names, namesRead, rfl⟩, modeRead, rfl⟩, delimiterRead, rfl⟩
    exact ⟨namesRead, modeRead, delimiterRead⟩
  · rintro ⟨namesRead, modeRead, delimiterRead⟩
    exact ⟨_, _, ⟨_, _, ⟨_, namesRead, rfl⟩, modeRead, rfl⟩, delimiterRead, rfl⟩

theorem VariantDeclaration.read_mapping_eq_accepted_iff {variant : VariantDeclaration} :
    VariantDeclaration.read (.mapping entries) = .accepted variant ↔
      required "name" readText entries = .accepted variant.name ∧
        Schema.optional "shape" none (readNullable Shape.read) entries = .accepted variant.shape ∧
        Schema.optional "fields" [] (readList readText) entries = .accepted variant.fields ∧
        Schema.optional "annotations" [] (readList readGroup) entries =
          .accepted variant.annotations := by
  have fields : VariantDeclaration.read (.mapping entries) = VariantDeclaration.mk
      <$> required "name" readText entries
      <*> Schema.optional "shape" none (readNullable Shape.read) entries
      <*> Schema.optional "fields" [] (readList readText) entries
      <*> Schema.optional "annotations" [] (readList readGroup) entries := rfl
  rw [fields]
  simp only [Reading.seq_eq_accepted_iff, Reading.map_eq_accepted_iff]
  constructor
  · rintro ⟨_, groups, ⟨_, types, ⟨_, shape, ⟨name, nameRead, rfl⟩, shapeRead, rfl⟩, typesRead,
      rfl⟩, groupsRead, rfl⟩
    exact ⟨nameRead, shapeRead, typesRead, groupsRead⟩
  · rintro ⟨nameRead, shapeRead, typesRead, groupsRead⟩
    exact ⟨_, _, ⟨_, _, ⟨_, _, ⟨_, nameRead, rfl⟩, shapeRead, rfl⟩, typesRead, rfl⟩, groupsRead,
      rfl⟩

theorem TypeDeclaration.read_mapping_eq_accepted_iff {declaration : TypeDeclaration} :
    TypeDeclaration.read (.mapping entries) = .accepted declaration ↔
      required "name" readText entries = .accepted declaration.name ∧
        Schema.optional "kind" .enum (readChoice TypeKind.all TypeKind.name) entries =
          .accepted declaration.kind ∧
        Schema.optional "variants" [] (readList VariantDeclaration.read) entries =
          .accepted declaration.variants := by
  have fields : TypeDeclaration.read (.mapping entries) = TypeDeclaration.mk
      <$> required "name" readText entries
      <*> Schema.optional "kind" .enum (readChoice TypeKind.all TypeKind.name) entries
      <*> Schema.optional "variants" [] (readList VariantDeclaration.read) entries := rfl
  rw [fields]
  simp only [Reading.seq_eq_accepted_iff, Reading.map_eq_accepted_iff]
  constructor
  · rintro ⟨_, variants, ⟨_, kind, ⟨name, nameRead, rfl⟩, kindRead, rfl⟩, variantsRead, rfl⟩
    exact ⟨nameRead, kindRead, variantsRead⟩
  · rintro ⟨nameRead, kindRead, variantsRead⟩
    exact ⟨_, _, ⟨_, _, ⟨_, nameRead, rfl⟩, kindRead, rfl⟩, variantsRead, rfl⟩

namespace Settings

theorem delimiterIsClear_of_readDelimiter {content : Value} {delimiter : String}
    (accepted : read.readDelimiter content = .accepted delimiter) :
    Text.contains placeholder delimiter = false := by
  obtain ⟨text, _, checked⟩ := Reading.refine_eq_accepted_iff.mp accepted
  by_cases holds : Text.contains placeholder text = true
  · rw [if_pos holds] at checked
    cases checked
  · rw [if_neg holds] at checked
    cases checked
    exact eq_false_of_ne_true holds

/-- The delimiter of settings that were read is free of the placeholder. -/
theorem delimiterIsClear_of_read {value : Value} {settings : Settings}
    (accepted : Settings.read value = .accepted settings) : settings.delimiterIsClear = true := by
  obtain ⟨entries, _, entriesRead⟩ := readRecord_eq_accepted_iff.mp accepted
  obtain ⟨_, _, delimiterRead⟩ := read_mapping_eq_accepted_iff.mp entriesRead
  rw [delimiterIsClear, Bool.not_eq_true']
  rcases optional_eq_accepted_iff.mp delimiterRead with ⟨_, byDefault⟩ | ⟨content, _, contentRead⟩
  · rw [byDefault]
    decide
  · exact delimiterIsClear_of_readDelimiter contentRead

/-- Settings as a value with all their fields. -/
def written (settings : Settings) : Value :=
  .mapping [(.text "error_type_names", .list (settings.errorTypeNames.map .text)),
    (.text "error_match", .text settings.errorMatch.name),
    (.text "field_delimiter", .text settings.fieldDelimiter)]

theorem read_written {settings : Settings} (clear : settings.delimiterIsClear = true) :
    Settings.read settings.written = .accepted settings := by
  have namesRead : readList readText (.list (settings.errorTypeNames.map .text)) =
      .accepted settings.errorTypeNames :=
    readList_map_of_reads fun _ _ => rfl
  have modeRead : readChoice MatchMode.all MatchMode.name (.text settings.errorMatch.name) =
      .accepted settings.errorMatch := by
    cases settings.errorMatch with
    | lastSegment =>
        rfl
    | fullPath =>
        rfl
  have delimiterRead : read.readDelimiter (.text settings.fieldDelimiter) =
      .accepted settings.fieldDelimiter := by
    have absent : Text.contains placeholder settings.fieldDelimiter = false := by
      simpa [delimiterIsClear] using clear
    apply Reading.refine_eq_accepted_iff.mpr
    exact ⟨settings.fieldDelimiter, rfl, by rw [absent]; rfl⟩
  apply read_mapping_eq_accepted_iff.mpr
  simp only [optional_eq_accepted_iff]
  exact ⟨Or.inr ⟨_, rfl, namesRead⟩, Or.inr ⟨_, rfl, modeRead⟩, Or.inr ⟨_, rfl, delimiterRead⟩⟩

/-- Settings can be read exactly if their delimiter is free of the placeholder. -/
theorem exists_read_iff (settings : Settings) :
    (∃ value, Settings.read value = .accepted settings) ↔ settings.delimiterIsClear = true := by
  constructor
  · intro readable
    obtain ⟨value, accepted⟩ := readable
    exact delimiterIsClear_of_read accepted
  · intro clear
    exact ⟨settings.written, read_written clear⟩

end Settings

end ErrorDerive
