import ErrorDerive.Proofs.Generation.QualifiedNames
import ErrorDerive.Proofs.Loading.Checking
import ErrorDerive.Proofs.Schema.Accepting

/-!
# Warnings of a check

A check warns of keys that are no settings and of names that never match.  Both can be left out of
the file: the settings that are then loaded generate the same for every declaration.

* `LeavesOut` says that settings stand in a file as in another one, but for some keys and names, and
  `leaveOut` takes them out;
* `Workplace.checkSettings_warnings` is the result.
-/

namespace ErrorDerive

open Schema

variable {entries left : List (Value × Value)} {keys names : List String} {settings : Settings}

/-! ## Files without some keys and names -/

/-- Whether a value is read as one of several names. -/
def Value.isNamed (names : List String) (value : Value) : Bool :=
  match readText value with
  | .accepted name => names.contains name
  | .refused _ => false

/-- The items of a list of names, without some of the names. -/
def itemsWithout (names : List String) (content : Value) : Option (List Value) :=
  (items? content).map fun items => items.filter (!Value.isNamed names ·)

/-- Entries hold the settings that other entries hold, without some keys that are no settings and
without some of the names of error types. -/
structure LeavesOut (keys names : List String) (entries left : List (Value × Value)) : Prop where
  noKey : ∀ key ∈ keys, .text key ∉ left.map Prod.fst
  sameMode : Value.lookup? "error_match" left = Value.lookup? "error_match" entries
  sameDelimiter : Value.lookup? "field_delimiter" left = Value.lookup? "field_delimiter" entries
  fewerNames : (Value.lookup? "error_type_names" left).map items? =
    (Value.lookup? "error_type_names" entries).map (itemsWithout names)

theorem readItems_without {items : List Value} {texts : List String}
    (read : List.Forall₂ (fun item text => readText item = .accepted text) items texts) :
    List.Forall₂ (fun item text => readText item = .accepted text)
      (items.filter (!Value.isNamed names ·)) (texts.filter (!names.contains ·)) := by
  refine List.rel_filter ?_ read
  intro item text isText
  have named : Value.isNamed names item = names.contains text := by
    unfold Value.isNamed
    rw [isText]
  show (!Value.isNamed names item) = true ↔ (!names.contains text) = true
  rw [named]

/-- Names of error types are read without some of them. -/
theorem readNames_without {texts : List String} (kept : "Error" ∉ names)
    (fewer : (Value.lookup? "error_type_names" left).map items? =
      (Value.lookup? "error_type_names" entries).map (itemsWithout names))
    (read : Schema.optional "error_type_names" ["Error"] (readList readText) entries =
      .accepted texts) :
    Schema.optional "error_type_names" ["Error"] (readList readText) left =
      .accepted (texts.filter (!names.contains ·)) := by
  rw [optional_eq_accepted_iff] at read ⊢
  rcases read with ⟨absent, rfl⟩ | ⟨content, found, read⟩
  · -- Both files leave the names to the default, which must not be among those left out.
    rw [absent] at fewer
    exact Or.inl ⟨Option.map_eq_none_iff.mp fewer, by simp [kept]⟩
  · obtain ⟨items, areItems, read⟩ := readList_eq_accepted_iff.mp read
    rw [found, Option.map_some, itemsWithout, areItems] at fewer
    obtain ⟨other, otherFound, otherItems⟩ := Option.map_eq_some_iff.mp fewer
    exact Or.inr ⟨other, otherFound,
      readList_eq_accepted_iff.mpr ⟨_, otherItems, readItems_without read⟩⟩

theorem Settings.read_of_leavesOut (leaves : LeavesOut keys names entries left)
    (kept : "Error" ∉ names) (read : Settings.read (.mapping entries) = .accepted settings) :
    Settings.read (.mapping left) = .accepted (settings.withoutNames names) := by
  obtain ⟨namesRead, modeRead, delimiterRead⟩ := read_mapping_eq_accepted_iff.mp read
  apply read_mapping_eq_accepted_iff.mpr
  refine ⟨readNames_without kept leaves.fewerNames namesRead, ?_, ?_⟩
  · unfold Schema.optional at modeRead ⊢
    rw [leaves.sameMode]
    exact modeRead
  · unfold Schema.optional at delimiterRead ⊢
    rw [leaves.sameDelimiter]
    exact delimiterRead

/-! ## Leaving keys and names out -/

/-- Whether a key is none of several text keys. -/
def keepsKey (keys : List String) (key : Value) : Bool :=
  !keys.any fun name => Value.sameKey (.text name) key

/-- The content under a key without some of the names of error types. -/
def contentWithout (names : List String) (key content : Value) : Value :=
  if Value.sameKey (.text "error_type_names") key then
    match itemsWithout names content with
    | some items => .list items
    | none => content
  else content

/-- Entries without some keys and without some of the names of error types. -/
def leaveOut (keys names : List String) (entries : List (Value × Value)) : List (Value × Value) :=
  (entries.filter fun entry => keepsKey keys entry.1).map fun entry =>
    (entry.1, contentWithout names entry.1 entry.2)

/-- The entries of a settings file without some keys and names among its settings. -/
def leaveOutOfFile (keys names : List String) (entries : List (Value × Value)) :
    List (Value × Value) :=
  match (Value.lookup? "settings" entries).map Value.opened with
  | some (.mapping inner) =>
    Value.put (.text "settings") (.mapping (leaveOut keys names inner)) entries
  | _ => leaveOut keys names entries

theorem keepsKey_iff {key : Value} :
    keepsKey keys key = true ↔ ∀ name ∈ keys, key ≠ .text name := by
  rw [keepsKey, Bool.not_eq_true', List.any_eq_false]
  simp only [Value.sameKey_text_iff, ne_eq]

theorem keepsKey_text_iff {name : String} : keepsKey keys (.text name) = true ↔ name ∉ keys := by
  rw [keepsKey_iff]
  constructor
  · intro different listed
    exact different name listed rfl
  · rintro absent other listed same
    cases same
    exact absent listed

theorem lookup?_leaveOut (name : String) :
    Value.lookup? name (leaveOut keys names entries) =
      if name ∈ keys then none
      else (Value.lookup? name entries).map (contentWithout names (.text name)) := by
  rw [leaveOut, Value.lookup?_map, Value.lookup?_filter]
  by_cases listed : name ∈ keys
  · have dropped : ¬ keepsKey keys (.text name) = true := by
      rw [keepsKey_text_iff]
      exact not_not_intro listed
    rw [if_neg dropped, if_pos listed]
    rfl
  · rw [if_pos (keepsKey_text_iff.mpr listed), if_neg listed]

theorem contentWithout_of_ne {name : String} (other : name ≠ "error_type_names") (content : Value) :
    contentWithout names (.text name) content = content := by
  rw [contentWithout, if_neg]
  rw [Value.sameKey_text_iff, Value.text.injEq]
  exact other

theorem lookup?_leaveOut_of_ne {name : String} (unlisted : name ∉ keys)
    (other : name ≠ "error_type_names") :
    Value.lookup? name (leaveOut keys names entries) = Value.lookup? name entries := by
  rw [lookup?_leaveOut, if_neg unlisted, funext (contentWithout_of_ne other), Option.map_id']

theorem items?_contentWithout (content : Value) :
    items? (contentWithout names (.text "error_type_names") content) =
      itemsWithout names content := by
  rw [contentWithout, if_pos (Value.sameKey_text_iff.mpr rfl)]
  cases without : itemsWithout names content with
  | none =>
      exact Option.map_eq_none_iff.mp without
  | some items =>
      rfl

theorem leavesOut_leaveOut (unlisted : ∀ name ∈ settingNames, name ∉ keys) :
    LeavesOut keys names entries (leaveOut keys names entries) where
  noKey := by
    intro key listed present
    obtain ⟨entry, member, isKey⟩ := List.mem_map.mp present
    obtain ⟨original, kept, rfl⟩ := List.mem_map.mp member
    exact keepsKey_iff.mp (List.mem_filter.mp kept).2 key listed isKey
  sameMode := lookup?_leaveOut_of_ne (unlisted _ (by simp [settingNames])) (by decide)
  sameDelimiter := lookup?_leaveOut_of_ne (unlisted _ (by simp [settingNames])) (by decide)
  fewerNames := by
    rw [lookup?_leaveOut, if_neg (unlisted _ (by simp [settingNames])), Option.map_map]
    exact congrArg (Option.map · _) (funext items?_contentWithout)

theorem settingsEntries_of_mapping {inner : List (Value × Value)}
    (found : (Value.lookup? "settings" entries).map Value.opened = some (.mapping inner)) :
    settingsEntries entries = inner := by
  unfold settingsEntries
  rw [found]

theorem settingsEntries_of_noMapping
    (noMapping : ∀ inner, (Value.lookup? "settings" entries).map Value.opened ≠
      some (.mapping inner)) : settingsEntries entries = entries := by
  unfold settingsEntries
  split
  next inner isMapping =>
    exact absurd isMapping (noMapping inner)
  next =>
    rfl

theorem settingsEntries_leaveOutOfFile :
    settingsEntries (leaveOutOfFile keys names entries) =
      leaveOut keys names (settingsEntries entries) := by
  unfold leaveOutOfFile
  split
  next inner isMapping =>
    rw [settingsEntries_of_mapping isMapping]
    apply settingsEntries_of_mapping
    rw [Value.lookup?_put, if_pos rfl]
    rfl
  next noMapping =>
    -- What is left out may be the key `settings` itself, but no mapping can come under it.
    rw [settingsEntries_of_noMapping noMapping]
    apply settingsEntries_of_noMapping
    intro inner isMapping
    by_cases listed : "settings" ∈ keys
    · rw [lookup?_leaveOut, if_pos listed] at isMapping
      cases isMapping
    · rw [lookup?_leaveOut_of_ne listed (by decide)] at isMapping
      exact noMapping inner isMapping

/-! ## Warnings -/

/-- The warning of settings that name no error type. -/
def noNamesWarning : String :=
  "error_type_names is empty: no variant will be inferred as wrapping an error."

/-- The warnings in full. -/
theorem settingsWarnings_eq (settings : Settings) (unknown : List String) :
    settingsWarnings settings unknown =
      (if unknown = [] then []
        else ["Unknown settings ignored: " ++ String.intercalate ", " unknown]) ++
      (if settings.errorTypeNames = [] then [noNamesWarning] else []) ++
      (if settings.uselessNames = [] then []
        else ["Qualified names never match in last_segment mode: " ++
          String.intercalate ", " settings.uselessNames]) := by
  unfold settingsWarnings
  simp only [List.isEmpty_iff]
  rfl

theorem append_ne_of_otherBeginning {beginning text : String}
    (different : ¬ beginning.toList <+: text.toList) (rest : String) :
    beginning ++ rest ≠ text := by
  rintro rfl
  apply different
  rw [String.toList_append]
  exact List.prefix_append _ _

theorem noNamesWarning_mem_iff {unknown : List String} :
    noNamesWarning ∈ settingsWarnings settings unknown ↔ settings.errorTypeNames = [] := by
  have noUnknown (rest : String) : noNamesWarning ≠ "Unknown settings ignored: " ++ rest :=
    (append_ne_of_otherBeginning (by decide) rest).symm
  have noQualified (rest : String) :
      noNamesWarning ≠ "Qualified names never match in last_segment mode: " ++ rest :=
    (append_ne_of_otherBeginning (by decide) rest).symm
  unfold settingsWarnings
  simp only [List.mem_append, List.mem_ite_nil_left, List.mem_ite_nil_right, List.mem_singleton,
    noUnknown, noQualified, and_false, or_false, false_or]
  rw [List.isEmpty_iff]
  exact and_iff_left rfl

theorem mem_uselessNames_iff {name : String} :
    name ∈ settings.uselessNames ↔ settings.errorMatch = .lastSegment ∧
      name ∈ settings.errorTypeNames ∧ IsQualified name := by
  rw [Settings.uselessNames, List.mem_ite_nil_right, mem_qualifiedNames_iff]

/-- The default name of an error type holds no separator. -/
theorem error_not_mem_uselessNames : "Error" ∉ settings.uselessNames := by
  intro listed
  have plain : ¬ IsQualified "Error" := by
    unfold IsQualified
    decide
  exact plain (mem_uselessNames_iff.mp listed).2.2

/-- The keys that are listed as unknown are those of no settings. -/
theorem mem_unknown_iff {unknown : List String} (listed : unknownKeys entries = .ok unknown)
    {key : Value} :
    key ∈ unknown.map Value.text ↔
      key ∈ entries.map Prod.fst ∧ ∀ name ∈ settingNames, key ≠ .text name := by
  have texts : HasTextKeys entries := by
    by_contra mixed
    rw [unknownKeys_of_not_textKeys mixed] at listed
    cases listed
  obtain ⟨names, areNames, sorted⟩ := unknownKeys_of_textKeys texts
  rw [sorted] at listed
  cases listed
  rw [← mem_otherKeys_iff, areNames, List.mem_map, List.mem_map]
  simp only [List.mem_mergeSort]

theorem settingsOfEntries_eq_ok_iff {path : Path} :
    settingsOfEntries path entries = .ok settings ↔
      Settings.read (.mapping (settingsEntries entries)) = .accepted settings := by
  unfold settingsOfEntries
  dsimp only
  cases Settings.read (.mapping (settingsEntries entries)) with
  | accepted found =>
      simp [Reading.toExcept]
  | refused problems =>
      simp [Reading.toExcept]

namespace Workplace

variable {workplace : Workplace} {path : Path} {path? : Option Path} {check : SettingsCheck}

theorem loadSettings_of_file (found : workplace.settingsPath path? = .ok (some path))
    (read : workplace.readMapping path = .ok entries) :
    workplace.loadSettings path? = .ok settings ↔
      Settings.read (.mapping (settingsEntries entries)) = .accepted settings := by
  rw [(checkSettings_of_file found).1, settingsFrom_eq_ok_iff, read]
  simp only [Except.ok.injEq, exists_eq_left', settingsOfEntries_eq_ok_iff]

/-- A check that gives settings of a file has read the mapping that they were loaded from, and
lists its keys. -/
theorem listed_of_checkSettings (checked : workplace.checkSettings path? = .ok check)
    (given : check.settings = some settings) (fromFile : check.path = some path) :
    ∃ entries unknown, workplace.readMapping path = .ok entries ∧
      Settings.read (.mapping (settingsEntries entries)) = .accepted settings ∧
      workplace.loadSettings path? = .ok settings ∧
      unknownKeys (settingsEntries entries) = .ok unknown ∧
      check.warnings = settingsWarnings settings unknown := by
  rcases found : workplace.settingsPath path? with cause | _ | place
  · rw [checkSettings, found] at checked
    cases checked
  · rw [(checkSettings_of_noFile found).2] at checked
    cases checked
    cases fromFile
  · rw [(checkSettings_of_file found).2] at checked
    rcases loaded : workplace.settingsFrom place with (fault | cause) | others
    · rw [loaded] at checked
      cases checked
      cases given
    · rw [loaded] at checked
      cases checked
    · obtain ⟨entries, read, _⟩ := settingsFrom_eq_ok_iff.mp loaded
      rw [loaded, checkSettingsAt_ok read] at checked
      cases listed : unknownKeys (settingsEntries entries) with
      | error cause =>
          rw [listed] at checked
          cases checked
      | ok unknown =>
          rw [listed] at checked
          cases checked
          cases given
          cases fromFile
          have isLoaded : workplace.loadSettings path? = .ok settings := by
            rw [(checkSettings_of_file found).1, loaded]
          exact ⟨entries, unknown, read, (loadSettings_of_file found read).mp isLoaded, isLoaded,
            listed, rfl⟩

/-- The warnings of a check are sound.  The keys that it lists as unknown are those of the mapping
that was validated, but for the settings; the names that it lists never match.  A file without these
keys and names holds settings that generate the same for every declaration, whatever else stands in
it, and if no error type is named, only an annotation makes a variant wrap a cause. -/
theorem checkSettings_warnings (checked : workplace.checkSettings path? = .ok check)
    (given : check.settings = some settings) (fromFile : check.path = some path) :
    ∃ entries unknown, workplace.readMapping path = .ok entries ∧
      Settings.read (.mapping (settingsEntries entries)) = .accepted settings ∧
      workplace.loadSettings path? = .ok settings ∧
      check.warnings =
        (if unknown = [] then []
          else ["Unknown settings ignored: " ++ String.intercalate ", " unknown]) ++
        (if settings.errorTypeNames = [] then [noNamesWarning] else []) ++
        (if settings.uselessNames = [] then []
          else ["Qualified names never match in last_segment mode: " ++
            String.intercalate ", " settings.uselessNames]) ∧
      (∀ key, key ∈ unknown.map Value.text ↔
        key ∈ (settingsEntries entries).map Prod.fst ∧ ∀ name ∈ settingNames, key ≠ .text name) ∧
      (∀ name, name ∈ settings.uselessNames ↔ settings.errorMatch = .lastSegment ∧
        name ∈ settings.errorTypeNames ∧ IsQualified name) ∧
      LeavesOut unknown settings.uselessNames (settingsEntries entries)
        (settingsEntries (leaveOutOfFile unknown settings.uselessNames entries)) ∧
      (∀ (other : Workplace) other? otherPath left,
        other.settingsPath other? = .ok (some otherPath) → other.readMapping otherPath = .ok left →
        LeavesOut unknown settings.uselessNames (settingsEntries entries) (settingsEntries left) →
        ∃ changed, other.loadSettings other? = .ok changed ∧
          ∀ declaration, generate changed declaration = generate settings declaration) ∧
      (noNamesWarning ∈ check.warnings ↔ settings.errorTypeNames = []) ∧
      (noNamesWarning ∈ check.warnings → ∀ (variant : Variant) policy,
        variant.resolve settings = .ok policy → policy.isCause = true →
        variant.annotations.err = some true) := by
  obtain ⟨entries, unknown, read, accepted, loaded, listed, warnings⟩ :=
    listed_of_checkSettings checked given fromFile
  have unlisted : ∀ name ∈ settingNames, name ∉ unknown := by
    intro name isSetting isUnknown
    have isKey := (mem_unknown_iff listed).mp (List.mem_map_of_mem isUnknown)
    exact isKey.2 name isSetting rfl
  have noNames : noNamesWarning ∈ check.warnings ↔ settings.errorTypeNames = [] := by
    rw [warnings, noNamesWarning_mem_iff]
  refine ⟨entries, unknown, read, accepted, loaded, by rw [warnings, settingsWarnings_eq],
    fun _ => mem_unknown_iff listed, fun _ => mem_uselessNames_iff, ?_, ?_, noNames, ?_⟩
  · rw [settingsEntries_leaveOutOfFile]
    exact leavesOut_leaveOut unlisted
  · intro other other? otherPath left found leftRead leaves
    refine ⟨settings.withoutNames settings.uselessNames, ?_, generate_withoutNames settings⟩
    rw [loadSettings_of_file found leftRead]
    exact Settings.read_of_leavesOut leaves error_not_mem_uselessNames accepted
  · intro warned variant policy resolved isCause
    exact Variant.err_of_isCause (noNames.mp warned) resolved isCause

end Workplace

/-! ## A file with unknown keys and useless names -/

/-- The text in a key, and the texts in the list under it. -/
def textsUnder? : Value × Value → Option (String × List String)
  | (.text name, .list items) => (items.mapM Value.text?).map (name, ·)
  | _ => none

/-- A key with a list of texts under it. -/
def textsUnder (row : String × List String) : Value × Value :=
  (.text row.1, .list (row.2.map .text))

theorem eq_map_textsUnder {rows : List (String × List String)}
    (found : entries.mapM textsUnder? = some rows) : entries = rows.map textsUnder := by
  induction entries generalizing rows with
  | nil =>
      cases found
      rfl
  | cons entry rest inductionHypothesis =>
      rw [List.mapM_cons] at found
      obtain ⟨row, isRow, found⟩ := Option.bind_eq_some_iff.mp found
      obtain ⟨others, areOthers, found⟩ := Option.bind_eq_some_iff.mp found
      cases found
      unfold textsUnder? at isRow
      split at isRow
      next name items =>
        obtain ⟨texts, areTexts, isRow⟩ := Option.map_eq_some_iff.mp isRow
        cases isRow
        rw [List.map_cons, ← inductionHypothesis areOthers, eq_map_text_of_mapM_text? areTexts]
        rfl
      next =>
        cases isRow

/-- The entries of the file. -/
def looseRows : List (String × List String) :=
  [("colour", ["red"]), ("size", ["wide"]),
    ("error_type_names", ["Error", "io.Error", "fmt::Error"])]

/-- The settings in the file. -/
def looseSettings : Settings where
  errorTypeNames := ["Error", "io.Error", "fmt::Error"]

/-- The check of these settings. -/
def looseCheck : SettingsCheck where
  settings := some looseSettings
  path := some (pathOf [settingsFileName])
  warnings := ["Unknown settings ignored: colour, size",
    "Qualified names never match in last_segment mode: io.Error, fmt::Error"]

namespace Workplace

/-- A folder with a settings file that holds unknown keys and names that never match. -/
def looseFolder : Workplace :=
  settingsFolder
    "colour: [red]\nsize: [wide]\nerror_type_names: [Error, io.Error, fmt::Error]\n"

/-- A folder with the settings file that is left without them. -/
def tidyFolder : Workplace :=
  settingsFolder "error_type_names: [Error]\n"

theorem looseFolder_read :
    looseFolder.readMapping (pathOf [settingsFileName]) = .ok (looseRows.map textsUnder) :=
  eq_ok_of_found (List.mapM textsUnder?) looseRows (by decide +kernel) fun _ => eq_map_textsUnder

theorem tidyFolder_read :
    tidyFolder.readMapping (pathOf [settingsFileName]) =
      .ok [textsUnder ("error_type_names", ["Error"])] :=
  eq_ok_of_found (List.mapM textsUnder?) [("error_type_names", ["Error"])] (by decide +kernel)
    fun _ => eq_map_textsUnder

theorem looseFolder_checked : looseFolder.checkSettings none = .ok looseCheck := by
  have found : looseFolder.settingsPath none = .ok (some (pathOf [settingsFileName])) := by
    decide +kernel
  have loaded : looseFolder.settingsFrom (pathOf [settingsFileName]) = .ok looseSettings := by
    decide +kernel
  have listed : unknownKeys (settingsEntries (looseRows.map textsUnder)) =
      .ok ["colour", "size"] := by
    have sorted : ["colour", "size"].mergeSort comesFirst = ["colour", "size"] :=
      List.mergeSort_of_pairwise (by decide +kernel)
    rw [← sorted]
    rfl
  rw [(checkSettings_of_file found).2, loaded, checkSettingsAt_ok looseFolder_read, listed]
  rfl

/-- Another file in place of the checked one gives other settings, and the same code. -/
theorem checkSettings_warnings_looseFolder :
    looseFolder.checkSettings none = .ok looseCheck ∧
      ∃ changed, tidyFolder.loadSettings none = .ok changed ∧ changed.errorTypeNames = ["Error"] ∧
        ∀ declaration, generate changed declaration = generate looseSettings declaration := by
  obtain ⟨entries, unknown, read, _, _, _, areUnknown, _, _, reloads, _⟩ :=
    checkSettings_warnings looseFolder_checked rfl rfl
  rw [looseFolder_read] at read
  cases read
  have found : tidyFolder.settingsPath none = .ok (some (pathOf [settingsFileName])) := by
    decide +kernel
  have leaves : LeavesOut unknown looseSettings.uselessNames
      (settingsEntries (looseRows.map textsUnder))
      (settingsEntries [textsUnder ("error_type_names", ["Error"])]) := by
    refine ⟨?_, rfl, rfl, rfl⟩
    intro key listed present
    have isKey := (areUnknown (.text key)).mp (List.mem_map_of_mem listed)
    exact isKey.2 "error_type_names" (by decide) (List.mem_singleton.mp present)
  obtain ⟨changed, reloaded, same⟩ := reloads tidyFolder none _ _ found tidyFolder_read leaves
  have isTidy : tidyFolder.loadSettings none = .ok {} := by
    decide +kernel
  rw [isTidy] at reloaded
  cases reloaded
  exact ⟨looseFolder_checked, {}, isTidy, rfl, same⟩

end Workplace

end ErrorDerive
