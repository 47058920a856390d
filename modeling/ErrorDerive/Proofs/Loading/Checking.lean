import ErrorDerive.ConfigCheck
import ErrorDerive.Proofs.Generation.Acceptance
import ErrorDerive.Proofs.Loading.Breakdowns
import ErrorDerive.Proofs.Schema.Entries
import Mathlib.Data.Set.List

/-!
# Checks of settings files

A check loads the settings as every other run does, and then looks at the keys of the mapping that
they were read from.  A key that is no text goes unnoticed by loading, but it ends the check,
because unknown keys are put in order and joined as texts.

* `unknownKeys_of_textKeys` and `unknownKeys_of_not_textKeys` say what becomes of the keys;
* `Workplace.checkSettings_follows` is the result: but for such keys, a check follows loading;
* `Workplace.checkSettings_numberedKey` is a file that is loaded and cannot be checked.
-/

namespace ErrorDerive

variable {entries : List (Value × Value)}

/-! ## Keys that are no settings -/

/-- Whether the keys among entries are texts. -/
def HasTextKeys (entries : List (Value × Value)) : Prop :=
  ∀ key ∈ entries.map Prod.fst, ∃ name, key = .text name

/-- The keys among entries that are no settings. -/
def otherKeys (entries : List (Value × Value)) : List Value :=
  (entries.map Prod.fst).filter fun key =>
    !settingNames.any fun name => Value.sameKey (.text name) key

theorem mem_otherKeys_iff {key : Value} :
    key ∈ otherKeys entries ↔
      key ∈ entries.map Prod.fst ∧ ∀ name ∈ settingNames, key ≠ .text name := by
  rw [otherKeys, List.mem_filter, Bool.not_eq_true', List.any_eq_false]
  simp only [Value.sameKey_text_iff, ne_eq]

theorem unknownKeys_eq (entries : List (Value × Value)) :
    unknownKeys entries = match (otherKeys entries).mapM Value.text? with
      | some names => .ok (names.mergeSort comesFirst)
      | none => .error .mixedKeys := rfl

theorem mapM_text?_map_text (names : List String) :
    (names.map Value.text).mapM Value.text? = some names := by
  induction names with
  | nil =>
      rfl
  | cons name rest inductionHypothesis =>
      rw [List.map_cons, List.mapM_cons, inductionHypothesis]
      rfl

theorem eq_map_text_of_mapM_text? {keys : List Value} {names : List String}
    (found : keys.mapM Value.text? = some names) : keys = names.map Value.text := by
  induction keys generalizing names with
  | nil =>
      cases found
      rfl
  | cons key rest inductionHypothesis =>
      rw [List.mapM_cons] at found
      obtain ⟨name, isName, found⟩ := Option.bind_eq_some_iff.mp found
      obtain ⟨others, isRest, found⟩ := Option.bind_eq_some_iff.mp found
      cases found
      cases key with
      | text content =>
          cases isName
          rw [List.map_cons, inductionHypothesis isRest]
      | _ =>
          cases isName

/-- Keys that are texts are listed, but for those of settings. -/
theorem unknownKeys_of_textKeys (texts : HasTextKeys entries) :
    ∃ names : List String, otherKeys entries = names.map Value.text ∧
      unknownKeys entries = .ok (names.mergeSort comesFirst) := by
  have others : ∀ key ∈ otherKeys entries, key ∈ Set.range Value.text := by
    intro key member
    obtain ⟨name, isText⟩ := texts key (mem_otherKeys_iff.mp member).1
    exact ⟨name, isText.symm⟩
  obtain ⟨names, areNames⟩ : otherKeys entries ∈ Set.range (List.map Value.text) := by
    rw [Set.range_list_map]
    exact others
  refine ⟨names, areNames.symm, ?_⟩
  rw [unknownKeys_eq, ← areNames, mapM_text?_map_text]

/-- A key that is no text cannot be listed. -/
theorem unknownKeys_of_not_textKeys (mixed : ¬ HasTextKeys entries) :
    unknownKeys entries = .error .mixedKeys := by
  rw [unknownKeys_eq]
  cases found : (otherKeys entries).mapM Value.text? with
  | none =>
      rfl
  | some names =>
      -- A key of a setting is a text anyway, and any other key has been listed as one.
      refine absurd ?_ mixed
      intro key member
      by_cases setting : ∃ name ∈ settingNames, key = .text name
      · obtain ⟨name, _, isSetting⟩ := setting
        exact ⟨name, isSetting⟩
      · have isOther : key ∈ otherKeys entries :=
          mem_otherKeys_iff.mpr ⟨member, fun name isName same => setting ⟨name, isName, same⟩⟩
        rw [eq_map_text_of_mapM_text? found] at isOther
        obtain ⟨name, _, same⟩ := List.mem_map.mp isOther
        exact ⟨name, same.symm⟩

/-! ## The check of a file -/

theorem isValid_iff {check : SettingsCheck} {settings : Settings}
    (errors : check.errors = settingsErrors settings) :
    check.isValid = true ↔ ∀ name ∈ settings.errorTypeNames, Text.strip name ≠ "" := by
  rw [SettingsCheck.isValid, errors, settingsErrors]
  by_cases blank : settings.errorTypeNames.any Text.isAllBlank = true
  · obtain ⟨name, member, isBlank⟩ := List.any_eq_true.mp blank
    rw [if_pos blank]
    constructor
    · intro empty
      cases empty
    · intro clear
      exact absurd ((Text.strip_eq_empty_iff name).mpr isBlank) (clear name member)
  · rw [if_neg blank]
    refine iff_of_true rfl ?_
    intro name member empty
    exact blank (List.any_eq_true.mpr ⟨name, member, (Text.strip_eq_empty_iff name).mp empty⟩)

namespace Workplace

variable {workplace : Workplace} {path : Path} {path? : Option Path} {settings : Settings}

theorem settingsFrom_eq_ok_iff :
    workplace.settingsFrom path = .ok settings ↔
      ∃ entries, workplace.readMapping path = .ok entries ∧
        settingsOfEntries path entries = .ok settings := by
  rw [settingsFrom, Judges.bind_eq_ok_iff]

/-- The keys of the mapping that settings are read from are texts, if they are read from a file. -/
def SettingsKeysAreTexts (workplace : Workplace) (path? : Option Path) : Prop :=
  ∀ path entries, workplace.settingsPath path? = .ok (some path) →
    workplace.readMapping path = .ok entries → HasTextKeys (settingsEntries entries)

theorem checkSettings_of_noFile (found : workplace.settingsPath path? = .ok none) :
    workplace.loadSettings path? = .ok {} ∧
      workplace.checkSettings path? = .ok .ofDefaults := by
  unfold loadSettings checkSettings
  rw [found]
  exact ⟨rfl, rfl⟩

theorem checkSettings_of_file (found : workplace.settingsPath path? = .ok (some path)) :
    workplace.loadSettings path? = workplace.settingsFrom path ∧
      workplace.checkSettings path? =
        workplace.checkSettingsAt path (workplace.settingsFrom path) := by
  unfold loadSettings checkSettings
  rw [found]
  exact ⟨rfl, rfl⟩

/-- Loaded settings are checked on the mapping that they were loaded from. -/
theorem checkSettingsAt_ok {entries : List (Value × Value)}
    (read : workplace.readMapping path = .ok entries) :
    workplace.checkSettingsAt path (.ok settings) =
      (unknownKeys (settingsEntries entries)).map fun unknown => {
        settings := some settings
        path := some path
        errors := settingsErrors settings
        warnings := settingsWarnings settings unknown } := by
  unfold checkSettingsAt checkLoaded
  rw [read]
  cases unknown : unknownKeys (settingsEntries entries) with
  | error cause =>
      simp [bind, Except.bind, Except.map, unknown, throw, throwThe, MonadExceptOf.throw]
  | ok names =>
      simp [bind, Except.bind, Except.map, unknown, pure, Except.pure]

/-- Loaded settings are the result of their check, if the keys of their mapping can be listed. -/
theorem checkSettings_of_loaded (loaded : workplace.loadSettings path? = .ok settings)
    (texts : workplace.SettingsKeysAreTexts path?) :
    ∃ check, workplace.checkSettings path? = .ok check ∧ check.settings = some settings ∧
      check.errors = settingsErrors settings := by
  rcases found : workplace.settingsPath path? with cause | _ | path
  · rw [loadSettings, found] at loaded
    cases loaded
  · obtain ⟨defaults, checked⟩ := checkSettings_of_noFile found
    rw [defaults] at loaded
    cases loaded
    exact ⟨.ofDefaults, checked, rfl, rfl⟩
  · obtain ⟨fromFile, checked⟩ := checkSettings_of_file found
    rw [fromFile] at loaded
    obtain ⟨entries, read, _⟩ := settingsFrom_eq_ok_iff.mp loaded
    obtain ⟨names, _, listed⟩ := unknownKeys_of_textKeys (texts path entries found read)
    rw [loaded, checkSettingsAt_ok read, listed] at checked
    exact ⟨_, checked, rfl, rfl⟩

/-- Settings are not checked if a key of their mapping is no text. -/
theorem checkSettings_of_mixedKeys (loaded : workplace.loadSettings path? = .ok settings)
    (mixed : ¬ workplace.SettingsKeysAreTexts path?) :
    workplace.checkSettings path? = .error .mixedKeys := by
  simp only [SettingsKeysAreTexts, not_forall] at mixed
  obtain ⟨path, entries, found, read, mixed⟩ := mixed
  obtain ⟨fromFile, checked⟩ := checkSettings_of_file found
  rw [fromFile] at loaded
  rw [loaded, checkSettingsAt_ok read, unknownKeys_of_not_textKeys mixed] at checked
  exact checked

/-- A reported fault is the only error that a check finds. -/
theorem checkSettings_of_reported {fault : ConfigFault}
    (failed : workplace.loadSettings path? = .error (.reported fault)) :
    ∃ path, workplace.settingsPath path? = .ok (some path) ∧
      workplace.checkSettings path? = .ok (.ofFault path fault) := by
  rcases found : workplace.settingsPath path? with cause | _ | path
  · rw [loadSettings, found] at failed
    cases failed
  · rw [loadSettings, found] at failed
    cases failed
  · obtain ⟨fromFile, checked⟩ := checkSettings_of_file found
    rw [← fromFile, failed] at checked
    exact ⟨path, rfl, checked⟩

theorem checkSettings_of_brokenDown {cause : Breakdown}
    (failed : workplace.loadSettings path? = .error (.brokenDown cause)) :
    workplace.checkSettings path? = .error cause := by
  rcases found : workplace.settingsPath path? with other | _ | path
  · rw [loadSettings, found] at failed
    cases failed
    rw [checkSettings, found]
    rfl
  · rw [loadSettings, found] at failed
    cases failed
  · obtain ⟨fromFile, checked⟩ := checkSettings_of_file found
    rw [← fromFile, failed] at checked
    exact checked

theorem checkSettings_eq_error_iff {cause : Breakdown} :
    workplace.checkSettings path? = .error cause ↔
      workplace.loadSettings path? = .error (.brokenDown cause) ∨
        (∃ settings, workplace.loadSettings path? = .ok settings) ∧
          ¬ workplace.SettingsKeysAreTexts path? ∧ cause = .mixedKeys := by
  constructor
  · intro broken
    rcases loaded : workplace.loadSettings path? with (fault | other) | settings
    · obtain ⟨path, _, checked⟩ := checkSettings_of_reported loaded
      rw [checked] at broken
      cases broken
    · rw [checkSettings_of_brokenDown loaded] at broken
      cases broken
      exact Or.inl rfl
    · refine Or.inr ⟨⟨settings, rfl⟩, ?_⟩
      by_cases texts : workplace.SettingsKeysAreTexts path?
      · obtain ⟨check, checked, _⟩ := checkSettings_of_loaded loaded texts
        rw [checked] at broken
        cases broken
      · rw [checkSettings_of_mixedKeys loaded texts] at broken
        cases broken
        exact ⟨texts, rfl⟩
  · rintro (failed | ⟨⟨settings, loaded⟩, mixed, rfl⟩)
    · exact checkSettings_of_brokenDown failed
    · exact checkSettings_of_mixedKeys loaded mixed

/-- A folder with a settings file of a given text. -/
def settingsFolder (text : String) : Workplace where
  tree := ⟨[(settingsFileName, .file { content := text.toUTF8.toList })]⟩
  folder := []

/-- A check follows loading.  Of settings that are loaded, a check reports these and whether a name
among them is blank, unless a key in their mapping is no text; a fault is reported as the only
error.  A check breaks down where loading does, and where a key that loading passes over is no
text. -/
theorem checkSettings_follows (workplace : Workplace) (path? : Option Path) :
    (∀ settings, workplace.loadSettings path? = .ok settings →
      workplace.SettingsKeysAreTexts path? →
      ∃ check, workplace.checkSettings path? = .ok check ∧ check.settings = some settings ∧
        (check.isValid = true ↔ ∀ name ∈ settings.errorTypeNames, Text.strip name ≠ "")) ∧
    (∀ fault, workplace.loadSettings path? = .error (.reported fault) →
      ∃ check, workplace.checkSettings path? = .ok check ∧ check.isValid = false ∧
        check.settings = none ∧ check.errors = [fault.message]) ∧
    ∀ cause, workplace.checkSettings path? = .error cause ↔
      workplace.loadSettings path? = .error (.brokenDown cause) ∨
        (∃ settings, workplace.loadSettings path? = .ok settings) ∧
          ¬ workplace.SettingsKeysAreTexts path? ∧ cause = .mixedKeys := by
  refine ⟨?_, ?_, fun _ => checkSettings_eq_error_iff⟩
  · intro settings loaded texts
    obtain ⟨check, checked, reported, errors⟩ := checkSettings_of_loaded loaded texts
    exact ⟨check, checked, reported, isValid_iff errors⟩
  · intro fault failed
    obtain ⟨path, _, checked⟩ := checkSettings_of_reported failed
    exact ⟨.ofFault path fault, checked, rfl, rfl, rfl⟩

/-- Blank names are loaded, and their check reports them. -/
theorem checkSettings_follows_blankName :
    (settingsFolder "error_type_names: [' ']\n").loadSettings none =
        .ok { errorTypeNames := [" "] } ∧
      (settingsFolder "error_type_names: [' ']\n").SettingsKeysAreTexts none ∧
      ∃ check, (settingsFolder "error_type_names: [' ']\n").checkSettings none = .ok check ∧
        check.isValid = false := by
  have loaded : (settingsFolder "error_type_names: [' ']\n").loadSettings none =
      .ok { errorTypeNames := [" "] } := by
    decide +kernel
  have texts : (settingsFolder "error_type_names: [' ']\n").SettingsKeysAreTexts none := by
    by_contra mixed
    have broken := checkSettings_of_mixedKeys loaded mixed
    revert broken
    decide +kernel
  obtain ⟨check, checked, _, valid⟩ := (checkSettings_follows _ none).1 _ loaded texts
  refine ⟨loaded, texts, check, checked, eq_false_of_ne_true fun isValid => ?_⟩
  exact valid.mp isValid " " (List.mem_singleton_self " ") (by decide)

/-- Settings are loaded from a file in which a key is a number, but they cannot be checked. -/
theorem checkSettings_numberedKey :
    (settingsFolder "1: x\n").loadSettings none = .ok {} ∧
      (settingsFolder "1: x\n").checkSettings none = .error .mixedKeys := by
  decide +kernel

end Workplace

end ErrorDerive
