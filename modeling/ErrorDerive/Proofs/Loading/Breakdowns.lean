import ErrorDerive.GenerationReport
import ErrorDerive.Proofs.Files.Lookup
import ErrorDerive.Proofs.Yaml.ValueCauses

/-!
# Breakdowns of loading

Files that cannot be loaded are reported, but not all of them: some end a run without a report.

* `Workplace.MappingBreaks`, `Workplace.SettingsBreak` and `Workplace.DeclarationsBreak` say when
  reading a mapping, settings and declarations ends so, and from which cause;
* `fileCauses` are the causes that the bytes of a file may have, and `Workplace.PlaceBreaks` are
  those of the place where it is;
* `Workplace.generateFrom_reports` says that everything else is reported, and
  `Workplace.generateFrom_brokenFiles` that each of the causes occurs.
-/

namespace ErrorDerive

/-! ## Reading a mapping -/

namespace Workplace

variable {workplace : Workplace} {path : Path} {cause : Breakdown}

/-- What a place may break a run down from: a name that is too long, a folder that may not be
searched, or a working folder whose name cannot be spelled. -/
inductive PlaceBreaks (workplace : Workplace) : Breakdown → Prop
  | tooLong : PlaceBreaks workplace (.files .nameTooLong)
  | denied {location : Location} : workplace.tree.seen? location = some .closed →
      PlaceBreaks workplace (.files .searchDenied)
  | unspellable {name : String} : name ∈ workplace.folder → isUnspellable name = true →
      PlaceBreaks workplace .unencodableText

theorem placeBreaks_of_fileAt? (refused : workplace.fileAt? path = .error cause) :
    workplace.PlaceBreaks cause := by
  rw [fileAt?_eq_error_iff_status] at refused
  unfold status at refused
  split at refused
  · cases refused
  split at refused
  · cases refused
    exact .tooLong
  · obtain ⟨_, ⟨_, _, _, _, _, flaw⟩, named⟩ :=
      (workplace.tree.status_eq_error_iff _ _).mp refused
    cases flaw with
    | nameTooLong _ _ =>
        exact .tooLong
    | searchDenied isClosed =>
        exact .denied isClosed
    | notAFolder _ _ =>
        rcases named with impossible | impossible <;> cases impossible
    | notFound _ _ _ =>
        rcases named with impossible | impossible <;> cases impossible

/-- How reading a mapping ends without a report: the path cannot be looked up, the bytes are no
text, or the text cannot be read as YAML for a cause of its own. -/
inductive MappingBreaks (workplace : Workplace) (path : Path) : Breakdown → Prop
  | path {cause : Breakdown} : workplace.fileAt? path = .error cause →
      MappingBreaks workplace path cause
  | bytes {file : File} : workplace.fileAt? path = .ok (some file) → file.refusal = none →
      textOfBytes? file.content = none → MappingBreaks workplace path .undecodableBytes
  | text {file : File} {text : String} {cause : Breakdown} :
      workplace.fileAt? path = .ok (some file) → file.refusal = none →
      textOfBytes? file.content = some text →
      Yaml.read workplace.process text = .error (.broken cause) →
      MappingBreaks workplace path cause

theorem mappingOfText_eq_brokenDown_iff {process : Process} {text : String} :
    mappingOfText process path text = .error (.brokenDown cause) ↔
      Yaml.read process text = .error (.broken cause) := by
  unfold mappingOfText
  rcases Yaml.read process text with (_ | other) | value
  · simp [Except.map]
  · simp [Except.map]
  · simp only [Except.map]
    cases value.opened <;> simp

theorem readMapping_of_file {file : File} (found : workplace.fileAt? path = .ok (some file)) :
    workplace.readMapping path = file.text path >>= mappingOfText workplace.process path := by
  rw [readMapping, found]

theorem readMapping_eq_brokenDown_iff :
    workplace.readMapping path = .error (.brokenDown cause) ↔
      workplace.MappingBreaks path cause := by
  constructor
  · intro broken
    cases found : workplace.fileAt? path with
    | error answer =>
        rw [readMapping, found] at broken
        cases broken
        exact .path found
    | ok file? =>
        cases file? with
        | none =>
            rw [readMapping, found] at broken
            cases broken
        | some file =>
            rw [readMapping_of_file found, File.text] at broken
            cases refused : file.refusal with
            | some reason =>
                rw [refused] at broken
                cases broken
            | none =>
                rw [refused] at broken
                cases decoded : textOfBytes? file.content with
                | none =>
                    rw [decoded] at broken
                    cases broken
                    exact .bytes found refused decoded
                | some text =>
                    rw [decoded] at broken
                    exact .text found refused decoded (mappingOfText_eq_brokenDown_iff.mp broken)
  · intro breaks
    cases breaks with
    | path refused =>
        rw [readMapping, refused]
    | bytes found readable undecodable =>
        rw [readMapping_of_file found, File.text, readable, undecodable]
        rfl
    | text found readable decoded broken =>
        rw [readMapping_of_file found, File.text, readable, decoded]
        exact mappingOfText_eq_brokenDown_iff.mpr broken

/-! ## Loading settings -/

/-- How loading settings ends without a report: while they are looked for, or in their file. -/
inductive SettingsBreak (workplace : Workplace) (settings? : Option Path) : Breakdown → Prop
  | search {cause : Breakdown} : workplace.settingsPath settings? = .error cause →
      SettingsBreak workplace settings? cause
  | file {path : Path} {cause : Breakdown} : workplace.settingsPath settings? = .ok (some path) →
      workplace.MappingBreaks path cause → SettingsBreak workplace settings? cause

theorem settingsOfEntries_ne_brokenDown (entries : List (Value × Value)) :
    settingsOfEntries path entries ≠ .error (.brokenDown cause) := by
  intro broken
  unfold settingsOfEntries at broken
  dsimp only at broken
  split at broken
  · cases broken
  · cases broken

theorem settingsFrom_eq_brokenDown_iff :
    workplace.settingsFrom path = .error (.brokenDown cause) ↔
      workplace.MappingBreaks path cause := by
  rw [settingsFrom, Judges.bind_eq_error_iff, readMapping_eq_brokenDown_iff]
  refine or_iff_left ?_
  rintro ⟨entries, _, broken⟩
  exact settingsOfEntries_ne_brokenDown entries broken

theorem loadSettings_eq_brokenDown_iff {settings? : Option Path} :
    workplace.loadSettings settings? = .error (.brokenDown cause) ↔
      workplace.SettingsBreak settings? cause := by
  unfold loadSettings
  constructor
  · intro broken
    rcases found : workplace.settingsPath settings? with answer | _ | path
    · rw [found] at broken
      cases broken
      exact .search found
    · rw [found] at broken
      cases broken
    · rw [found] at broken
      exact .file found (settingsFrom_eq_brokenDown_iff.mp broken)
  · intro breaks
    cases breaks with
    | search refused =>
        rw [refused]
    | file found broken =>
        rw [found]
        exact settingsFrom_eq_brokenDown_iff.mpr broken

/-! ## Loading declarations -/

end Workplace

/-- The name that a type is called by where its variants are no list. -/
def calledName (entries : List (Value × Value)) : Value :=
  (Value.lookup? "name" entries).getD (.text "?")

/-- The variants among the entries of a type. -/
def givenVariants (entries : List (Value × Value)) : Value :=
  ((Value.lookup? "variants" entries).getD .null).opened

/-- The variants of a type are no list, and the name that is to be reported cannot be shown. -/
structure NameBreaks (entries : List (Value × Value)) (cause : Breakdown) : Prop where
  given : (givenVariants entries).isHollow = false
  noList : ∀ items, givenVariants entries ≠ .list items
  unshowable : (calledName entries).unshowable? = some cause

/-- How a value that declares a type ends a run without a report. -/
def ValueBreaks (value : Value) (cause : Breakdown) : Prop :=
  ∃ entries, value.opened = .mapping entries ∧ NameBreaks entries cause

section Declarations

variable {workplace : Workplace} {path : Path} {cause : Breakdown}

theorem variantsFault_eq_brokenDown_iff {entries : List (Value × Value)} {variants : Value} :
    variantsFault entries variants = .brokenDown cause ↔
      (calledName entries).unshowable? = some cause := by
  unfold variantsFault calledName
  dsimp only
  cases ((Value.lookup? "name" entries).getD (.text "?")).unshowable? with
  | some other => simp
  | none => simp

theorem declaredVariants_eq_brokenDown_iff {entries : List (Value × Value)} :
    declaredVariants entries = .error (.brokenDown cause) ↔ NameBreaks entries cause := by
  unfold declaredVariants
  change (if (givenVariants entries).isHollow = true then _ else _) = _ ↔ _
  by_cases hollow : (givenVariants entries).isHollow = true
  · rw [if_pos hollow]
    constructor
    · intro impossible
      cases impossible
    · intro breaks
      rw [breaks.given] at hollow
      cases hollow
  · rw [if_neg hollow]
    split
    next items isList =>
      constructor
      · intro impossible
        cases impossible
      · intro breaks
        exact absurd isList (breaks.noList items)
    next other noList =>
      rw [Except.error.injEq, variantsFault_eq_brokenDown_iff]
      refine ⟨fun unshowable => ?_, fun breaks => breaks.unshowable⟩
      exact ⟨eq_false_of_ne_true hollow, noList, unshowable⟩

theorem ofEntries_eq_brokenDown_iff {entries : List (Value × Value)} :
    TypeDeclaration.ofEntries entries = .error (.brokenDown cause) ↔ NameBreaks entries cause := by
  rw [TypeDeclaration.ofEntries, Judges.bind_eq_error_iff, declaredVariants_eq_brokenDown_iff]
  refine or_iff_left ?_
  rintro ⟨variants, _, broken⟩
  dsimp only at broken
  split at broken
  · cases broken
  · cases broken

theorem ofValue_eq_brokenDown_iff {value : Value} :
    TypeDeclaration.ofValue path value = .error (.brokenDown cause) ↔ ValueBreaks value cause := by
  unfold TypeDeclaration.ofValue
  split
  next entries isMapping =>
    rw [ofEntries_eq_brokenDown_iff]
    constructor
    · intro breaks
      exact ⟨entries, isMapping, breaks⟩
    · rintro ⟨others, same, breaks⟩
      rw [isMapping] at same
      cases same
      exact breaks
  next other noMapping =>
    constructor
    · intro impossible
      cases impossible
    · rintro ⟨entries, same, _⟩
      exact absurd same (noMapping entries)

/-- A value of a file declares a type. -/
def DeclaresType (path : Path) (value : Value) : Prop :=
  ∃ declaration, TypeDeclaration.ofValue path value = .ok declaration

/-- How loading declarations ends without a report: in their file, or at the first type that cannot
be loaded. -/
inductive Workplace.DeclarationsBreak (workplace : Workplace) (path : Path) : Breakdown → Prop
  | file {cause : Breakdown} : workplace.MappingBreaks path cause →
      DeclarationsBreak workplace path cause
  | type {entries : List (Value × Value)} {values : List Value} {cause : Breakdown} :
      workplace.readMapping path = .ok entries → declaringValues path entries = .ok values →
      Judges.FirstFlaw (DeclaresType path) ValueBreaks values cause →
      DeclarationsBreak workplace path cause

theorem mapError_reported_eq_ok_iff {result : Type} {check : Except ConfigFault result}
    {value : result} : check.mapError LoadFault.reported = .ok value ↔ check = .ok value := by
  cases check with
  | error fault => simp [Except.mapError]
  | ok other => simp [Except.mapError]

theorem mapError_reported_ne_brokenDown {result : Type} (check : Except ConfigFault result) :
    check.mapError LoadFault.reported ≠ .error (.brokenDown cause) := by
  cases check with
  | error fault => simp [Except.mapError]
  | ok value => simp [Except.mapError]

theorem declarationsOfEntries_eq_brokenDown_iff {entries : List (Value × Value)} :
    declarationsOfEntries path entries = .error (.brokenDown cause) ↔
      ∃ values, declaringValues path entries = .ok values ∧
        Judges.FirstFlaw (DeclaresType path) ValueBreaks values cause := by
  rw [declarationsOfEntries, Judges.bind_eq_error_iff]
  constructor
  · rintro (broken | ⟨values, declared, broken⟩)
    · exact absurd broken (mapError_reported_ne_brokenDown _)
    · obtain ⟨earlier, failing, later, split, good, failed⟩ := Judges.mapM_eq_error_iff.mp broken
      exact ⟨values, mapError_reported_eq_ok_iff.mp declared, earlier, failing, later, split, good,
        ofValue_eq_brokenDown_iff.mp failed⟩
  · rintro ⟨values, declared, earlier, failing, later, split, good, breaks⟩
    refine Or.inr ⟨values, mapError_reported_eq_ok_iff.mpr declared, ?_⟩
    exact Judges.mapM_eq_error_iff.mpr ⟨earlier, failing, later, split, good,
      ofValue_eq_brokenDown_iff.mpr breaks⟩

theorem Workplace.loadDeclarations_eq_brokenDown_iff :
    workplace.loadDeclarations path = .error (.brokenDown cause) ↔
      workplace.DeclarationsBreak path cause := by
  rw [loadDeclarations, Judges.bind_eq_error_iff, readMapping_eq_brokenDown_iff]
  constructor
  · rintro (breaks | ⟨entries, loaded, broken⟩)
    · exact .file breaks
    · obtain ⟨values, declared, flaw⟩ := declarationsOfEntries_eq_brokenDown_iff.mp broken
      exact .type loaded declared flaw
  · intro breaks
    cases breaks with
    | file breaks =>
        exact Or.inl breaks
    | type loaded declared flaw =>
        exact Or.inr ⟨_, loaded, declarationsOfEntries_eq_brokenDown_iff.mpr ⟨_, declared, flaw⟩⟩

end Declarations

/-! ## Causes -/

/-- What the bytes of a file may break a run down from. -/
def fileCauses : List Breakdown :=
  .undecodableBytes :: Yaml.valueCauses

/-- What showing a value may break down from. -/
def shownCauses : List Breakdown := [.impossibleValue, .endlessDescent]

/-- An obstacle, if there is one, is among the causes of showing a value. -/
def IsShownCause (obstacle? : Option Breakdown) : Prop :=
  ∀ cause, obstacle? = some cause → cause ∈ shownCauses

theorem isShownCause_none : IsShownCause none := by
  intro cause found
  cases found

theorem isShownCause_some {cause : Breakdown} (member : cause ∈ shownCauses) :
    IsShownCause (some cause) := by
  intro other found
  cases found
  exact member

theorem IsShownCause.or {first second : Option Breakdown} (isCause : IsShownCause first)
    (isOther : IsShownCause second) : IsShownCause (first.or second) := by
  cases first with
  | none => exact isOther
  | some cause => exact isCause

theorem isShownCause_obstacle? (room : Nat) (value : Value) :
    IsShownCause (value.obstacle? room) := by
  refine Value.obstacle?.induct
    (fun room value => IsShownCause (value.obstacle? room))
    (fun room entries => IsShownCause (Value.entryObstacle? room entries))
    (fun room items => IsShownCause (Value.itemObstacle? room items))
    ?long ?short ?list ?tuple ?set ?mapping ?other ?noItem ?deepItem ?item ?noEntry ?deepEntry
    ?entry room value
  case long =>
    intro room number isLong
    rw [Value.obstacle?, if_pos isLong]
    exact isShownCause_some (by decide)
  case short =>
    intro room number isShort
    rw [Value.obstacle?, if_neg isShort]
    exact isShownCause_none
  case list | tuple | set | mapping =>
    intro room parts isCause
    rw [Value.obstacle?]
    exact isCause
  case other =>
    intro value room noInt noList noTuple noSet noMapping
    rw [Value.obstacle?]
    · exact isShownCause_none
    all_goals assumption
  case noItem | noEntry =>
    intro room
    exact isShownCause_none
  case deepItem =>
    intro item rest
    exact isShownCause_some (by decide)
  case deepEntry =>
    intro key content rest
    exact isShownCause_some (by decide)
  case item =>
    intro item rest left isCause isLater
    rw [Value.itemObstacle?]
    exact isCause.or isLater
  case entry =>
    intro key content rest left isCause isOther isLater
    rw [Value.entryObstacle?]
    exact (isCause.or isOther).or isLater

namespace Workplace

variable {workplace : Workplace} {path : Path} {cause : Breakdown}

theorem MappingBreaks.isCause (breaks : workplace.MappingBreaks path cause) :
    cause ∈ fileCauses ∨ workplace.PlaceBreaks cause := by
  cases breaks with
  | path refused =>
      exact Or.inr (placeBreaks_of_fileAt? refused)
  | bytes found readable undecodable =>
      exact Or.inl List.mem_cons_self
  | text found readable decoded broken =>
      exact Or.inl (List.mem_cons_of_mem _ (Yaml.failsAmong_read _ _ _ broken))

theorem placeBreaks_of_firstWithSettings {folders : List Location}
    (refused : workplace.firstWithSettings folders = .error cause) :
    workplace.PlaceBreaks cause := by
  induction folders with
  | nil =>
      cases refused
  | cons folder rest inductionHypothesis =>
      rw [firstWithSettings, Judges.bind_eq_error_iff] at refused
      rcases refused with refused | ⟨file?, _, refused⟩
      · exact placeBreaks_of_fileAt? refused
      · cases file? with
        | none => exact inductionHypothesis refused
        | some file => cases refused

/-- A name that can be none cannot be spelled, or holds the null character. -/
theorem isUnspellable_or_eq_of_namesFault? {name : String}
    (faulty : namesFault? [name] = some cause) :
    isUnspellable name = true ∧ cause = .unencodableText ∨ cause = .impossibleValue := by
  rw [namesFault?] at faulty
  split at faulty
  · next unspellable =>
      exact Or.inl ⟨by simpa using unspellable, (Option.some.inj faulty).symm⟩
  · split at faulty
    · exact Or.inr (Option.some.inj faulty).symm
    · cases faulty

theorem isCause_of_settingsPath {settings? : Option Path}
    (refused : workplace.settingsPath settings? = .error cause) :
    cause ∈ fileCauses ∨ workplace.PlaceBreaks cause := by
  cases settings? with
  | some path =>
      cases refused
  | none =>
      rw [settingsPath, findSettings] at refused
      cases faulty : firstFault? (namesFrom workplace.folder {}) with
      | none =>
          rw [faulty] at refused
          exact Or.inr (placeBreaks_of_firstWithSettings refused)
      | some fault =>
          rw [faulty] at refused
          cases refused
          obtain ⟨name, member, isFault⟩ := List.exists_of_findSome?_eq_some faulty
          have inFolder : name ∈ workplace.folder := by
            simpa [namesFrom, Path.isAbsolute] using member
          rcases isUnspellable_or_eq_of_namesFault? isFault with ⟨unspellable, rfl⟩ | rfl
          · exact Or.inr (.unspellable inFolder unspellable)
          · exact Or.inl (by decide)

theorem SettingsBreak.isCause {settings? : Option Path}
    (breaks : workplace.SettingsBreak settings? cause) :
    cause ∈ fileCauses ∨ workplace.PlaceBreaks cause := by
  cases breaks with
  | search refused => exact isCause_of_settingsPath refused
  | file found breaks => exact breaks.isCause

theorem shownCauses_subset : shownCauses ⊆ fileCauses := by
  decide

theorem DeclarationsBreak.isCause (breaks : workplace.DeclarationsBreak path cause) :
    cause ∈ fileCauses ∨ workplace.PlaceBreaks cause := by
  cases breaks with
  | file breaks =>
      exact breaks.isCause
  | type loaded declared flaw =>
      obtain ⟨_, _, _, _, _, _, _, breaks⟩ := flaw
      exact Or.inl (shownCauses_subset (isShownCause_obstacle? _ _ _ breaks.unshowable))

/-! ## Reports -/

theorem generateFrom_eq_error_iff {settings? : Option Path} {output? : Option String}
    {overwrite : Bool} :
    workplace.generateFrom path settings? output? overwrite = .error cause ↔
      workplace.SettingsBreak settings? cause ∨
        (∃ settings, workplace.loadSettings settings? = .ok settings) ∧
          workplace.DeclarationsBreak path cause := by
  rw [← loadSettings_eq_brokenDown_iff, ← loadDeclarations_eq_brokenDown_iff, generateFrom]
  rcases workplace.loadSettings settings? with (fault | other) | settings
  · simp [ofLoadFault]
  · simp [ofLoadFault]
  · rcases workplace.loadDeclarations path with (fault | other) | declarations
    · simp [ofLoadFault]
    · simp [ofLoadFault]
    · simp

/-- What comes of a declaration file.  The run breaks down exactly if the settings break down while
they are loaded, or if they are loaded and the declarations break down; the cause is then one that
the bytes of a file may have, or one of the place.  Everything else is reported, and loading that
fails is reported as an error of the configuration, with nothing else filled in. -/
theorem generateFrom_reports (workplace : Workplace) (declaration : Path)
    (settings? : Option Path) (output? : Option String) (overwrite : Bool) :
    (∀ path cause, workplace.readMapping path = .error (.brokenDown cause) ↔
      workplace.MappingBreaks path cause) ∧
    (∀ cause, workplace.loadSettings settings? = .error (.brokenDown cause) ↔
      workplace.SettingsBreak settings? cause) ∧
    (∀ cause, workplace.loadDeclarations declaration = .error (.brokenDown cause) ↔
      workplace.DeclarationsBreak declaration cause) ∧
    (∀ cause, workplace.generateFrom declaration settings? output? overwrite = .error cause ↔
      workplace.SettingsBreak settings? cause ∨
        (∃ settings, workplace.loadSettings settings? = .ok settings) ∧
          workplace.DeclarationsBreak declaration cause) ∧
    (∀ cause, workplace.generateFrom declaration settings? output? overwrite = .error cause →
      cause ∈ fileCauses ∨ workplace.PlaceBreaks cause) ∧
    (∀ fault, (workplace.loadSettings settings? = .error (.reported fault) ∨
        (∃ settings, workplace.loadSettings settings? = .ok settings) ∧
          workplace.loadDeclarations declaration = .error (.reported fault)) →
      workplace.generateFrom declaration settings? output? overwrite =
        .ok { declaration := some declaration, results := [], generated := none,
              error := some fault.message, errorKind := some "ConfigError" }) ∧
    (∀ settings declarations, workplace.loadSettings settings? = .ok settings →
      workplace.loadDeclarations declaration = .ok declarations →
      workplace.generateFrom declaration settings? output? overwrite =
        .ok (reportOn declaration output? overwrite settings declarations)) := by
  refine ⟨fun _ _ => readMapping_eq_brokenDown_iff, fun _ => loadSettings_eq_brokenDown_iff,
    fun _ => loadDeclarations_eq_brokenDown_iff, fun _ => generateFrom_eq_error_iff, ?_, ?_, ?_⟩
  · intro cause broken
    rcases generateFrom_eq_error_iff.mp broken with breaks | ⟨_, breaks⟩
    · exact breaks.isCause
    · exact breaks.isCause
  · rintro fault (failed | ⟨⟨settings, loaded⟩, failed⟩)
    · rw [generateFrom, failed]
      rfl
    · rw [generateFrom, loaded, failed]
      rfl
  · intro settings declarations settingsLoaded declarationsLoaded
    rw [generateFrom, settingsLoaded, declarationsLoaded]

/-! ## Files that break a run down -/

/-- A folder with a declaration file of given bytes. -/
def declarationFolder (bytes : List UInt8) : Workplace where
  tree := ⟨[("e.yml", .file { content := bytes })]⟩
  folder := []

/-- A file for each of the causes. -/
def brokenFiles : List (Breakdown × List UInt8) := [
  (.undecodableBytes, [0xFF]),
  (.unknownTruthWord, "!!bool x".toUTF8.toList),
  (.emptyNumeral, "!!int ''".toUTF8.toList),
  (.shapelessTime, "!!timestamp x".toUTF8.toList),
  (.timeNotText, "!!timestamp \x7b=: x\x7d".toUTF8.toList),
  (.impossibleValue, "2001-13-01".toUTF8.toList),
  (.oversizedNumber, "\"\\Uffffffff\"".toUTF8.toList),
  (.endlessDescent, "!!int &a \x7b=: *a\x7d".toUTF8.toList)]

/-- Each of the causes ends a run. -/
theorem generateFrom_brokenFiles :
    brokenFiles.map Prod.fst = fileCauses ∧
      (brokenFiles.map fun file =>
        (declarationFolder file.2).generateFrom (.ofText "e.yml") none none false) =
        brokenFiles.map fun file => .error file.1 := by
  decide +kernel

end Workplace

end ErrorDerive
