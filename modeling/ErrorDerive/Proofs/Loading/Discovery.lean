import ErrorDerive.Proofs.Files.Lookup
import ErrorDerive.Proofs.Loading.Checking

/-!
# The nearest settings file

Settings are looked for in a folder and in the folders above it, up to the limit or the top.  What
counts is the nearest folder with a settings file; a folder of that name is passed over, and files
further up do not matter.

* `Tree.Nearest` says which folder it is, without a word on how the folders are searched;
* `Workplace.Finds` says what the search comes to;
* `Tree.DiffersAbove` relates trees that differ by settings files above a folder only.
-/

namespace ErrorDerive

/-! ## Folders and the folders above -/

/-- A folder is another one or above it, and near enough to be searched. -/
structure Searched (home folder : Location) : Prop where
  above : folder <+: home
  near : home.length < folder.length + searchLimit

theorem take_ancestors (home : Location) (limit : Nat) :
    (ancestors home).take limit =
      (List.range (min limit (home.length + 1))).map fun count =>
        home.take (home.length - count) := by
  rw [ancestors, ← List.map_take, List.take_range]

theorem mem_take_ancestors_iff {home folder : Location} :
    folder ∈ (ancestors home).take searchLimit ↔ Searched home folder := by
  rw [take_ancestors, List.mem_map]
  constructor
  · intro member
    obtain ⟨count, inRange, rfl⟩ := member
    rw [List.mem_range] at inRange
    refine ⟨List.take_prefix _ home, ?_⟩
    rw [List.length_take]
    omega
  · intro searched
    have shorter := searched.above.length_le
    have near := searched.near
    refine ⟨home.length - folder.length, ?_, ?_⟩
    · rw [List.mem_range]
      omega
    · have depth : home.length - (home.length - folder.length) = folder.length := by omega
      rw [depth]
      exact (List.prefix_iff_eq_take.mp searched.above).symm

/-- The search goes upwards. -/
theorem pairwise_take_ancestors (home : Location) (limit : Nat) :
    ((ancestors home).take limit).Pairwise fun nearer further => further <+: nearer := by
  rw [take_ancestors, List.pairwise_map]
  refine List.pairwise_lt_range.imp ?_
  intro first second less
  apply List.take_prefix_take_left
  omega

/-! ## The nearest settings file -/

namespace Tree

variable {tree : Tree} {home found : Location}

/-- A settings file is in the folder. -/
def HoldsSettings (tree : Tree) (folder : Location) : Prop :=
  (tree.file? (folder ++ [settingsFileName])).isSome = true

/-- The nearest folder with a settings file: one that is searched, with no other one between. -/
structure Nearest (tree : Tree) (home found : Location) : Prop extends Searched home found where
  holds : tree.HoldsSettings found
  nearest : ∀ other, other <+: home → tree.HoldsSettings other → other <+: found

theorem Nearest.unique {other : Location} (first : tree.Nearest home found)
    (second : tree.Nearest home other) : found = other :=
  (second.nearest found first.above first.holds).eq_of_length_le
    (first.nearest other second.above second.holds).length_le

/-- The first folder of a search that holds a settings file. -/
def firstHolding? (tree : Tree) (folders : List Location) : Option Location :=
  folders.find? fun folder => (tree.file? (folder ++ [settingsFileName])).isSome

theorem nearest_of_firstHolding?
    (isFirst : tree.firstHolding? ((ancestors home).take searchLimit) = some found) :
    tree.Nearest home found := by
  obtain ⟨holds, nearer, further, split, passedOver⟩ :=
    List.find?_eq_some_iff_append.mp isFirst
  have searched : Searched home found := by
    rw [← mem_take_ancestors_iff, split]
    exact List.mem_append_right nearer List.mem_cons_self
  have upwards := pairwise_take_ancestors home searchLimit
  rw [split, List.pairwise_append, List.pairwise_cons] at upwards
  refine ⟨searched, holds, ?_⟩
  intro other above otherHolds
  by_cases near : home.length < other.length + searchLimit
  · -- A searched folder comes after the one found, since those before it hold nothing.
    have member : other ∈ nearer ++ found :: further := by
      rw [← split]
      exact mem_take_ancestors_iff.mpr ⟨above, near⟩
    rcases List.mem_append.mp member with passed | onward
    · have lacks := passedOver other passed
      rw [Bool.not_eq_true'] at lacks
      rw [HoldsSettings, lacks] at otherHolds
      cases otherHolds
    · rcases List.mem_cons.mp onward with same | later
      · exact same ▸ List.prefix_rfl
      · exact upwards.2.1.1 other later
  · -- Too far up to be searched, so above the folder found, which is on the same way.
    have shorter : other.length ≤ found.length := by
      have foundNear := searched.near
      omega
    exact List.prefix_of_prefix_length_le above searched.above shorter

theorem firstHolding?_eq_none_iff :
    tree.firstHolding? ((ancestors home).take searchLimit) = none ↔
      ∀ folder, Searched home folder → ¬ tree.HoldsSettings folder := by
  rw [firstHolding?, List.find?_eq_none]
  simp only [mem_take_ancestors_iff, HoldsSettings]

theorem firstHolding?_eq_some_iff :
    tree.firstHolding? ((ancestors home).take searchLimit) = some found ↔
      tree.Nearest home found := by
  constructor
  · exact nearest_of_firstHolding?
  · intro nearest
    -- Something is found, and it is the nearest too.
    cases isFirst : tree.firstHolding? ((ancestors home).take searchLimit) with
    | none =>
        exact absurd nearest.holds
          (firstHolding?_eq_none_iff.mp isFirst found nearest.toSearched)
    | some other =>
        rw [(nearest_of_firstHolding? isFirst).unique nearest]

end Tree

/-! ## The search -/

namespace Workplace

variable {workplace : Workplace} {start : Path}

/-- The folder where the search starts. -/
def home (workplace : Workplace) (start : Path) : Location :=
  settle (namesFrom workplace.folder start)

/-- A settings file can be looked for where the search starts. -/
structure Permits (workplace : Workplace) (start : Path) : Prop where
  clean : namesFault? (namesFrom workplace.folder start) = none
  passes : ∀ cause, ¬ workplace.tree.Blocks (workplace.home start ++ [settingsFileName]) cause

/-- What the search comes to. -/
inductive Finds (workplace : Workplace) (start : Path) : Except Breakdown (Option Path) → Prop
  | nearest (found : Location) :
      workplace.Permits start → workplace.tree.Nearest (workplace.home start) found →
      Finds workplace start (.ok (some (pathOf (found ++ [settingsFileName]))))
  | nothing :
      workplace.Permits start →
      (∀ folder, Searched (workplace.home start) folder →
        ¬ workplace.tree.HoldsSettings folder) →
      Finds workplace start (.ok none)
  | unnamable (around later : List String) (name : String) (fault : Breakdown) :
      namesFrom workplace.folder start = around ++ name :: later → namesFault? around = none →
      namesFault? [name] = some fault → Finds workplace start (.error fault)
  | blocked (cause : Breakdown) :
      namesFault? (namesFrom workplace.folder start) = none →
      workplace.tree.Blocks (workplace.home start ++ [settingsFileName]) cause →
      Finds workplace start (.error cause)

theorem namesFault?_singleton_eq_none_iff {name : String} :
    namesFault? [name] = none ↔ isUnspellable name = false ∧ holdsNull name = false := by
  rw [Tree.namesFault?_eq_none_iff, List.forall_mem_singleton]

theorem namesFault?_of_forall {names : List String}
    (clean : ∀ name ∈ names, namesFault? [name] = none) : namesFault? names = none := by
  rw [Tree.namesFault?_eq_none_iff]
  intro name member
  exact namesFault?_singleton_eq_none_iff.mp (clean name member)

theorem namesFault?_of_mem {names : List String} (clean : namesFault? names = none)
    {name : String} (member : name ∈ names) : namesFault? [name] = none := by
  apply Tree.namesFault?_of_subset clean
  intro other isMember
  rw [List.mem_singleton.mp isMember]
  exact member

/-- The names have no first fault exactly if they have none at all. -/
theorem firstFault?_eq_none_iff {names : List String} :
    firstFault? names = none ↔ namesFault? names = none := by
  rw [firstFault?, List.findSome?_eq_none_iff]
  exact ⟨namesFault?_of_forall, fun clean _ => namesFault?_of_mem clean⟩

theorem firstFault?_eq_some_iff {names : List String} {fault : Breakdown} :
    firstFault? names = some fault ↔ ∃ around later name, names = around ++ name :: later ∧
      namesFault? around = none ∧ namesFault? [name] = some fault := by
  rw [firstFault?, List.findSome?_eq_some_iff]
  constructor
  · intro first
    obtain ⟨around, name, later, split, faulty, clean⟩ := first
    exact ⟨around, later, name, split, namesFault?_of_forall clean, faulty⟩
  · intro first
    obtain ⟨around, later, name, split, clean, faulty⟩ := first
    exact ⟨around, name, later, split, faulty, fun _ => namesFault?_of_mem clean⟩

theorem namesFault?_of_isFront {location folder : Location} (clean : namesFault? location = none)
    (isFront : folder <+: location) : namesFault? (folder ++ [settingsFileName]) = none := by
  have named : namesFault? [settingsFileName] = none := by decide
  apply namesFault?_of_forall
  intro name member
  rcases List.mem_append.mp member with inFolder | last
  · exact namesFault?_of_mem clean (isFront.subset inFolder)
  · rw [List.mem_singleton.mp last]
    exact named

/-- Where the first look is possible, so is every later one. -/
theorem Permits.fileAt?_above (permits : workplace.Permits start) {folder : Location}
    (isFront : folder <+: workplace.home start) :
    workplace.fileAt? (pathOf (folder ++ [settingsFileName])) =
      .ok (workplace.tree.file? (folder ++ [settingsFileName])) := by
  apply fileAt?_of_not_blocks
  · exact namesFault?_of_isFront (namesFault?_settle permits.clean) isFront
  · rw [List.mem_append, not_or, List.mem_singleton]
    exact ⟨fun member => not_mem_settle _ (isFront.subset member), by decide⟩
  · intro cause blocks
    obtain ⟨later, whole⟩ := isFront
    obtain ⟨other, deeper⟩ := blocks.deeper (by decide) later
    rw [whole] at deeper
    exact permits.passes other deeper

theorem firstWithSettings_of_fileAt?_eq {folders : List Location}
    (looked : ∀ folder ∈ folders, workplace.fileAt? (pathOf (folder ++ [settingsFileName])) =
      .ok (workplace.tree.file? (folder ++ [settingsFileName]))) :
    workplace.firstWithSettings folders =
      .ok ((workplace.tree.firstHolding? folders).map fun folder =>
        pathOf (folder ++ [settingsFileName])) := by
  induction folders with
  | nil =>
      rfl
  | cons folder rest inductionHypothesis =>
      rw [List.forall_mem_cons] at looked
      rw [firstWithSettings, looked.1, Tree.firstHolding?, List.find?_cons]
      cases workplace.tree.file? (folder ++ [settingsFileName]) with
      | some present =>
          rfl
      | none =>
          exact inductionHypothesis looked.2

theorem findSettings_of_permits (permits : workplace.Permits start) :
    workplace.findSettings start =
      .ok ((workplace.tree.firstHolding?
        ((ancestors (workplace.home start)).take searchLimit)).map fun folder =>
          pathOf (folder ++ [settingsFileName])) := by
  rw [findSettings]
  simp only [firstFault?_eq_none_iff.mpr permits.clean]
  apply firstWithSettings_of_fileAt?_eq
  intro folder member
  exact permits.fileAt?_above (mem_take_ancestors_iff.mp member).above

theorem findSettings_of_firstFault? {fault : Breakdown}
    (faulty : firstFault? (namesFrom workplace.folder start) = some fault) :
    workplace.findSettings start = .error fault := by
  rw [findSettings]
  simp only [faulty]

theorem findSettings_of_blocks {cause : Breakdown}
    (clean : namesFault? (namesFrom workplace.folder start) = none)
    (blocks : workplace.tree.Blocks (workplace.home start ++ [settingsFileName]) cause) :
    workplace.findSettings start = .error cause := by
  have looked := (fileAt?_eq_error_iff
    (namesFault?_of_isFront (namesFault?_settle clean) List.prefix_rfl)).mpr blocks
  obtain ⟨rest, first⟩ : ∃ rest,
      (ancestors (workplace.home start)).take searchLimit = workplace.home start :: rest := by
    rw [ancestors, List.range_succ_eq_map, List.map_cons, searchLimit, List.take_succ_cons,
      Nat.sub_zero, List.take_length]
    exact ⟨_, rfl⟩
  rw [findSettings]
  simp only [firstFault?_eq_none_iff.mpr clean]
  change workplace.firstWithSettings ((ancestors (workplace.home start)).take searchLimit) = _
  rw [first, firstWithSettings, home, looked]
  rfl

theorem finds_findSettings (workplace : Workplace) (start : Path) :
    workplace.Finds start (workplace.findSettings start) := by
  cases faulty : firstFault? (namesFrom workplace.folder start) with
  | some fault =>
      rw [findSettings_of_firstFault? faulty]
      obtain ⟨around, later, name, split, clean, isFault⟩ := firstFault?_eq_some_iff.mp faulty
      exact .unnamable around later name fault split clean isFault
  | none =>
      have clean := firstFault?_eq_none_iff.mp faulty
      by_cases blocks : ∃ cause,
          workplace.tree.Blocks (workplace.home start ++ [settingsFileName]) cause
      · obtain ⟨cause, blocks⟩ := blocks
        rw [findSettings_of_blocks clean blocks]
        exact .blocked cause clean blocks
      · have permits : workplace.Permits start := ⟨clean, not_exists.mp blocks⟩
        rw [findSettings_of_permits permits]
        cases isFirst : workplace.tree.firstHolding?
            ((ancestors (workplace.home start)).take searchLimit) with
        | none =>
            exact .nothing permits (Tree.firstHolding?_eq_none_iff.mp isFirst)
        | some found =>
            exact .nearest found permits (Tree.firstHolding?_eq_some_iff.mp isFirst)

theorem findSettings_eq_iff {outcome : Except Breakdown (Option Path)} :
    workplace.findSettings start = outcome ↔ workplace.Finds start outcome := by
  constructor
  · intro same
    rw [← same]
    exact workplace.finds_findSettings start
  · intro finds
    cases finds with
    | nearest found permits nearest =>
        rw [findSettings_of_permits permits, Tree.firstHolding?_eq_some_iff.mpr nearest]
        rfl
    | nothing permits lacking =>
        rw [findSettings_of_permits permits, Tree.firstHolding?_eq_none_iff.mpr lacking]
        rfl
    | unnamable around later name fault split clean isFault =>
        exact findSettings_of_firstFault?
          (firstFault?_eq_some_iff.mpr ⟨around, later, name, split, clean, isFault⟩)
    | blocked cause clean blocks =>
        exact findSettings_of_blocks clean blocks

end Workplace

/-! ## Settings files further up -/

namespace Tree

/-- Two trees show the same everywhere but for settings files above a folder. -/
def DiffersAbove (tree other : Tree) (found : Location) : Prop :=
  ∀ location, tree.seen? location = other.seen? location ∨
    ¬ tree.HasFolder location ∧ ¬ other.HasFolder location ∧
      ∃ above, above <+: found ∧ above ≠ found ∧ location = above ++ [settingsFileName]

variable {tree other : Tree} {home found : Location}

theorem DiffersAbove.seen?_eq_of_hasFolder (differs : tree.DiffersAbove other found)
    {location : Location} (hasFolder : other.HasFolder location) :
    tree.seen? location = other.seen? location := by
  rcases differs location with same | ⟨_, noFolder, _⟩
  · exact same
  · exact absurd hasFolder noFolder

/-- In the folder and below, the same settings files are there. -/
theorem DiffersAbove.file?_eq (differs : tree.DiffersAbove other found) {folder : Location}
    (below : found <+: folder) :
    tree.file? (folder ++ [settingsFileName]) = other.file? (folder ++ [settingsFileName]) := by
  rcases differs (folder ++ [settingsFileName]) with same | ⟨_, _, above, isFront, different, here⟩
  · apply Option.ext
    intro present
    rw [file?_eq_some_iff, file?_eq_some_iff, same]
  · have isAbove : folder = above := (List.append_inj' here rfl).1
    rw [isAbove] at below
    exact absurd (isFront.eq_of_length_le below.length_le) different

/-- Adding a settings file further up, or changing one, makes no other difference. -/
theorem differsAbove_put {above : Location} (folder : tree.seen? above = some .folder)
    (notFolder : ¬ tree.HasFolder (above ++ [settingsFileName]))
    (isFront : above <+: found) (different : above ≠ found) (present : File) :
    tree.DiffersAbove (tree.put (above ++ [settingsFileName]) (.file present)) found := by
  intro location
  have put := seen?_put (Entry.isBare_file present) folder (not_or.mp notFolder).1
  by_cases here : location = above ++ [settingsFileName]
  · rw [here]
    refine Or.inr ⟨notFolder, ?_, above, isFront, different, rfl⟩
    rw [HasFolder, put, if_pos rfl, Entry.seen]
    simp
  · rw [put, if_neg here]
    exact Or.inl rfl

theorem DiffersAbove.nearest (differs : tree.DiffersAbove other found)
    (nearest : tree.Nearest home found) : other.Nearest home found := by
  refine ⟨nearest.toSearched, ?_, ?_⟩
  · rw [HoldsSettings, ← differs.file?_eq List.prefix_rfl]
    exact nearest.holds
  · intro folder above holds
    -- Both are above the start, so one is above the other, and below the one found nothing differs.
    rcases List.prefix_or_prefix_of_prefix above nearest.above with isAbove | below
    · exact isAbove
    · rw [HoldsSettings, ← differs.file?_eq below] at holds
      exact nearest.nearest folder above holds

end Tree

namespace Workplace

variable {workplace : Workplace} {other : Tree} {found : Location} {start : Path}

theorem permits_of_differsAbove (differs : workplace.tree.DiffersAbove other found)
    (permits : workplace.Permits start) : Permits { workplace with tree := other } start := by
  refine ⟨permits.clean, ?_⟩
  intro cause blocks
  exact permits.passes cause (blocks.of_folders fun _ => differs.seen?_eq_of_hasFolder)

theorem findSettings_of_differsAbove (differs : workplace.tree.DiffersAbove other found)
    (permits : workplace.Permits start)
    (nearest : workplace.tree.Nearest (workplace.home start) found) :
    findSettings { workplace with tree := other } start = workplace.findSettings start := by
  rw [findSettings_eq_iff.mpr (.nearest found permits nearest), findSettings_eq_iff]
  exact .nearest found (permits_of_differsAbove differs permits) (differs.nearest nearest)

section

variable {left : Workplace} {path : Path}

theorem readMapping_of_fileAt?_eq (same : left.fileAt? path = workplace.fileAt? path)
    (alike : left.process = workplace.process) :
    left.readMapping path = workplace.readMapping path := by
  rw [readMapping, readMapping, same, alike]

/-- In one process, settings depend on what their file holds only. -/
theorem settingsFrom_of_fileAt?_eq (same : left.fileAt? path = workplace.fileAt? path)
    (alike : left.process = workplace.process) :
    left.settingsFrom path = workplace.settingsFrom path := by
  rw [settingsFrom, settingsFrom, readMapping_of_fileAt?_eq same alike]

theorem checkSettingsAt_of_fileAt?_eq (same : left.fileAt? path = workplace.fileAt? path)
    (alike : left.process = workplace.process) (loaded : Except LoadFault Settings) :
    left.checkSettingsAt path loaded = workplace.checkSettingsAt path loaded := by
  have checked : checkLoaded left path = checkLoaded workplace path := by
    funext settings
    rw [checkLoaded, checkLoaded, readMapping_of_fileAt?_eq same alike]
  simp only [checkSettingsAt, checked]

end

/-- Settings are taken from the nearest settings file, and from no other one.  The search fails only
where a file cannot be looked for in the folder that it starts from; the files above the nearest
one may be any. -/
theorem settings_nearest (workplace : Workplace) :
    (∀ start outcome,
      workplace.findSettings start = outcome ↔ workplace.Finds start outcome) ∧
    (∀ path, workplace.Finds {} (.ok (some path)) →
      workplace.loadSettings none = workplace.loadSettings (some path) ∧
        workplace.checkSettings none = workplace.checkSettings (some path)) ∧
    (workplace.Finds {} (.ok none) →
      workplace.loadSettings none = .ok {} ∧ workplace.checkSettings none = .ok .ofDefaults) ∧
    (∀ cause, workplace.Finds {} (.error cause) →
      workplace.loadSettings none = .error (.brokenDown cause) ∧
        workplace.checkSettings none = .error cause) ∧
    (∀ start found other, workplace.Permits start →
      workplace.tree.Nearest (workplace.home start) found →
      workplace.tree.DiffersAbove other found →
      findSettings { workplace with tree := other } start = workplace.findSettings start) ∧
    (∀ found other, workplace.Permits {} → workplace.tree.Nearest (workplace.home {}) found →
      workplace.tree.DiffersAbove other found →
      loadSettings { workplace with tree := other } none = workplace.loadSettings none ∧
        checkSettings { workplace with tree := other } none = workplace.checkSettings none) := by
  refine ⟨fun _ _ => findSettings_eq_iff, ?_, ?_, ?_, ?_, ?_⟩
  · intro path finds
    have found : workplace.settingsPath none = .ok (some path) := findSettings_eq_iff.mpr finds
    obtain ⟨loads, checks⟩ := checkSettings_of_file found
    exact ⟨loads, checks⟩
  · intro finds
    exact checkSettings_of_noFile (findSettings_eq_iff.mpr finds)
  · intro cause finds
    have failed : workplace.settingsPath none = .error cause := findSettings_eq_iff.mpr finds
    have loads : workplace.loadSettings none = .error (.brokenDown cause) := by
      rw [loadSettings, failed]
    exact ⟨loads, checkSettings_of_brokenDown loads⟩
  · intro start found other permits nearest differs
    exact findSettings_of_differsAbove differs permits nearest
  · intro found other permits nearest differs
    have path : workplace.settingsPath none = .ok (some (pathOf (found ++ [settingsFileName]))) :=
      findSettings_eq_iff.mpr (.nearest found permits nearest)
    have otherPath : settingsPath { workplace with tree := other } none =
        .ok (some (pathOf (found ++ [settingsFileName]))) :=
      (findSettings_of_differsAbove differs permits nearest).trans path
    have sameFile : fileAt? { workplace with tree := other }
        (pathOf (found ++ [settingsFileName])) =
          workplace.fileAt? (pathOf (found ++ [settingsFileName])) := by
      have otherPermits := permits_of_differsAbove differs permits
      rw [permits.fileAt?_above nearest.above, otherPermits.fileAt?_above nearest.above,
        differs.file?_eq List.prefix_rfl]
    obtain ⟨loads, checks⟩ := checkSettings_of_file path
    obtain ⟨otherLoads, otherChecks⟩ := checkSettings_of_file otherPath
    rw [loads, checks, otherLoads, otherChecks, settingsFrom_of_fileAt?_eq sameFile rfl,
      checkSettingsAt_of_fileAt?_eq sameFile rfl]
    exact ⟨rfl, rfl⟩

/-- A settings file at the top and another one in a folder, inside which a folder has their name. -/
def nestedSettings : Workplace where
  tree := ⟨[(settingsFileName, .file { content := [] }),
    ("outer", .folder [(settingsFileName, .file { content := [] }),
      ("inner", .folder [(settingsFileName, .emptyFolder)])])]⟩
  folder := ["outer", "inner"]

theorem settings_nearest_nestedSettings :
    nestedSettings.Finds {} (.ok (some (pathOf ["outer", settingsFileName]))) ∧
      nestedSettings.checkSettings none =
        nestedSettings.checkSettings (some (pathOf ["outer", settingsFileName])) ∧
      ∀ present : File,
        checkSettings { nestedSettings with
          tree := nestedSettings.tree.put ([] ++ [settingsFileName]) (.file present) } none =
            nestedSettings.checkSettings none := by
  have clean : namesFault? (namesFrom nestedSettings.folder {}) = none := by decide
  have looked : nestedSettings.fileAt? (pathOf (nestedSettings.home {} ++ [settingsFileName])) =
      .ok none := by
    decide +kernel
  have permits : nestedSettings.Permits {} := by
    refine ⟨clean, ?_⟩
    intro cause blocks
    have refused := (fileAt?_eq_error_iff
      (namesFault?_of_isFront (namesFault?_settle clean) List.prefix_rfl)).mpr blocks
    cases looked.symm.trans refused
  have nearest : nestedSettings.tree.Nearest (nestedSettings.home {}) ["outer"] :=
    Tree.nearest_of_firstHolding? (by decide +kernel)
  have finds := Finds.nearest ["outer"] permits nearest
  obtain ⟨discovers, used, _, _, _, kept⟩ := settings_nearest nestedSettings
  refine ⟨finds, (used _ finds).2, ?_⟩
  intro present
  have above : ([] : Location) <+: ["outer"] := List.nil_prefix
  have differs := Tree.differsAbove_put nestedSettings.tree.seen?_top
    (not_or.mpr ⟨by decide +kernel, by decide +kernel⟩) above
    (by decide) present
  exact (kept ["outer"] _ permits nearest differs).2

/-- A folder that may not be searched ends the search, whatever stands above it. -/
example :
    findSettings { tree := ⟨[(settingsFileName, .file { content := [] }), ("shut", .closed)]⟩,
                   folder := ["shut"] } {} =
      .error (.files .searchDenied) := by
  decide +kernel

/-! ## A folder too deep to be searched -/

/-- Folders of one name, each but the last with the next one inside. -/
def nestedFolders : Nat → Entry
  | 0 => .emptyFolder
  | depth + 1 => .folder [("a", nestedFolders depth)]

theorem find?_nestedFolders (depth : Nat) :
    Entry.find? (List.replicate depth "a") (nestedFolders depth) = some .emptyFolder := by
  induction depth with
  | zero =>
      rfl
  | succ depth inductionHypothesis =>
      exact inductionHypothesis

theorem find?_nestedFolders_ne_file (depth : Nat) (location : Location) (present : File) :
    Entry.find? location (nestedFolders depth) ≠ some (.file present) := by
  induction depth generalizing location with
  | zero =>
      cases location with
      | nil => simp [Entry.find?, nestedFolders, Entry.emptyFolder]
      | cons name rest => simp [Entry.find?, nestedFolders, Entry.emptyFolder]
  | succ depth inductionHypothesis =>
      cases location with
      | nil => simp [Entry.find?, nestedFolders]
      | cons name rest =>
          rw [nestedFolders, Entry.find?, List.lookup_cons]
          cases name == "a" with
          | true => exact inductionHypothesis rest
          | false => simp

theorem bytesFrom_replicate (depth : Nat) (rest : List Char) :
    Text.bytesFrom false
        ((List.replicate depth "a").flatMap (fun name => '/' :: name.toList) ++ rest) =
      2 * depth + Text.bytesFrom false rest := by
  induction depth with
  | zero =>
      simp
  | succ depth inductionHypothesis =>
      have slash : '/' ≠ Text.mark := by decide
      have plain : 'a' ≠ Text.mark := by decide
      have slashSize : (Char.ofNat '/'.toNat).utf8Size = 1 := by decide
      have plainSize : (Char.ofNat 'a'.toNat).utf8Size = 1 := by decide
      have letters : (List.replicate (depth + 1) "a").flatMap (fun name => '/' :: name.toList) =
          '/' :: 'a' :: (List.replicate depth "a").flatMap fun name => '/' :: name.toList := by
        simp [List.replicate_succ]
      rw [letters, List.cons_append, List.cons_append, Text.bytesFrom, if_neg slash,
        Text.bytesFrom, if_neg plain, slashSize, plainSize, inductionHypothesis]
      omega

/-- Two thousand five hundred folders, one inside the other, without a file. -/
def deepFolders : Workplace where
  tree := ⟨[("a", nestedFolders 2499)]⟩
  folder := []

/-- The folder where the search starts is there and no settings file is anywhere, but the first look
is refused. -/
theorem findSettings_deepFolders :
    deepFolders.tree.seen? (List.replicate 2500 "a") = some .folder ∧
      (∀ folder, ¬ deepFolders.tree.HoldsSettings folder) ∧
      deepFolders.findSettings ⟨.here, List.replicate 2500 "a"⟩ =
        .error (.files .nameTooLong) := by
  have top : deepFolders.tree.top = nestedFolders 2500 := rfl
  have noDots : ".." ∉ List.replicate 2500 "a" := by
    rw [List.mem_replicate]
    decide
  have start : deepFolders.home ⟨.here, List.replicate 2500 "a"⟩ = List.replicate 2500 "a" :=
    collapse_of_not_mem noDots
  refine ⟨?_, ?_, ?_⟩
  · rw [Tree.seen?, Tree.find?, top, find?_nestedFolders]
    rfl
  · intro folder holds
    obtain ⟨present, isFile⟩ := Option.isSome_iff_exists.mp holds
    obtain ⟨entry, found, isSeen⟩ :=
      Option.map_eq_some_iff.mp (Tree.file?_eq_some_iff.mp isFile)
    rw [Tree.find?, top] at found
    cases entry with
    | file other =>
        exact find?_nestedFolders_ne_file 2500 _ other found
    | folder entries =>
        cases isSeen
    | closed =>
        cases isSeen
  · apply findSettings_of_blocks
    · apply namesFault?_of_forall
      intro name member
      rw [List.eq_of_mem_replicate member]
      decide
    · have deeper : List.replicate 2500 "a" ++ [settingsFileName] ≠ [] :=
        List.append_ne_nil_of_right_ne_nil _ (List.cons_ne_nil _ _)
      refine .whole ?_
      rw [start, Path.isTooLong, decide_eq_true_eq, Text.byteCount_eq_bytesFrom,
        toList_text_pathOf deeper, List.flatMap_append, bytesFrom_replicate]
      decide +kernel

end Workplace

end ErrorDerive
