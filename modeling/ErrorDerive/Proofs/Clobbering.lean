import ErrorDerive.Proofs.Files.FileWriting
import ErrorDerive.Writing

/-!
# Files that are lost without request

Without the request to replace files, a report on an obstacle leaves the tree as it is.  The check
for a file that is there comes before missing folders are made, so a path that leaves a missing
folder again by two dots can lead past the check to a file.

* `OutputFile.Overruns` is the exact condition under which this happens;
* `OutputFile.write_without_request` says that all other files stay as they are.
-/

namespace ErrorDerive

/-- Names behind which a file is only found once the missing folders among them are made. -/
structure Tree.Detours (tree : Tree) (around : List String) (name : String) : Prop where
  clean : namesFault? (around ++ [name]) = none
  short : ∀ part ∈ around ++ [name], isLongName part = false
  isOpen : tree.IsOpen around
  missing : ∃ front, front <+: around ∧ tree.seen? (collapse front) = none
  down : name ≠ ".."

namespace OutputFile

/-- The bytes that a file is written with.  None are if its text cannot be encoded. -/
def bytes (file : OutputFile) : List UInt8 :=
  (Text.encode? file.content).getD []

/-- Writing the file replaces what stands at a location, unnoticed by the check before. -/
structure Overruns (file : OutputFile) (workplace : Workplace) (location : Location) : Prop where
  complete : file.path ≠ "" ∧ file.content ≠ ""
  followed : (file.target workplace.folder).isTooLong = false
  detours : ∃ around name, (file.target workplace.folder).parts = around ++ [name] ∧
    workplace.tree.Detours around name ∧ collapse (around ++ [name]) = location

/-! ## The check before writing -/

theorem isAbsolute_target (file : OutputFile) (folder : Location) :
    (file.target folder).isAbsolute = true := by
  rw [target, Path.join]
  split
  · assumption
  · rfl

theorem status_target (workplace : Workplace) (file : OutputFile) :
    workplace.status (file.target workplace.folder) =
      if (namesFault? (file.target workplace.folder).parts).isSome then .ok none
      else if (file.target workplace.folder).isTooLong then refuse .nameTooLong
      else workplace.tree.status (file.target workplace.folder).parts := by
  rw [Workplace.status, namesFrom, if_pos (file.isAbsolute_target workplace.folder)]

/-- Nothing is in the way of a file that is complete and not found. -/
def IsFree (file : OutputFile) (workplace : Workplace) : Prop :=
  (file.path ≠ "" ∧ file.content ≠ "") ∧
    workplace.status (file.target workplace.folder) = .ok none

theorem obstacle?_of_isFree
    {file : OutputFile} {workplace : Workplace} (free : file.IsFree workplace) :
    file.obstacle? workplace = .ok none := by
  obtain ⟨⟨path, content⟩, nothing⟩ := free
  simp only [obstacle?, path, content, nothing]
  rfl

theorem isFree_of_obstacle?
    {file : OutputFile} (keeps : file.overwrite = false) {workplace : Workplace}
    (passes : file.obstacle? workplace = .ok none) : file.IsFree workplace := by
  by_cases incomplete : file.path = "" ∨ file.content = ""
  · have blocked : file.obstacle? workplace = .ok (some (.incomplete file.path)) := by
      simp only [obstacle?, Bool.or_eq_true, decide_eq_true_eq, if_pos incomplete]
      rfl
    rw [blocked] at passes
    cases passes
  · refine ⟨not_or.mp incomplete, ?_⟩
    simp only [obstacle?, Bool.or_eq_true, decide_eq_true_eq, if_neg incomplete, keeps] at passes
    cases found : workplace.status (file.target workplace.folder) with
    | error cause =>
        rw [found] at passes
        cases passes
    | ok seen =>
        rw [found] at passes
        cases seen with
        | none =>
            rfl
        | some entry =>
            cases passes

theorem write_of_isFree
    {file : OutputFile} {workplace : Workplace} (free : file.IsFree workplace) :
    (file.write workplace).1 = (file.place workplace).1 := by
  have previous : file.previousText? workplace = .ok (some "") := by
    simp only [previousText?, free.2]
    rfl
  rw [write, obstacle?_of_isFree free, previous]
  rcases file.place workplace with ⟨tree, _ | _⟩
  · rfl
  · rfl

theorem write_of_not_isFree
    {file : OutputFile} (keeps : file.overwrite = false) {workplace : Workplace}
    (blocked : ¬ file.IsFree workplace) : (file.write workplace).1 = workplace.tree := by
  rw [write]
  split
  · rfl
  · rfl
  · next passes =>
      exact absurd (isFree_of_obstacle? keeps passes) blocked

/-! ## Where the file goes -/

/-- Where nothing was found, the path has a last name. -/
theorem IsFree.exists_parts
    {file : OutputFile} {workplace : Workplace} (free : file.IsFree workplace) :
    ∃ around name, (file.target workplace.folder).parts = around ++ [name] := by
  rcases List.eq_nil_or_concat (file.target workplace.folder).parts with
    top | ⟨around, name, split⟩
  · exfalso
    have nothing := free.2
    have found := (workplace.tree.status_eq_some_iff [] _).mpr
      ⟨rfl, workplace.tree.reaches_nil, rfl⟩
    rw [status_target, top, found] at nothing
    split at nothing
    · next faulty =>
        cases faulty
    · split at nothing
      · cases nothing
      · cases nothing
  · exact ⟨around, name, by rw [split, List.concat_eq_append]⟩

/-- Where nothing was found, the names lead nowhere or cannot be names. -/
theorem IsFree.not_reaches
    {file : OutputFile} {workplace : Workplace} (free : file.IsFree workplace)
    (clean : namesFault? (file.target workplace.folder).parts = none) :
    (file.target workplace.folder).isTooLong = false ∧
      ¬ workplace.tree.Reaches (file.target workplace.folder).parts := by
  have nothing := free.2
  rw [status_target, if_neg (by simp [clean])] at nothing
  split at nothing
  · cases nothing
  · next short =>
      refine ⟨eq_false_of_ne_true short, ?_⟩
      intro reaches
      rw [(workplace.tree.status_eq_some_iff _ _).mpr ⟨clean, reaches, rfl⟩] at nothing
      cases nothing

/-- The tree after a file is put behind names. -/
theorem place_eq
    {file : OutputFile} {workplace : Workplace} {around : List String} {name : String}
    (parts : (file.target workplace.folder).parts = around ++ [name]) :
    (file.place workplace).1 =
      match workplace.tree.makeFolders around with
      | (made, .error _) => made
      | (made, .ok ()) =>
        match made.writeFile (around ++ [name]) file.bytes with
        | .error _ => made
        | .ok written => written := by
  rw [place, parts, List.dropLast_concat]
  rcases workplace.tree.makeFolders around with ⟨made, cause | _⟩
  · rfl
  · simp only [bytes]
    cases made.writeFile (around ++ [name]) ((Text.encode? file.content).getD []) with
    | error cause =>
        rfl
    | ok written =>
        rfl

/-! ## Detours -/

theorem Overruns.isFree
    {file : OutputFile} {workplace : Workplace} {location : Location}
    (overruns : file.Overruns workplace location) : file.IsFree workplace := by
  obtain ⟨around, name, parts, detours, _⟩ := overruns.detours
  refine ⟨overruns.complete, ?_⟩
  rw [status_target, parts, if_neg (by simp [detours.clean]), if_neg (by simp [overruns.followed])]
  apply Tree.status_of_notFound
  rcases (workplace.tree.judges_follow (around ++ [name])).decides with reaches | ⟨answer, flaw⟩
  · exfalso
    obtain ⟨front, isFront, nothing⟩ := detours.missing
    have folder := reaches.folders front (isFront.trans (List.prefix_append around [name]))
      (ne_concat_of_isFront isFront name)
    rw [nothing] at folder
    cases folder
  · have missing := flaw.eq_notFound (by
      intro front isFront different
      exact detours.isOpen front ((List.prefix_concat_iff.mp isFront).resolve_left different))
      detours.short
    exact missing ▸ flaw

/-- Only a path with two dots leads past the check. -/
theorem Overruns.dots_mem
    {file : OutputFile} {workplace : Workplace} {location : Location}
    (overruns : file.Overruns workplace location) {present : File}
    (stands : workplace.tree.seen? location = some (.file present)) :
    ".." ∈ (file.target workplace.folder).parts := by
  obtain ⟨around, name, parts, detours, rfl⟩ := overruns.detours
  obtain ⟨front, ⟨rest, split⟩, nothing⟩ := detours.missing
  -- Without two dots nothing is collapsed, and the file would lie inside a missing folder.
  by_contra noDots
  rw [parts] at noDots
  have noFrontDots : ".." ∉ front := by
    intro member
    apply noDots
    rw [← split]
    simp [member]
  rw [collapse_of_not_mem noDots, ← split, List.append_assoc] at stands
  rw [collapse_of_not_mem noFrontDots] at nothing
  have inside : workplace.tree.seen? (front ++ (rest ++ [name])) ≠ none := by simp [stands]
  have folder := Tree.seen?_eq_folder_of_append inside (by simp)
  rw [folder] at nothing
  cases nothing

/-- Folders on a detour are made, and the file behind it is replaced. -/
theorem Overruns.seen?_place
    {file : OutputFile} {workplace : Workplace} {location : Location}
    (overruns : file.Overruns workplace location) {present : File}
    (isFile : workplace.tree.seen? location = some (.file present)) :
    (file.place workplace).1.seen? location =
      some (.file { present with content := file.bytes }) := by
  obtain ⟨around, name, parts, detours, rfl⟩ := overruns.detours
  have makes := workplace.tree.makes_makeFolders around
  obtain ⟨completes, passes⟩ := makes.completes (Tree.namesFault?_of_append detours.clean)
    (fun part member => detours.short part (List.mem_append_left [name] member)) detours.isOpen
  rw [place_eq parts]
  rcases made? : workplace.tree.makeFolders around with ⟨made, outcome⟩
  rw [made?] at makes completes passes
  obtain rfl : outcome = .ok () := completes
  have affords : made.Affords around name := ⟨detours.clean, passes, detours.short name (by simp)⟩
  have stays : made.seen? (collapse (around ++ [name])) = some (.file present) :=
    makes.grows.file_iff.mpr isFile
  have success := (made.judges_writeFile around name file.bytes).succeeds
    ⟨affords, by simp [Tree.HasFolder, stays]⟩
  have refilled : made.refilled (collapse (around ++ [name])) file.bytes =
      { present with content := file.bytes } := by
    rw [Tree.refilled, Tree.file?_eq_some_iff.mpr stays]
  simp only [success]
  rw [Tree.seen?_of_writeFile success, if_pos rfl, refilled]

/-- A file that is replaced although nothing was found lies behind a detour. -/
theorem IsFree.overruns
    {file : OutputFile} {workplace : Workplace} (free : file.IsFree workplace)
    {around : List String} {name : String}
    (parts : (file.target workplace.folder).parts = around ++ [name])
    {made written : Tree} (folders : workplace.tree.makeFolders around = (made, .ok ()))
    (success : made.writeFile (around ++ [name]) file.bytes = .ok written) {present : File}
    (isFile : workplace.tree.seen? (collapse (around ++ [name])) = some (.file present)) :
    file.Overruns workplace (collapse (around ++ [name])) := by
  have makes := workplace.tree.makes_makeFolders around
  rw [folders] at makes
  obtain ⟨⟨affords, notFolder⟩, _⟩ :=
    (made.judges_writeFile around name file.bytes).eq_ok_iff.mp success
  have clean : namesFault? (file.target workplace.folder).parts = none := by
    rw [parts]
    exact affords.clean
  obtain ⟨followed, missed⟩ := free.not_reaches clean
  have short : ∀ part ∈ around ++ [name], isLongName part = false := by
    intro part member
    rcases List.mem_append.mp member with earlier | last
    · exact affords.passes.short part earlier
    · rw [List.mem_singleton.mp last]
      exact affords.short
  have isOpen : workplace.tree.IsOpen around :=
    (makes.grows.isOpen_iff around).mp affords.passes.isOpen
  have missing : ∃ front, front <+: around ∧ workplace.tree.seen? (collapse front) = none := by
    -- With every folder in place the names would lead to the file before anything is made.
    by_contra none
    apply missed
    rw [parts]
    refine ⟨short, ?_, by simp [isFile]⟩
    intro front isFront different
    have isEarlier := (List.prefix_concat_iff.mp isFront).resolve_left different
    cases seen : workplace.tree.seen? (collapse front) with
    | none =>
        exact absurd ⟨front, isEarlier, seen⟩ none
    | some found =>
        rw [isOpen front isEarlier found seen]
  have down : name ≠ ".." := by
    intro up
    rw [up] at notFolder
    exact notFolder (Or.inl affords.passes.seen?_up)
  exact ⟨free.1, followed, around, name, parts, ⟨affords.clean, short, isOpen, missing, down⟩, rfl⟩

theorem IsFree.seen?_place
    {file : OutputFile} {workplace : Workplace} (free : file.IsFree workplace)
    {location : Location} (spares : ¬ file.Overruns workplace location) {present : File}
    (isFile : workplace.tree.seen? location = some (.file present)) :
    (file.place workplace).1.seen? location = some (.file present) := by
  obtain ⟨around, name, parts⟩ := free.exists_parts
  have makes := workplace.tree.makes_makeFolders around
  rw [place_eq parts]
  rcases folders : workplace.tree.makeFolders around with ⟨made, cause | _⟩
  · rw [folders] at makes
    exact makes.grows.file_iff.mpr isFile
  · rw [folders] at makes
    have stays : made.seen? location = some (.file present) := makes.grows.file_iff.mpr isFile
    cases success : made.writeFile (around ++ [name]) file.bytes with
    | error cause =>
        simp only [success]
        exact stays
    | ok written =>
        simp only [success]
        rw [Tree.seen?_of_writeFile success]
        by_cases same : location = collapse (around ++ [name])
        · rw [same] at isFile spares
          exact absurd (free.overruns parts folders success isFile) spares
        · rw [if_neg same]
          exact stays

/-! ## Writing without request -/

theorem tree_of_obstacle
    {file : OutputFile} {workplace : Workplace} {report : WriteReport}
    (reported : (file.write workplace).2 = .ok report) (obstacle : report.obstacle? ≠ none) :
    (file.write workplace).1 = workplace.tree := by
  rw [write] at reported ⊢
  split
  · rfl
  · rfl
  · next passes =>
      rw [passes] at reported
      split
      · rfl
      · next previous? read =>
          rw [read] at reported
          rcases placed : file.place workplace with ⟨tree, cause | _⟩
          · rw [placed] at reported
            cases reported
          · rw [placed] at reported
            injection reported with isReport
            rw [← isReport] at obstacle
            exact absurd rfl obstacle

/-- Without the request to replace files, a report on an obstacle means that nothing has changed,
and a file is lost exactly if the output overruns it, which takes a path with two dots. -/
theorem write_without_request
    (file : OutputFile) (keeps : file.overwrite = false) (workplace : Workplace) :
    (∀ report, (file.write workplace).2 = .ok report → report.obstacle? ≠ none →
      (file.write workplace).1 = workplace.tree) ∧
    ∀ location present, workplace.tree.file? location = some present →
      (file.Overruns workplace location → ".." ∈ (file.target workplace.folder).parts ∧
        (file.write workplace).1.file? location = some { present with content := file.bytes }) ∧
      (¬ file.Overruns workplace location →
        (file.write workplace).1.file? location = some present) := by
  refine ⟨fun report => tree_of_obstacle, ?_⟩
  intro location present stands
  rw [Tree.file?_eq_some_iff] at stands
  constructor
  · intro overruns
    refine ⟨overruns.dots_mem stands, ?_⟩
    rw [write_of_isFree overruns.isFree, Tree.file?_eq_some_iff]
    exact overruns.seen?_place stands
  · intro spares
    rw [Tree.file?_eq_some_iff]
    by_cases free : file.IsFree workplace
    · rw [write_of_isFree free]
      exact free.seen?_place spares stands
    · rw [write_of_not_isFree keeps free]
      exact stands

/-! ## A detour -/

/-- A folder with two files. -/
def twoFiles : Workplace where
  tree := ⟨[("keep.txt", .file { content := [0x6F, 0x6C, 0x64] }),
    ("other.txt", .file { content := [0x6F] })]⟩
  folder := []

/-- An output that leads to one of them past a missing folder. -/
def detour : OutputFile where
  path := "new/../keep.txt"
  content := "x\n"

/-- The file is replaced although that was not requested, and the report calls it written. -/
theorem detour_replaces_file :
    detour.overwrite = false ∧
      twoFiles.tree.file? ["keep.txt"] = some { content := [0x6F, 0x6C, 0x64] } ∧
      (detour.write twoFiles).1.file? ["keep.txt"] = some { content := [0x78, 0x0A] } ∧
      (detour.write twoFiles).2 = .ok (.written "new/../keep.txt" true none) := by
  decide

theorem detour_overruns : detour.Overruns twoFiles ["keep.txt"] where
  complete := by decide
  followed := by decide
  detours := by
    refine ⟨["new", ".."], "keep.txt", by decide, ⟨by decide, by decide, ?_, ?_, by decide⟩,
      by decide⟩
    · intro front isFront seen isSeen
      have top : twoFiles.tree.seen? (collapse []) = some .folder := by decide
      have made : twoFiles.tree.seen? (collapse ["new"]) = none := by decide
      have back : twoFiles.tree.seen? (collapse ["new", ".."]) = some .folder := by decide
      simp only [List.prefix_cons_iff, List.prefix_nil] at isFront
      rcases isFront with rfl | ⟨_, rfl, rfl | ⟨_, rfl, rfl⟩⟩
      · exact (Option.some.inj (top.symm.trans isSeen)).symm
      · rw [made] at isSeen
        cases isSeen
      · exact (Option.some.inj (back.symm.trans isSeen)).symm
    · exact ⟨["new"], by decide, by decide⟩

theorem spared_other : ¬ detour.Overruns twoFiles ["other.txt"] := by
  intro overruns
  obtain ⟨around, name, parts, _, located⟩ := overruns.detours
  rw [← parts] at located
  exact absurd located (by decide)

/-- The detour replaces the one file and spares the other. -/
theorem write_without_request_on_detour :
    detour.overwrite = false ∧
      (detour.write twoFiles).1.file? ["keep.txt"] = some { content := detour.bytes } ∧
      (detour.write twoFiles).1.file? ["other.txt"] = some { content := [0x6F] } := by
  have kept : twoFiles.tree.file? ["keep.txt"] = some { content := [0x6F, 0x6C, 0x64] } := by decide
  have other : twoFiles.tree.file? ["other.txt"] = some { content := [0x6F] } := by decide
  have spec := (write_without_request detour rfl twoFiles).2
  exact ⟨rfl, ((spec _ _ kept).1 detour_overruns).2, (spec _ _ other).2 spared_other⟩

end OutputFile

end ErrorDerive
