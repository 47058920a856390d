import ErrorDerive.Proofs.Clobbering

/-!
# What writing an output comes to

Writing an output leaves every file as it is, or puts the bytes of the output where its path leads
and leaves every other file as it is.
-/

namespace ErrorDerive

/-- Every file is as it was, and no other is there. -/
def Tree.SameFiles (tree left : Tree) : Prop :=
  ∀ location, left.file? location = tree.file? location

theorem Tree.Grows.sameFiles {tree grown : Tree} (grows : tree.Grows grown) :
    tree.SameFiles grown := by
  intro location
  apply Option.ext
  intro present
  rw [Tree.file?_eq_some_iff, Tree.file?_eq_some_iff]
  exact grows.file_iff

namespace OutputFile

/-- Where the path of an output leads. -/
def location (file : OutputFile) (folder : Location) : Location :=
  collapse (file.target folder).parts

/-- The path of an output leads to a file with the given bytes, and no other file is changed. -/
structure Holds (file : OutputFile) (workplace : Workplace) (left : Tree) (content : List UInt8) :
    Prop where
  found : ∃ present : File, present.content = content ∧
    left.file? (file.location workplace.folder) = some present ∧
    Workplace.fileAt? { workplace with tree := left } (file.target workplace.folder) =
      .ok (some present)
  others : ∀ other, other ≠ file.location workplace.folder →
    left.file? other = workplace.tree.file? other

/-- The path can be asked for once nothing is in the way. -/
theorem isTooLong_of_obstacle?
    {file : OutputFile} {workplace : Workplace} (passes : file.obstacle? workplace = .ok none)
    (clean : namesFault? (file.target workplace.folder).parts = none) :
    (file.target workplace.folder).isTooLong = false := by
  by_contra long
  have refused : workplace.status (file.target workplace.folder) = refuse .nameTooLong := by
    rw [status_target, if_neg (by simp [clean]), if_pos (by simpa using long)]
  unfold obstacle? at passes
  rw [refused] at passes
  by_cases incomplete : (file.path = "" || file.content = "") = true
  · rw [if_pos incomplete] at passes
    cases passes
  · rw [if_neg incomplete] at passes
    cases passes

theorem obstacle?_ne_none_of_obstacle?
    {file : OutputFile} {workplace : Workplace} {report : WriteReport}
    (found : file.obstacle? workplace = .ok (some report)) : report.obstacle? ≠ none := by
  unfold obstacle? at found
  by_cases incomplete : (file.path = "" || file.content = "") = true
  · rw [if_pos incomplete] at found
    cases found
    simp [WriteReport.obstacle?]
  · rw [if_neg incomplete] at found
    cases standing : workplace.status (file.target workplace.folder) with
    | error cause =>
        rw [standing] at found
        cases found
    | ok seen =>
        rw [standing] at found
        cases seen with
        | none =>
            cases found
        | some entry =>
            cases overwrite : file.overwrite with
            | true =>
                rw [overwrite] at found
                cases found
            | false =>
                rw [overwrite] at found
                cases found
                simp [WriteReport.obstacle?]

theorem holds_of_writeFile
    {file : OutputFile} {workplace : Workplace} (passes : file.obstacle? workplace = .ok none)
    {around : List String} {name : String}
    (parts : (file.target workplace.folder).parts = around ++ [name]) {made written : Tree}
    (grows : workplace.tree.Grows made) {content : List UInt8}
    (success : made.writeFile (around ++ [name]) content = .ok written) :
    file.Holds workplace written content := by
  obtain ⟨⟨affords, notFolder⟩, _⟩ :=
    (made.judges_writeFile around name content).eq_ok_iff.mp success
  have clean : namesFault? (file.target workplace.folder).parts = none := by
    rw [parts]
    exact affords.clean
  have located : file.location workplace.folder = collapse (around ++ [name]) := by
    rw [location, parts]
  have seen := Tree.seen?_of_writeFile success
  have isFile := seen (collapse (around ++ [name]))
  rw [if_pos rfl] at isFile
  have present : written.file? (file.location workplace.folder) =
      some (made.refilled (collapse (around ++ [name])) content) := by
    rw [located, Tree.file?_eq_some_iff]
    exact isFile
  -- Folders on the way stay folders, since a file is not put in the place of one.
  have keepsFolders : ∀ sought, made.seen? sought = some .folder →
      written.seen? sought = some .folder := by
    intro sought folder
    rw [seen, if_neg, folder]
    intro same
    rw [same] at folder
    exact notFolder (Or.inl folder)
  have reaches : written.Reaches (around ++ [name]) := by
    apply (written.reaches_append_singleton around name).mpr
    refine ⟨⟨affords.passes.short, ?_, ?_⟩, keepsFolders _ affords.passes.folder, affords.short,
      by simp [isFile]⟩
    · intro front isFront different
      exact keepsFolders _ (affords.passes.folders front isFront different)
    · rw [keepsFolders _ affords.passes.folder]
      simp
  constructor
  · refine ⟨_, ?_, present, ?_⟩
    · unfold Tree.refilled
      split <;> rfl
    · have stands := reaches.seen?_eq
      rw [isFile] at stands
      cases standing : written.standing (written.wayAlong (around ++ [name])) with
      | folder entries =>
          rw [standing] at stands
          cases stands
      | closed =>
          rw [standing] at stands
          cases stands
      | file found =>
          rw [standing] at stands
          have status := (written.status_eq_some_iff (around ++ [name]) _).mpr
            ⟨affords.clean, reaches, standing.symm⟩
          have followed := isTooLong_of_obstacle? passes clean
          have whole : Workplace.status { workplace with tree := written }
              (file.target workplace.folder) = .ok (some (.file found)) := by
            have general := status_target { workplace with tree := written } file
            rw [general, if_neg (by simp [clean]), if_neg (by simp [followed]), parts, status]
          have same := Seen.file.inj (Option.some.inj stands)
          rw [Workplace.fileAt?, whole, same]
          rfl
  · intro other different
    rw [located] at different
    apply Option.ext
    intro present
    rw [Tree.file?_eq_some_iff, Tree.file?_eq_some_iff, seen, if_neg different]
    exact grows.file_iff

/-- Putting a file either changes no file and breaks down, or leaves the bytes where the path leads
and breaks down only over a text that cannot be encoded. -/
theorem place_cases
    {file : OutputFile} {workplace : Workplace} (passes : file.obstacle? workplace = .ok none) :
    (workplace.tree.SameFiles (file.place workplace).1 ∧
      ∃ cause, (file.place workplace).2 = .error cause) ∨
    (file.Holds workplace (file.place workplace).1 file.bytes ∧
      (file.place workplace).2 =
        if (Text.encode? file.content).isSome then .ok () else .error .unencodableText) := by
  rcases List.eq_nil_or_concat (file.target workplace.folder).parts with
    top | ⟨around, name, split⟩
  · -- The top is a folder, so it cannot be written.
    have refused : ∀ content, workplace.tree.writeFile [] content = refuse .isAFolder := by
      intro content
      rfl
    have made : workplace.tree.makeFolders [] = (workplace.tree, .ok ()) := rfl
    left
    simp only [place, top, List.dropLast_nil, made, refused]
    exact ⟨(Tree.Grows.refl _).sameFiles, _, rfl⟩
  · rw [List.concat_eq_append] at split
    have makes := workplace.tree.makes_makeFolders around
    simp only [place, split, List.dropLast_concat]
    rcases folders : workplace.tree.makeFolders around with ⟨made, cause | _⟩
    · rw [folders] at makes
      exact Or.inl ⟨makes.grows.sameFiles, cause, rfl⟩
    · rw [folders] at makes
      change _ ∨ (file.Holds workplace _ ((Text.encode? file.content).getD []) ∧ _)
      cases success : made.writeFile (around ++ [name]) ((Text.encode? file.content).getD []) with
      | error cause =>
          simp only [success]
          exact Or.inl ⟨makes.grows.sameFiles, cause, rfl⟩
      | ok written =>
          simp only [success]
          exact Or.inr ⟨holds_of_writeFile passes split makes.grows success, trivial⟩

/-- Writing an output either changes no file and gives no report on a written one, or leaves the
bytes of the output where its path leads and breaks down only over a text that cannot be encoded. -/
theorem write_cases (file : OutputFile) (workplace : Workplace) :
    (workplace.tree.SameFiles (file.write workplace).1 ∧
      ∀ report, (file.write workplace).2 = .ok report → report.obstacle? ≠ none) ∨
    (file.Holds workplace (file.write workplace).1 file.bytes ∧
      ((∃ report, (Text.encode? file.content).isSome ∧
          (file.write workplace).2 = .ok report ∧ report.obstacle? = none) ∨
        (Text.encode? file.content = none ∧
          (file.write workplace).2 = .error .unencodableText))) := by
  have unchanged : workplace.tree.SameFiles workplace.tree := (Tree.Grows.refl _).sameFiles
  have unreported : ∀ cause : Breakdown, ∀ report : WriteReport,
      Except.error cause = .ok report → report.obstacle? ≠ none := by
    intro cause report same
    cases same
  rw [write]
  split
  · exact Or.inl ⟨unchanged, unreported _⟩
  · next report found =>
      refine Or.inl ⟨unchanged, ?_⟩
      intro given same
      cases same
      exact obstacle?_ne_none_of_obstacle? found
  · next passes =>
      split
      · exact Or.inl ⟨unchanged, unreported _⟩
      · next previous? _ =>
          have placed := place_cases passes
          generalize file.place workplace = placement at placed ⊢
          rcases placement with ⟨left, cause | ⟨⟩⟩
          · dsimp only at placed ⊢
            rcases placed with ⟨same, _⟩ | ⟨holds, outcome⟩
            · exact Or.inl ⟨same, unreported cause⟩
            · right
              refine ⟨holds, Or.inr ?_⟩
              cases encoded : Text.encode? file.content with
              | none =>
                  rw [encoded] at outcome
                  exact ⟨rfl, congrArg Except.error (Except.error.inj outcome)⟩
              | some bytes =>
                  rw [encoded] at outcome
                  cases outcome
          · dsimp only at placed ⊢
            rcases placed with ⟨_, cause, outcome⟩ | ⟨holds, outcome⟩
            · cases outcome
            · have encoded : (Text.encode? file.content).isSome := by
                by_contra unencoded
                rw [if_neg unencoded] at outcome
                cases outcome
              exact Or.inr ⟨holds, Or.inl ⟨_, encoded, rfl, rfl⟩⟩

end OutputFile

end ErrorDerive
