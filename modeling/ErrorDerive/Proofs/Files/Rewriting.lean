import ErrorDerive.Proofs.Files.OutputWriting
import ErrorDerive.Proofs.Text.Decoding

/-!
# Files that are written again

Whether a written file counts as changed is decided by comparing its text with the characters of the
file that was there, line breaks written in one way.  The bytes that are no characters do not take
part.

* `OutputFile.exists_found_of_written` says what a report on a written file tells;
* `OutputFile.changed_of_written` compares this with the bytes of the file, and says what happens
  when the same file is written again.
-/

namespace ErrorDerive

namespace File

/-- The text that a file is compared by. -/
def comparedText (present : File) : String :=
  Text.unifyBreaks (Text.decodeDropping present.content)

/-- The bytes are those of a text without carriage returns. -/
def IsPlain (present : File) : Prop :=
  ∃ text, Text.decode? present.content = some text ∧ '\r' ∉ text.toList

theorem comparedText_of_content {present : File} {letters : List Char}
    (bytes : present.content = letters.flatMap String.utf8EncodeChar) :
    present.comparedText = Text.ofLetters (Text.unifyBreaksWord letters) := by
  rw [comparedText, bytes, Text.decodeDropping_flatMap_utf8EncodeChar, Text.unifyBreaks_ofLetters]

section Compared

variable {present : File} {letters : List Char}

/-- A file with the bytes of a text compares equal to it unless the text has a carriage return. -/
theorem comparedText_eq_iff_of_content
    (bytes : present.content = letters.flatMap String.utf8EncodeChar) :
    present.comparedText = Text.ofLetters letters ↔ '\r' ∉ letters := by
  rw [comparedText_of_content bytes, Text.ofLetters_injective.eq_iff,
    Text.unifyBreaksWord_eq_self_iff]

/-- A file that compares equal to a text has its bytes only if these are a text without carriage
returns. -/
theorem content_eq_iff_of_comparedText
    (same : present.comparedText = Text.ofLetters letters) :
    present.content = letters.flatMap String.utf8EncodeChar ↔ present.IsPlain := by
  constructor
  · intro bytes
    have noReturn := (comparedText_eq_iff_of_content bytes).mp same
    refine ⟨Text.ofLetters letters, ?_, ?_⟩
    · rw [bytes, Text.decode?_flatMap_utf8EncodeChar]
    · rwa [Text.carriageReturn_mem_ofLetters_iff]
  · intro plain
    obtain ⟨text, decoded, noReturn⟩ := plain
    obtain ⟨own, rfl, bytes⟩ := Text.eq_flatMap_of_decode? decoded
    rw [Text.carriageReturn_mem_ofLetters_iff] at noReturn
    rw [(comparedText_eq_iff_of_content bytes).mpr noReturn] at same
    rw [bytes, Text.ofLetters_injective same]

/-- Comparing texts and comparing bytes come apart in two cases: the bytes are the same but have a
carriage return, or the bytes differ from those of the text that they compare equal to. -/
theorem comparisons_differ_iff :
    ¬ (present.comparedText = Text.ofLetters letters ↔
        present.content = letters.flatMap String.utf8EncodeChar) ↔
      present.content = letters.flatMap String.utf8EncodeChar ∧ '\r' ∈ letters ∨
        present.comparedText = Text.ofLetters letters ∧ ¬ present.IsPlain := by
  by_cases same : present.comparedText = Text.ofLetters letters
  · have ofText := content_eq_iff_of_comparedText same
    by_cases sameBytes : present.content = letters.flatMap String.utf8EncodeChar
    · have plain := ofText.mp sameBytes
      have noReturn := (comparedText_eq_iff_of_content sameBytes).mp same
      simp [same, sameBytes, plain, noReturn]
    · have notPlain := mt ofText.mpr sameBytes
      simp [same, sameBytes, notPlain]
  · by_cases sameBytes : present.content = letters.flatMap String.utf8EncodeChar
    · have returns := not_not.mp (mt (comparedText_eq_iff_of_content sameBytes).mpr same)
      simp [same, sameBytes, returns]
    · simp [same, sameBytes]

end Compared

end File

namespace OutputFile

/-- What stands where the path of an output leads. -/
def found (file : OutputFile) (workplace : Workplace) : Except Breakdown (Option File) :=
  workplace.fileAt? (file.target workplace.folder)

/-- The text that an output is compared with: none where no file can be read. -/
def comparedWith : Option File → String
  | some present => if present.refusal.isSome then "" else present.comparedText
  | none => ""

theorem previousText?_of_found {file : OutputFile} {workplace : Workplace} {found? : Option File}
    (isFound : file.found workplace = .ok found?) :
    ∃ previous?, file.previousText? workplace = .ok previous? ∧
      previous?.getD "" = comparedWith found? := by
  unfold found Workplace.fileAt? at isFound
  unfold previousText?
  cases standing : workplace.status (file.target workplace.folder) with
  | error cause =>
      rw [standing] at isFound
      cases isFound
  | ok entry? =>
      rw [standing] at isFound
      cases entry? with
      | none =>
          cases isFound
          exact ⟨some "", rfl, rfl⟩
      | some entry =>
          cases entry with
          | folder entries =>
              cases isFound
              exact ⟨none, rfl, rfl⟩
          | closed =>
              cases isFound
              exact ⟨none, rfl, rfl⟩
          | file present =>
              cases isFound
              cases refused : present.refusal with
              | some reason =>
                  refine ⟨none, ?_, ?_⟩
                  · change (if present.refusal.isSome = true then _ else _) = _
                    rw [refused]
                    rfl
                  · simp [comparedWith, refused]
              | none =>
                  refine ⟨some present.comparedText, ?_, ?_⟩
                  · change (if present.refusal.isSome = true then _ else _) = _
                    rw [refused]
                    rfl
                  · simp [comparedWith, refused]

/-- Nothing is in the way of a file only if it is complete and its path can be asked for. -/
theorem exists_found_of_obstacle? {file : OutputFile} {workplace : Workplace}
    (passes : file.obstacle? workplace = .ok none) :
    (file.path ≠ "" ∧ file.content ≠ "") ∧ ∃ found?, file.found workplace = .ok found? := by
  unfold obstacle? at passes
  by_cases incomplete : (file.path = "" || file.content = "") = true
  · rw [if_pos incomplete] at passes
    cases passes
  · rw [if_neg incomplete] at passes
    refine ⟨by simpa using incomplete, ?_⟩
    unfold found Workplace.fileAt?
    cases standing : workplace.status (file.target workplace.folder) with
    | error cause =>
        rw [standing] at passes
        cases passes
    | ok entry? =>
        rcases entry? with _ | _ | _ | _
        · exact ⟨_, rfl⟩
        · exact ⟨_, rfl⟩
        · exact ⟨_, rfl⟩
        · exact ⟨_, rfl⟩

/-- A report on a written file compares its text with that of the file that was found. -/
theorem exists_found_of_written
    {file : OutputFile} {workplace : Workplace} {path : String} {changed : Bool}
    {lines : Option LineCounts}
    (written : (file.write workplace).2 = .ok (.written path changed lines)) :
    (file.path ≠ "" ∧ file.content ≠ "") ∧
      ∃ found?, file.found workplace = .ok found? ∧
        WriteReport.written path changed lines = file.reportOver (comparedWith found?) := by
  rw [write] at written
  split at written
  next =>
    cases written
  next report obstacle =>
    have noObstacle : report.obstacle? = none := by
      rw [Except.ok.inj written]
      rfl
    exact absurd noObstacle (obstacle?_ne_none_of_obstacle? obstacle)
  next passes =>
    obtain ⟨complete, found?, isFound⟩ := exists_found_of_obstacle? passes
    obtain ⟨previous?, read, same⟩ := previousText?_of_found isFound
    refine ⟨complete, found?, isFound, ?_⟩
    rw [read] at written
    rcases result : file.place workplace with ⟨tree, cause | _⟩
    · rw [result] at written
      cases written
    · rw [result] at written
      rw [← same]
      exact (Except.ok.inj written).symm

/-! ## Writing over a file -/

theorem obstacle?_of_found {file : OutputFile} {workplace : Workplace} {present : File}
    (replaces : file.overwrite = true) (complete : file.path ≠ "" ∧ file.content ≠ "")
    (isFound : file.found workplace = .ok (some present)) :
    file.obstacle? workplace = .ok none := by
  unfold found Workplace.fileAt? at isFound
  obtain ⟨path, content⟩ := complete
  simp only [obstacle?, path, content, replaces]
  cases standing : workplace.status (file.target workplace.folder) with
  | error cause =>
      rw [standing] at isFound
      cases isFound
  | ok entry? =>
      cases entry? with
      | none =>
          rfl
      | some entry =>
          rfl

/-- A text that can be encoded is put over a file that is found. -/
theorem place_of_found {file : OutputFile} {workplace : Workplace} {present : File}
    (isFound : file.found workplace = .ok (some present))
    (encodable : (Text.encode? file.content).isSome = true) :
    (file.place workplace).2 = .ok () := by
  have standing : workplace.status (file.target workplace.folder) =
      .ok (some (.file present)) := by
    unfold found Workplace.fileAt? at isFound
    cases status : workplace.status (file.target workplace.folder) with
    | error cause =>
        rw [status] at isFound
        cases isFound
    | ok entry? =>
        rw [status] at isFound
        rcases entry? with _ | _ | _ | _
        · cases isFound
        · cases isFound
          rfl
        · cases isFound
        · cases isFound
  rw [status_target] at standing
  split at standing
  · cases standing
  split at standing
  · cases standing
  obtain ⟨clean, reaches, stands⟩ := (workplace.tree.status_eq_some_iff _ _).mp standing
  have isFile := reaches.seen?_eq
  rw [← stands] at isFile
  rcases List.eq_nil_or_concat (file.target workplace.folder).parts with
    top | ⟨around, name, split⟩
  · rw [top] at stands
    cases stands
  · rw [List.concat_eq_append] at split
    rw [split] at clean reaches isFile
    obtain ⟨above, folder, short, _⟩ := (workplace.tree.reaches_append_singleton _ _).mp reaches
    have passes : workplace.tree.Passes around := ⟨above, folder⟩
    have makes := workplace.tree.makes_makeFolders around
    obtain ⟨completes, arrives⟩ :=
      makes.completes (Tree.namesFault?_of_append clean) above.short passes.isOpen
    rcases made? : workplace.tree.makeFolders around with ⟨made, outcome⟩
    rw [made?] at makes completes arrives
    obtain rfl : outcome = .ok () := completes
    have stays := makes.grows.file_iff.mpr isFile
    have success := (made.judges_writeFile around name
      ((Text.encode? file.content).getD [])).succeeds
        ⟨⟨clean, arrives, short⟩, by simp [Tree.HasFolder, stays]⟩
    simp only [place, split, List.dropLast_concat, made?, success, encodable, if_true]

/-- A complete file that can be encoded is written over a file that is found, if that was
requested. -/
theorem write_of_found {file : OutputFile} {workplace : Workplace} {present : File}
    (replaces : file.overwrite = true) (complete : file.path ≠ "" ∧ file.content ≠ "")
    (encodable : (Text.encode? file.content).isSome = true)
    (isFound : file.found workplace = .ok (some present)) :
    (file.write workplace).2 = .ok (file.reportOver (comparedWith (some present))) := by
  have placed := place_of_found isFound encodable
  obtain ⟨previous?, read, same⟩ := previousText?_of_found isFound
  rw [write, obstacle?_of_found replaces complete isFound, read]
  rcases result : file.place workplace with ⟨tree, cause | _⟩
  · rw [result] at placed
    cases placed
  · rw [← same]

/-! ## The flag and the bytes -/

/-- The workplace after a file was written. -/
def after (file : OutputFile) (workplace : Workplace) : Workplace :=
  { workplace with tree := (file.write workplace).1 }

/-- A report on a written file means that the bytes of the file are where its path leads. -/
theorem holds_of_written
    {file : OutputFile} {workplace : Workplace} {path : String} {changed : Bool}
    {lines : Option LineCounts}
    (written : (file.write workplace).2 = .ok (.written path changed lines)) :
    Text.encode? file.content = some file.bytes ∧
      file.Holds workplace (file.write workplace).1 file.bytes := by
  rcases file.write_cases workplace with ⟨_, obstacles⟩ | ⟨holds, outcome⟩
  · exact absurd rfl (obstacles _ written)
  · rcases outcome with ⟨report, encodable, _⟩ | ⟨_, broken⟩
    · obtain ⟨bytes, encoded⟩ := Option.isSome_iff_exists.mp encodable
      have same : file.bytes = bytes := by
        rw [OutputFile.bytes, encoded, Option.getD_some]
      exact ⟨same ▸ encoded, holds⟩
    · rw [broken] at written
      cases written

theorem changed_eq_false_iff
    {file : OutputFile} {previous path : String} {changed : Bool} {lines : Option LineCounts}
    (report : WriteReport.written path changed lines = file.reportOver previous) :
    changed = false ↔ previous = file.content := by
  injection report with _ isChanged
  rw [isChanged, bne_eq_false_iff_eq]

/-- The report on a file that is written once more. -/
theorem reportOver_same
    {file : OutputFile} {present : File} {letters : List Char}
    (text : file.content = Text.ofLetters letters) (nonempty : file.content ≠ "")
    (bytes : present.content = letters.flatMap String.utf8EncodeChar) :
    ∃ lines, file.reportOver present.comparedText =
        .written file.path (decide ('\r' ∈ file.content.toList)) lines ∧
      (lines = none ↔ '\r' ∉ file.content.toList) := by
  have same : present.comparedText = file.content ↔ '\r' ∉ file.content.toList := by
    rw [text, Text.carriageReturn_mem_ofLetters_iff]
    exact File.comparedText_eq_iff_of_content bytes
  have someText : present.comparedText ≠ "" := by
    rw [File.comparedText_of_content bytes]
    apply Text.ofLetters_ne_empty
    apply Text.unifyBreaksWord_ne_nil
    intro empty
    rw [text, empty] at nonempty
    exact nonempty rfl
  by_cases returns : '\r' ∈ file.content.toList
  · have differs : (present.comparedText != file.content) = true := by
      rw [bne_iff_ne]
      exact fun equal => same.mp equal returns
    refine ⟨some (LineCounts.between (Text.splitLines present.comparedText)
      (Text.splitLines file.content)), ?_, by simp [returns]⟩
    simp [reportOver, differs, someText, returns]
  · have equal : (present.comparedText != file.content) = false := by
      rw [bne_eq_false_iff_eq]
      exact same.mpr returns
    refine ⟨none, ?_, by simp [returns]⟩
    simp [reportOver, equal, returns]

/-- A file that can be read and has the bytes of an output is written over by it. -/
theorem write_again
    {file : OutputFile} {workplace : Workplace} {present : File} {letters : List Char}
    (replaces : file.overwrite = true) (complete : file.path ≠ "" ∧ file.content ≠ "")
    (encoded : Text.encode? file.content = some file.bytes)
    (text : file.content = Text.ofLetters letters)
    (bytes : file.bytes = letters.flatMap String.utf8EncodeChar)
    (isFound : file.found workplace = .ok (some present)) (content : present.content = file.bytes)
    (readable : present.refusal = none) :
    ∃ lines, (file.write workplace).2 =
        .ok (.written file.path (decide ('\r' ∈ file.content.toList)) lines) ∧
      (lines = none ↔ '\r' ∉ file.content.toList) := by
  have again := write_of_found replaces complete (by rw [encoded]; rfl) isFound
  have compared : comparedWith (some present) = present.comparedText := by
    simp [comparedWith, readable]
  obtain ⟨lines, isReport, counted⟩ := reportOver_same text complete.2 (content.trans bytes)
  exact ⟨lines, by rw [again, compared, isReport], counted⟩

/-- A written file counts as unchanged exactly if the characters of the file that was found, line
breaks written in one way, are its text.  For a file that can be read this is wrong in two cases:
the bytes are the same but the text has a carriage return, or the bytes differ but compare equal,
since they are no characters or have a carriage return.  Written once more, the file counts as
changed exactly if its text has a carriage return. -/
theorem changed_of_written
    {file : OutputFile} (isKept : Text.IsKept file.content) {workplace : Workplace}
    {path : String} {changed : Bool} {lines : Option LineCounts}
    (written : (file.write workplace).2 = .ok (.written path changed lines)) :
    Text.encode? file.content = some file.bytes ∧
    file.Holds workplace (file.write workplace).1 file.bytes ∧
    (file.found workplace = .ok none → changed = true) ∧
    (∀ present, file.found workplace = .ok (some present) → present.refusal = none →
      (changed = false ↔ present.comparedText = file.content) ∧
      (¬ (changed = false ↔ present.content = file.bytes) ↔
        present.content = file.bytes ∧ '\r' ∈ file.content.toList ∨
        present.comparedText = file.content ∧ ¬ present.IsPlain)) ∧
    ∃ present, file.found (file.after workplace) = .ok (some present) ∧
      present.content = file.bytes ∧
      (file.overwrite = true → present.refusal = none →
        ∃ linesAgain, (file.write (file.after workplace)).2 =
            .ok (.written file.path (decide ('\r' ∈ file.content.toList)) linesAgain) ∧
          (linesAgain = none ↔ '\r' ∉ file.content.toList)) := by
  obtain ⟨encoded, holds⟩ := holds_of_written written
  obtain ⟨complete, found?, isFound, report⟩ := exists_found_of_written written
  obtain ⟨letters, text, bytes⟩ := isKept.letters_of_encode? encoded
  have flag := changed_eq_false_iff report
  refine ⟨encoded, holds, ?_, ?_, ?_⟩
  · intro nothing
    rw [isFound] at nothing
    cases nothing
    rw [← Bool.not_eq_false, flag]
    exact complete.2.symm
  · intro present stands readable
    rw [isFound] at stands
    cases stands
    have compared : comparedWith (some present) = present.comparedText := by
      simp [comparedWith, readable]
    rw [compared] at flag
    refine ⟨flag, ?_⟩
    rw [flag, text, bytes, Text.carriageReturn_mem_ofLetters_iff]
    exact File.comparisons_differ_iff
  · obtain ⟨⟨present, content, _, standing⟩, _⟩ := holds
    exact ⟨present, standing, content, fun replaces readable =>
      write_again replaces complete encoded text bytes standing content readable⟩

/-! ## Carriage returns -/

/-- A folder with a file whose line ends with a carriage return and a line feed. -/
def returnsFolder : Workplace where
  tree := ⟨[("a.rs", .file { content := [0x78, 0x0D, 0x0A] })]⟩
  folder := []

/-- An output with the same line, ended by a line feed. -/
def feedLine : OutputFile where
  path := "a.rs"
  content := "x\n"
  overwrite := true

/-- An output with the very bytes of the file. -/
def returnLine : OutputFile where
  path := "a.rs"
  content := "x\x0d\n"
  overwrite := true

/-- A file whose bytes change counts as unchanged, and one that keeps its bytes counts as
changed. -/
theorem flag_contradicts_bytes :
    feedLine.found returnsFolder = .ok (some { content := [0x78, 0x0D, 0x0A] }) ∧
      feedLine.bytes = [0x78, 0x0A] ∧
      (feedLine.write returnsFolder).2 = .ok (.written "a.rs" false none) ∧
      returnLine.bytes = [0x78, 0x0D, 0x0A] ∧
      ∃ lines, (returnLine.write returnsFolder).2 = .ok (.written "a.rs" true (some lines)) := by
  refine ⟨by decide, by decide, by decide, by decide, _, rfl⟩

/-- The file whose bytes change is not plain, and written once more it counts as unchanged. -/
theorem changed_of_written_feedLine :
    Text.IsKept feedLine.content ∧
      (feedLine.write returnsFolder).2 = .ok (.written "a.rs" false none) ∧
      ¬ File.IsPlain { content := [0x78, 0x0D, 0x0A] } ∧
      ∃ linesAgain, (feedLine.write (feedLine.after returnsFolder)).2 =
        .ok (.written "a.rs" false linesAgain) := by
  have isKept : Text.IsKept feedLine.content := ⟨[0x78, 0x0A], by simp, by decide⟩
  have written : (feedLine.write returnsFolder).2 = .ok (.written "a.rs" false none) := by decide
  have stands : feedLine.found returnsFolder = .ok (some { content := [0x78, 0x0D, 0x0A] }) := by
    decide
  have standsAfter : feedLine.found (feedLine.after returnsFolder) =
      .ok (some { content := [0x78, 0x0A] }) := by
    decide
  obtain ⟨_, _, _, overFile, present, isFound, _, again⟩ := changed_of_written isKept written
  refine ⟨isKept, written, ?_, ?_⟩
  · have differs : ([0x78, 0x0D, 0x0A] : List UInt8) ≠ feedLine.bytes := by decide
    obtain ⟨sameBytes, _⟩ | ⟨_, notPlain⟩ :=
      (overFile _ stands rfl).2.mp fun right => differs (right.mp rfl)
    · exact absurd sameBytes differs
    · exact notPlain
  · rw [standsAfter] at isFound
    cases isFound
    obtain ⟨linesAgain, report, _⟩ := again rfl rfl
    exact ⟨linesAgain, report⟩

end OutputFile

end ErrorDerive
