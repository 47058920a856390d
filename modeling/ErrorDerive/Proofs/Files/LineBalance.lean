import ErrorDerive.Proofs.Files.Rewriting

/-!
# The balance of changed lines

The lines of an overwritten file are counted off a printed script: an addition is a printed line
that begins with one plus sign but not with three, which mark the heading of a file.  A new line
that itself begins with two plus signs looks like a heading, and so does an old line that begins
with two minus signs.  The count passes over both.

* `LineCounts.ofPrinted_eq_ofEdits` says that every printed form of a script has the same counts;
* `LineCounts.balance_iff` says when the counts make up for the difference of the two rows;
* `OutputFile.lines_of_written` puts both together for a file that is overwritten.
-/

namespace ErrorDerive

namespace LineEdit

/-! ## The parts of a script -/

/-- The lines that stay. -/
def keptLines : List LineEdit → List String
  | [] => []
  | kept line :: rest => line :: keptLines rest
  | removed _ :: rest => keptLines rest
  | added _ :: rest => keptLines rest

/-- The lines that go. -/
def removedLines : List LineEdit → List String
  | [] => []
  | kept _ :: rest => removedLines rest
  | removed line :: rest => line :: removedLines rest
  | added _ :: rest => removedLines rest

/-- The lines that come. -/
def addedLines : List LineEdit → List String
  | [] => []
  | kept _ :: rest => addedLines rest
  | removed _ :: rest => addedLines rest
  | added line :: rest => line :: addedLines rest

theorem keptLines_sublist_oldLines (edits : List LineEdit) :
    (keptLines edits).Sublist (oldLines edits) := by
  induction edits with
  | nil =>
      exact .slnil
  | cons edit rest inductionHypothesis =>
      cases edit with
      | kept line => exact inductionHypothesis.cons_cons line
      | removed line => exact inductionHypothesis.cons line
      | added line => exact inductionHypothesis

theorem keptLines_sublist_newLines (edits : List LineEdit) :
    (keptLines edits).Sublist (newLines edits) := by
  induction edits with
  | nil =>
      exact .slnil
  | cons edit rest inductionHypothesis =>
      cases edit with
      | kept line => exact inductionHypothesis.cons_cons line
      | removed line => exact inductionHypothesis
      | added line => exact inductionHypothesis.cons line

theorem length_oldLines (edits : List LineEdit) :
    (oldLines edits).length = (keptLines edits).length + (removedLines edits).length := by
  induction edits with
  | nil =>
      rfl
  | cons edit rest inductionHypothesis =>
      cases edit with
      | kept line =>
          simp only [oldLines, keptLines, removedLines, List.length_cons, inductionHypothesis]
          omega
      | removed line =>
          simp only [oldLines, keptLines, removedLines, List.length_cons, inductionHypothesis]
          omega
      | added line =>
          exact inductionHypothesis

theorem length_newLines (edits : List LineEdit) :
    (newLines edits).length = (keptLines edits).length + (addedLines edits).length := by
  induction edits with
  | nil =>
      rfl
  | cons edit rest inductionHypothesis =>
      cases edit with
      | kept line =>
          simp only [newLines, keptLines, addedLines, List.length_cons, inductionHypothesis]
          omega
      | removed line =>
          exact inductionHypothesis
      | added line =>
          simp only [newLines, keptLines, addedLines, List.length_cons, inductionHypothesis]
          omega

/-! ## The script of two rows -/

/-- The script by which the lines of two texts are counted. -/
def script (old new : List String) : List LineEdit :=
  between (.ofRow new) 0 old new

@[simp]
theorem oldLines_script (old new : List String) : oldLines (script old new) = old :=
  oldLines_between _ _ _ _

@[simp]
theorem newLines_script (old new : List String) : newLines (script old new) = new :=
  newLines_between _ _ _ _

theorem commonStart_of_disjoint {old new : List String} (disjoint : old.Disjoint new) :
    commonStart old new = [] := by
  cases old with
  | nil =>
      rfl
  | cons first rest =>
      cases new with
      | nil =>
          rfl
      | cons other others =>
          have differ : first ≠ other := by
            rintro rfl
            exact disjoint List.mem_cons_self List.mem_cons_self
          rw [commonStart, if_neg differ]

/-- Between rows without a common line, every old line goes and every new line comes. -/
theorem script_of_disjoint {old new : List String} (disjoint : old.Disjoint new) :
    script old new = old.map removed ++ new.map added := by
  rw [script, between]
  apply dif_pos
  have apart : ∀ first second : Nat, (old.drop first).Disjoint (new.drop second) := by
    intro first second line inOld inNew
    exact disjoint (List.mem_of_mem_drop inOld) (List.mem_of_mem_drop inNew)
  rw [commonStart_of_disjoint (apart _ _), List.length_nil]

/-! ## Printed scripts -/

/-- A line after the sign of what happens to it. -/
def signed : LineEdit → String
  | kept line => " " ++ line
  | removed line => "-" ++ line
  | added line => "+" ++ line

/-- The body of a printed script has its lines after their signs, and may pass over lines that are
kept.  Markers of places stand between the lines. -/
inductive PrintsBody : List LineEdit → List String → Prop where
  | done : PrintsBody [] []
  | marker (place : String) {edits : List LineEdit} {body : List String} :
      PrintsBody edits body → PrintsBody edits (("@@" ++ place) :: body)
  | shown (edit : LineEdit) {edits : List LineEdit} {body : List String} :
      PrintsBody edits body → PrintsBody (edit :: edits) (edit.signed :: body)
  | passed (line : String) {edits : List LineEdit} {body : List String} :
      PrintsBody edits body → PrintsBody (kept line :: edits) body

/-- A printed script has the headings of both files before its body, unless there is nothing to
print. -/
inductive Prints (path : String) (edits : List LineEdit) : List String → Prop where
  | nothing : PrintsBody edits [] → Prints path edits []
  | headed {body : List String} : PrintsBody edits body →
      Prints path edits (("--- a/" ++ path) :: ("+++ b/" ++ path) :: body)

theorem printsBody_signed (edits : List LineEdit) : PrintsBody edits (edits.map signed) := by
  induction edits with
  | nil => exact .done
  | cons edit rest inductionHypothesis => exact inductionHypothesis.shown edit

theorem exists_prints (path : String) (edits : List LineEdit) :
    ∃ printed, Prints path edits printed :=
  ⟨_, .headed (printsBody_signed edits)⟩

end LineEdit

namespace LineCounts

open LineEdit

/-- Whether a printed line counts as an addition. -/
def isAddition (line : String) : Bool :=
  "+".toList.isPrefixOf line.toList && !"+++".toList.isPrefixOf line.toList

/-- Whether a printed line counts as a removal. -/
def isRemoval (line : String) : Bool :=
  "-".toList.isPrefixOf line.toList && !"---".toList.isPrefixOf line.toList

/-- The counts of printed lines. -/
def ofPrinted (printed : List String) : LineCounts where
  added := printed.countP isAddition
  removed := printed.countP isRemoval

theorem isAddition_signed (edit : LineEdit) : isAddition edit.signed = countsAsAdded edit := by
  cases edit with
  | kept line => simp [isAddition, signed, countsAsAdded]
  | removed line => simp [isAddition, signed, countsAsAdded]
  | added line => simp [isAddition, signed, countsAsAdded]

theorem isRemoval_signed (edit : LineEdit) : isRemoval edit.signed = countsAsRemoved edit := by
  cases edit with
  | kept line => simp [isRemoval, signed, countsAsRemoved]
  | removed line => simp [isRemoval, signed, countsAsRemoved]
  | added line => simp [isRemoval, signed, countsAsRemoved]

theorem ofPrinted_cons_of_passes {line : String} (rest : List String)
    (notAdded : isAddition line = false) (notRemoved : isRemoval line = false) :
    ofPrinted (line :: rest) = ofPrinted rest := by
  simp [ofPrinted, notAdded, notRemoved]

theorem ofPrinted_body {edits : List LineEdit} {body : List String}
    (prints : PrintsBody edits body) :
    ofPrinted body = ofEdits edits := by
  induction prints with
  | done =>
      rfl
  | marker place _ inductionHypothesis =>
      rw [ofPrinted_cons_of_passes _ (by simp [isAddition]) (by simp [isRemoval]),
        inductionHypothesis]
  | shown edit _ inductionHypothesis =>
      simp only [ofPrinted, ofEdits, LineCounts.mk.injEq] at inductionHypothesis ⊢
      simp only [List.countP_cons, isAddition_signed, isRemoval_signed, inductionHypothesis,
        and_self]
  | passed line _ inductionHypothesis =>
      rw [inductionHypothesis]
      simp [ofEdits, countsAsAdded, countsAsRemoved]

/-- Every printed form of a script has the counts of the script. -/
theorem ofPrinted_eq_ofEdits {path : String} {edits : List LineEdit} {printed : List String}
    (prints : Prints path edits printed) :
    ofPrinted printed = ofEdits edits := by
  cases prints with
  | nothing body =>
      exact ofPrinted_body body
  | headed body =>
      rw [ofPrinted_cons_of_passes _ (by simp [isAddition]) (by simp [isRemoval]),
        ofPrinted_cons_of_passes _ (by simp [isAddition]) (by simp [isRemoval]),
        ofPrinted_body body]

/-! ## Lines that look like headings -/

/-- Whether a line looks like the heading of a file once it stands after a sign. -/
def looksLikeHeading (signs line : String) : Bool :=
  signs.toList.isPrefixOf line.toList

/-- How many added lines the count passes over. -/
def missedAdditions (edits : List LineEdit) : Nat :=
  (addedLines edits).countP (looksLikeHeading "++")

/-- How many removed lines the count passes over. -/
def missedRemovals (edits : List LineEdit) : Nat :=
  (removedLines edits).countP (looksLikeHeading "--")

theorem added_ofEdits (edits : List LineEdit) :
    (ofEdits edits).added = (addedLines edits).countP fun line => !looksLikeHeading "++" line := by
  induction edits with
  | nil =>
      rfl
  | cons edit rest inductionHypothesis =>
      simp only [ofEdits] at inductionHypothesis ⊢
      cases edit with
      | kept line => simpa [addedLines, countsAsAdded] using inductionHypothesis
      | removed line => simpa [addedLines, countsAsAdded] using inductionHypothesis
      | added line =>
          rw [List.countP_cons, inductionHypothesis, addedLines, List.countP_cons]
          rfl

theorem removed_ofEdits (edits : List LineEdit) :
    (ofEdits edits).removed =
      (removedLines edits).countP fun line => !looksLikeHeading "--" line := by
  induction edits with
  | nil =>
      rfl
  | cons edit rest inductionHypothesis =>
      simp only [ofEdits] at inductionHypothesis ⊢
      cases edit with
      | kept line => simpa [removedLines, countsAsRemoved] using inductionHypothesis
      | added line => simpa [removedLines, countsAsRemoved] using inductionHypothesis
      | removed line =>
          rw [List.countP_cons, inductionHypothesis, removedLines, List.countP_cons]
          rfl

theorem length_addedLines (edits : List LineEdit) :
    (addedLines edits).length = (ofEdits edits).added + missedAdditions edits := by
  rw [added_ofEdits, missedAdditions, Nat.add_comm]
  simpa using List.length_eq_countP_add_countP (looksLikeHeading "++")

theorem length_removedLines (edits : List LineEdit) :
    (removedLines edits).length = (ofEdits edits).removed + missedRemovals edits := by
  rw [removed_ofEdits, missedRemovals, Nat.add_comm]
  simpa using List.length_eq_countP_add_countP (looksLikeHeading "--")

/-! ## The balance -/

/-- Some lines are in both rows, in the same order, and the counts are what the rows have beside
them. -/
def Balances (counts : LineCounts) (old new : List String) : Prop :=
  ∃ shared : List String, shared.Sublist old ∧ shared.Sublist new ∧
    old.length = shared.length + counts.removed ∧ new.length = shared.length + counts.added

theorem Balances.sub_eq {counts : LineCounts} {old new : List String}
    (balances : counts.Balances old new) :
    (counts.added : Int) - counts.removed = new.length - old.length := by
  obtain ⟨shared, _, _, oldLength, newLength⟩ := balances
  omega

theorem length_oldLines_eq (edits : List LineEdit) :
    (oldLines edits).length =
      (keptLines edits).length + ((ofEdits edits).removed + missedRemovals edits) := by
  rw [length_oldLines, length_removedLines]

theorem length_newLines_eq (edits : List LineEdit) :
    (newLines edits).length =
      (keptLines edits).length + ((ofEdits edits).added + missedAdditions edits) := by
  rw [length_newLines, length_addedLines]

/-- The counts make up for the difference of the rows exactly if as many additions as removals are
passed over. -/
theorem balance_iff (edits : List LineEdit) :
    ((ofEdits edits).added : Int) - (ofEdits edits).removed =
        (newLines edits).length - (oldLines edits).length ↔
      missedAdditions edits = missedRemovals edits := by
  rw [length_oldLines_eq, length_newLines_eq]
  omega

/-- Where nothing is passed over, the kept lines are those that both rows share. -/
theorem balances_of_nothingMissed {edits : List LineEdit}
    (noAddition : missedAdditions edits = 0) (noRemoval : missedRemovals edits = 0) :
    (ofEdits edits).Balances (oldLines edits) (newLines edits) := by
  refine ⟨keptLines edits, keptLines_sublist_oldLines edits, keptLines_sublist_newLines edits,
    ?_, ?_⟩
  · rw [length_oldLines_eq, noRemoval, Nat.add_zero]
  · rw [length_newLines_eq, noAddition, Nat.add_zero]

end LineCounts

namespace OutputFile

open LineEdit LineCounts

/-- The lines that are counted for a file that is overwritten: between the text of the file that was
found and the text that is written.  The counts are those of every printed form of the script of the
two rows.  They leave out the added lines that begin with two plus signs and the removed lines that
begin with two minus signs, and so they balance if there are none of either, and their difference is
right exactly if there are as many of both. -/
theorem lines_of_written
    {file : OutputFile} {workplace : Workplace} {path : String} {changed : Bool}
    {lines : Option LineCounts}
    (written : (file.write workplace).2 = .ok (.written path changed lines))
    {found? : Option File} (isFound : file.found workplace = .ok found?)
    (someText : comparedWith found? ≠ "") (differs : comparedWith found? ≠ file.content) :
    let old := Text.splitLines (comparedWith found?)
    let new := Text.splitLines file.content
    let edits := script old new
    ∃ counts, lines = some counts ∧
      (∃ printed, Prints file.path edits printed) ∧
      (∀ printed, Prints file.path edits printed → ofPrinted printed = counts) ∧
      (keptLines edits).Sublist old ∧ (keptLines edits).Sublist new ∧
      old.length = (keptLines edits).length + (counts.removed + missedRemovals edits) ∧
      new.length = (keptLines edits).length + (counts.added + missedAdditions edits) ∧
      ((counts.added : Int) - counts.removed = new.length - old.length ↔
        missedAdditions edits = missedRemovals edits) ∧
      (missedAdditions edits = 0 → missedRemovals edits = 0 → counts.Balances old new) := by
  intro old new edits
  obtain ⟨_, other?, isOther, report⟩ := exists_found_of_written written
  rw [isFound] at isOther
  cases isOther
  have isChanged : (comparedWith found? != file.content) = true := by
    rwa [bne_iff_ne]
  have isCounted : lines = some (ofEdits edits) := by
    injection report with _ _ counted
    rw [counted, isChanged, Bool.true_and, if_pos (by simpa using someText)]
    rfl
  have ofOld : oldLines edits = old := oldLines_script old new
  have ofNew : newLines edits = new := newLines_script old new
  refine ⟨ofEdits edits, isCounted, exists_prints _ _, ?_, ?_, ?_, ?_, ?_, ?_, ?_⟩
  · intro printed prints
    exact ofPrinted_eq_ofEdits prints
  · rw [← ofOld]
    exact keptLines_sublist_oldLines edits
  · rw [← ofNew]
    exact keptLines_sublist_newLines edits
  · rw [← ofOld]
    exact length_oldLines_eq edits
  · rw [← ofNew]
    exact length_newLines_eq edits
  · rw [← ofOld, ← ofNew]
    exact balance_iff edits
  · intro noAddition noRemoval
    rw [← ofOld, ← ofNew]
    exact balances_of_nothingMissed noAddition noRemoval

/-! ## A line of plus signs -/

/-- A folder with a file of one line. -/
def lineFolder : Workplace where
  tree := ⟨[("a.rs", .file { content := [0x6F, 0x6C, 0x64, 0x0A] })]⟩
  folder := []

/-- An output whose line begins with two plus signs. -/
def plusLine : OutputFile where
  path := "a.rs"
  content := "++new\n"
  overwrite := true

theorem found_plusLine :
    plusLine.found lineFolder = .ok (some { content := [0x6F, 0x6C, 0x64, 0x0A] }) := by
  decide

theorem script_plusLine : script ["old"] ["++new"] = [removed "old", added "++new"] := by
  apply script_of_disjoint
  intro line inOld inNew
  rw [List.mem_singleton] at inOld inNew
  exact absurd (inOld.symm.trans inNew) (by decide)

theorem write_plusLine :
    (plusLine.write lineFolder).2 = .ok (.written "a.rs" true (some ⟨0, 1⟩)) := by
  have counted : LineCounts.between ["old"] ["++new"] = ⟨0, 1⟩ := by
    change ofEdits (script ["old"] ["++new"]) = _
    rw [script_plusLine]
    decide
  have report := write_of_found (by decide) (by decide) (by decide) found_plusLine
  have isOld : comparedWith (some { content := [0x6F, 0x6C, 0x64, 0x0A] }) = "old\n" := by decide
  have oldRow : Text.splitLines "old\n" = ["old"] := by decide
  have newRow : Text.splitLines "++new\n" = ["++new"] := by decide
  rw [report, isOld]
  change Except.ok (WriteReport.written "a.rs" true
    (some (LineCounts.between (Text.splitLines "old\n") (Text.splitLines "++new\n")))) = _
  rw [oldRow, newRow, counted]

/-- One line is replaced by another, and no line is counted as added. -/
theorem lines_plusLine_unbalanced :
    (plusLine.write lineFolder).2 = .ok (.written "a.rs" true (some ⟨0, 1⟩)) ∧
      Text.splitLines "old\n" = ["old"] ∧ Text.splitLines plusLine.content = ["++new"] ∧
      ¬ LineCounts.Balances ⟨0, 1⟩ ["old"] ["++new"] := by
  refine ⟨write_plusLine, by decide, by decide, ?_⟩
  intro balances
  exact absurd balances.sub_eq (by decide)

/-- The added line is one that the count passes over. -/
theorem lines_of_written_plusLine :
    (plusLine.write lineFolder).2 = .ok (.written "a.rs" true (some ⟨0, 1⟩)) ∧
      comparedWith (some { content := [0x6F, 0x6C, 0x64, 0x0A] }) ≠ "" ∧
      comparedWith (some { content := [0x6F, 0x6C, 0x64, 0x0A] }) ≠ plusLine.content ∧
      missedAdditions (script ["old"] ["++new"]) ≠ missedRemovals (script ["old"] ["++new"]) := by
  have someText : comparedWith (some { content := [0x6F, 0x6C, 0x64, 0x0A] }) ≠ "" := by decide
  have differs :
      comparedWith (some { content := [0x6F, 0x6C, 0x64, 0x0A] }) ≠ plusLine.content := by
    decide
  refine ⟨write_plusLine, someText, differs, ?_⟩
  have oldRow : Text.splitLines (comparedWith (some { content := [0x6F, 0x6C, 0x64, 0x0A] })) =
      ["old"] := by
    decide
  have newRow : Text.splitLines plusLine.content = ["++new"] := by decide
  have accounts := lines_of_written write_plusLine found_plusLine someText differs
  rw [oldRow, newRow] at accounts
  obtain ⟨counts, isCounted, _, _, _, _, _, _, balance, _⟩ := accounts
  cases isCounted
  exact mt balance.mpr (by decide)

end OutputFile

end ErrorDerive
