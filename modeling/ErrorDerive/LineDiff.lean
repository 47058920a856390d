import ErrorDerive.LineIndex

/-!
# Line differences

An edit script turns one row of lines into another: each line is kept, removed or added.
`LineEdit.between` finds one by keeping the longest run of lines that both rows share and treating
what stands before and after the run in the same way.

* `LineEdit.oldLines` and `LineEdit.newLines` are the two rows of a script;
* `oldLines_between` and `newLines_between` say that the script found is one of the given rows.

A line that the index of the new row leaves out does not make a run by itself: it may only extend
one.
-/

namespace ErrorDerive

/-- What happens to a line. -/
inductive LineEdit where
  | kept (line : String)
  | removed (line : String)
  | added (line : String)
  deriving DecidableEq, Repr, Inhabited

namespace LineEdit

/-- The lines before the edits. -/
def oldLines : List LineEdit → List String
  | [] => []
  | kept line :: rest => line :: oldLines rest
  | removed line :: rest => line :: oldLines rest
  | added _ :: rest => oldLines rest

/-- The lines after the edits. -/
def newLines : List LineEdit → List String
  | [] => []
  | kept line :: rest => line :: newLines rest
  | removed _ :: rest => newLines rest
  | added line :: rest => line :: newLines rest

/-- A run of lines in two rows: where it starts in each, and its length. -/
structure Run where
  oldStart : Nat := 0
  newStart : Nat := 0
  length : Nat := 0
  deriving DecidableEq, Repr, Inhabited

/-- The lengths of the runs that end at one old line, by the places of their last lines in the new
row. A run that ends at a place is longer by one than the run that ends one line up in both rows;
`above` has the runs at the old line before. Places ascend in both lists. -/
def runLengths : List (Nat × Nat) → List Nat → List (Nat × Nat)
  | _, [] => []
  | above, place :: rest =>
    let reaching := above.dropWhile fun run => run.1 + 1 < place
    let before := match reaching with
      | (last, length) :: _ => if last + 1 = place then length else 0
      | [] => 0
    (place, before + 1) :: runLengths reaching rest

/-- The longer of a run and those that end at one old line; the first of several counts. -/
def longer (oldEnd : Nat) (best : Run) (ending : List (Nat × Nat)) : Run :=
  ending.foldl (fun best (newEnd, length) =>
    if best.length < length then ⟨oldEnd + 1 - length, newEnd + 1 - length, length⟩ else best) best

/-- The longest run of lines, from an old line on; `placesOf` has the places of a line in the new
row. -/
def longestFrom (placesOf : String → List Nat) :
    Nat → Run → List (Nat × Nat) → List String → Run
  | _, best, _, [] => best
  | oldEnd, best, above, line :: rest =>
    let ending := runLengths above (placesOf line)
    longestFrom placesOf (oldEnd + 1) (longer oldEnd best ending) ending rest

/-- The longest run of lines in an old row and a new one of the given length, which stands in an
indexed row from a place on. Without any, it is the empty run at the start. -/
def longestRun (index : LineIndex) (start : Nat) (old : List String) (newLength : Nat) : Run :=
  longestFrom (index.placesWithin start newLength) 0 {} [] old

/-- The lines with which both rows begin. -/
def commonStart : List String → List String → List String
  | first :: rest, other :: others =>
    if first = other then first :: commonStart rest others else []
  | _, _ => []

/-- Where the lines that are kept begin: at the longest run, or before it as long as the lines
before it agree too. -/
def meetingPoint (index : LineIndex) (start : Nat) (old new : List String) : Nat × Nat :=
  let run := longestRun index start old new.length
  let back := (commonStart (old.take run.oldStart).reverse (new.take run.newStart).reverse).length
  (run.oldStart - back, run.newStart - back)

theorem commonStart_left (old new : List String) :
    commonStart old new ++ old.drop (commonStart old new).length = old := by
  fun_induction commonStart old new with
  | case1 first rest others inductionHypothesis => simp [inductionHypothesis]
  | case2 => simp
  | case3 => simp

theorem commonStart_right (old new : List String) :
    commonStart old new ++ new.drop (commonStart old new).length = new := by
  fun_induction commonStart old new with
  | case1 first rest others inductionHypothesis => simp [inductionHypothesis]
  | case2 => simp
  | case3 => simp

theorem length_commonStart_le (old new : List String) :
    (commonStart old new).length ≤ old.length := by
  have split := congrArg List.length (commonStart_left old new)
  rw [List.length_append] at split
  omega

/-- An edit script that turns one row into another, which stands in an indexed row from a place
on. -/
def between (index : LineIndex) (start : Nat) (old new : List String) : List LineEdit :=
  let point := meetingPoint index start old new
  let shared := commonStart (old.drop point.1) (new.drop point.2)
  if _ : shared.length = 0 then old.map removed ++ new.map added
  else
    between index start (old.take point.1) (new.take point.2) ++ shared.map kept ++
      between index (start + point.2 + shared.length)
        (old.drop (point.1 + shared.length)) (new.drop (point.2 + shared.length))
termination_by old.length
decreasing_by
  all_goals
    have bound := length_commonStart_le (old.drop point.1) (new.drop point.2)
    have nonempty : ¬shared.length = 0 := by assumption
    simp only [shared, point, List.length_drop, List.length_take] at nonempty bound ⊢
    omega

theorem oldLines_append (first second : List LineEdit) :
    oldLines (first ++ second) = oldLines first ++ oldLines second := by
  fun_induction oldLines first with
  | case1 => rfl
  | case2 line rest inductionHypothesis => simp [oldLines, inductionHypothesis]
  | case3 line rest inductionHypothesis => simp [oldLines, inductionHypothesis]
  | case4 line rest inductionHypothesis => simp [oldLines, inductionHypothesis]

theorem newLines_append (first second : List LineEdit) :
    newLines (first ++ second) = newLines first ++ newLines second := by
  fun_induction newLines first with
  | case1 => rfl
  | case2 line rest inductionHypothesis => simp [newLines, inductionHypothesis]
  | case3 line rest inductionHypothesis => simp [newLines, inductionHypothesis]
  | case4 line rest inductionHypothesis => simp [newLines, inductionHypothesis]

@[simp] theorem oldLines_map_kept (lines : List String) : oldLines (lines.map kept) = lines := by
  induction lines with
  | nil => rfl
  | cons line rest inductionHypothesis => simp [oldLines, inductionHypothesis]

@[simp] theorem newLines_map_kept (lines : List String) : newLines (lines.map kept) = lines := by
  induction lines with
  | nil => rfl
  | cons line rest inductionHypothesis => simp [newLines, inductionHypothesis]

@[simp] theorem oldLines_map_removed (lines : List String) :
    oldLines (lines.map removed) = lines := by
  induction lines with
  | nil => rfl
  | cons line rest inductionHypothesis => simp [oldLines, inductionHypothesis]

@[simp] theorem newLines_map_removed (lines : List String) : newLines (lines.map removed) = [] := by
  induction lines with
  | nil => rfl
  | cons line rest inductionHypothesis => simp [newLines, inductionHypothesis]

@[simp] theorem oldLines_map_added (lines : List String) : oldLines (lines.map added) = [] := by
  induction lines with
  | nil => rfl
  | cons line rest inductionHypothesis => simp [oldLines, inductionHypothesis]

@[simp] theorem newLines_map_added (lines : List String) : newLines (lines.map added) = lines := by
  induction lines with
  | nil => rfl
  | cons line rest inductionHypothesis => simp [newLines, inductionHypothesis]

/-- The edits start from the old row. -/
theorem oldLines_between (index : LineIndex) (start : Nat) (old new : List String) :
    oldLines (between index start old new) = old := by
  fun_induction between index start old new with
  | case1 start old new => simp [oldLines_append]
  | case2 start old new point shared _ beforeRun afterRun =>
    have split := commonStart_left (old.drop point.1) (new.drop point.2)
    rw [List.drop_drop] at split
    simp only [oldLines_append, beforeRun, afterRun, oldLines_map_kept, List.append_assoc]
    rw [split, List.take_append_drop]

/-- The edits lead to the new row. -/
theorem newLines_between (index : LineIndex) (start : Nat) (old new : List String) :
    newLines (between index start old new) = new := by
  fun_induction between index start old new with
  | case1 start old new => simp [newLines_append]
  | case2 start old new point shared _ beforeRun afterRun =>
    have split := commonStart_right (old.drop point.1) (new.drop point.2)
    rw [List.drop_drop] at split
    simp only [newLines_append, beforeRun, afterRun, newLines_map_kept, List.append_assoc]
    rw [split, List.take_append_drop]

end LineEdit

/-- How many lines were added and removed. -/
structure LineCounts where
  added : Nat
  removed : Nat
  deriving DecidableEq, Repr, Inhabited

namespace LineCounts

/-- Whether an edit counts as an addition. A line that begins with two plus signs does not: after
the sign of an addition it looks like the heading of a file. -/
def countsAsAdded : LineEdit → Bool
  | .added line => !("++".toList.isPrefixOf line.toList)
  | _ => false

/-- Whether an edit counts as a removal. A line that begins with two minus signs does not. -/
def countsAsRemoved : LineEdit → Bool
  | .removed line => !("--".toList.isPrefixOf line.toList)
  | _ => false

def ofEdits (edits : List LineEdit) : LineCounts where
  added := edits.countP countsAsAdded
  removed := edits.countP countsAsRemoved

def between (old new : List String) : LineCounts :=
  ofEdits (LineEdit.between (.ofRow new) 0 old new)

end LineCounts

end ErrorDerive
