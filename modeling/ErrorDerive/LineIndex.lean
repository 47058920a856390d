import Std.Data.HashMap

/-!
# Line indices

An index of a row of lines tells at which places a line stands, so that a line of another row need
not be compared with each of them.

* `LineIndex.ofRow` is the index of a row, and `LineIndex.placesOf` looks a line up;
* `placesOf_ofRow` says that it finds exactly the places of a line that can make a run, and none of
  a line that cannot.

In a long row, a line that occurs very often does not make a run by itself.
-/

namespace ErrorDerive

/-- From how many lines on a row is long. -/
def longRow : Nat := 200

/-- How often a line may stand in a row of the given length and still make a run. In a long row, it
may stand there once for every hundred lines and once more. -/
def mayStand (rowLength count : Nat) : Bool :=
  rowLength < longRow || count ≤ rowLength / 100 + 1

/-- The places of a line in a row, counted from a number upwards. -/
def placesFrom (line : String) : Nat → List String → List Nat
  | _, [] => []
  | place, first :: rest =>
    if first = line then place :: placesFrom line (place + 1) rest
    else placesFrom line (place + 1) rest

/-- The places at which the lines of a row stand, in ascending order. -/
structure LineIndex where
  places : Std.HashMap String (List Nat) := {}

namespace LineIndex

/-- Adds a place of a line, before the ones that are known. -/
def addPlace (index : LineIndex) (line : String) (place : Nat) : LineIndex :=
  ⟨index.places.insert line (place :: index.places.getD line [])⟩

/-- The places of all lines, counted from a number upwards. -/
def allFrom : Nat → List String → LineIndex
  | _, [] => {}
  | place, line :: rest => (allFrom (place + 1) rest).addPlace line place

/-- The index of a row, without the lines that cannot make a run. -/
def ofRow (row : List String) : LineIndex :=
  let length := row.length
  ⟨(allFrom 0 row).places.filter fun _ places => mayStand length places.length⟩

/-- The places of a line, in ascending order. -/
def placesOf (index : LineIndex) (line : String) : List Nat :=
  index.places.getD line []

/-- The places of a line in a part of the row, counted from the start of the part. -/
def placesWithin (index : LineIndex) (start length : Nat) (line : String) : List Nat :=
  let later := (index.placesOf line).dropWhile (· < start)
  (later.takeWhile (· < start + length)).map (· - start)

theorem placesOf_addPlace (index : LineIndex) (line sought : String) (place : Nat) :
    (index.addPlace line place).placesOf sought =
      if line = sought then place :: index.placesOf sought else index.placesOf sought := by
  simp only [addPlace, placesOf, Std.HashMap.getD_insert, beq_iff_eq]
  split
  case isTrue same => rw [same]
  case isFalse => rfl

theorem placesOf_allFrom (sought : String) (place : Nat) (row : List String) :
    (allFrom place row).placesOf sought = placesFrom sought place row := by
  induction row generalizing place with
  | nil => simp [allFrom, placesFrom, placesOf]
  | cons line rest inductionHypothesis =>
    rw [allFrom, placesOf_addPlace, placesFrom, inductionHypothesis]

/-- The index of a row knows every place of a line that can make a run. -/
theorem placesOf_ofRow (row : List String) (line : String) :
    (ofRow row).placesOf line =
      if mayStand row.length (placesFrom line 0 row).length then placesFrom line 0 row else [] := by
  rw [← placesOf_allFrom line 0 row]
  simp only [ofRow, placesOf, Std.HashMap.getD_eq_getD_getElem?, Std.HashMap.getElem?_filter']
  cases (allFrom 0 row).places[line]? with
  | none => simp
  | some places => by_cases may : mayStand row.length places.length <;> simp [Option.filter, may]

end LineIndex

end ErrorDerive
