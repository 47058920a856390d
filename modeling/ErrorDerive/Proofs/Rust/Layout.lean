import ErrorDerive.Proofs.Rust.ArmReading

/-!
# The layout of the generated code

The code of a type is its conversions, its display implementation and its error implementation, an
empty line between any two.  Each implementation is a frame that depends on nothing but the name of
the type, around a match with one line for each arm.
-/

namespace ErrorDerive.Rust

/-- The lines of a match on a value around the lines of its arms. -/
def framed (lines : List String) : List String :=
  if lines = [] then ["        match *self \x7b\x7d"]
  else "        match self \x7b" :: (lines ++ ["        \x7d"])

/-- The display implementation of a type, given the lines of its arms. -/
def displayText (typeName : String) (lines : List String) : String :=
  endLines ([
    "impl ::std::fmt::Display for " ++ typeName ++ " \x7b",
    "    fn fmt(&self, f: &mut ::std::fmt::Formatter<'_>) -> ::std::fmt::Result \x7b"] ++
    framed lines ++ ["    \x7d", "\x7d"])

/-- The error implementation of a type, given the lines of its arms. -/
def errorText (typeName : String) (lines : List String) : String :=
  endLines ([
    "impl ::std::error::Error for " ++ typeName ++ " \x7b",
    "    fn source(&self) -> ::std::option::Option<&(dyn ::std::error::Error + 'static)> \x7b"] ++
    framed lines ++ ["    \x7d", "\x7d"])

/-- The conversions of a type, each with an empty line behind it. -/
def conversionsText (generation : Generation) : String :=
  String.join (generation.conversions.map fun conversion =>
    conversionItem generation.typeName conversion ++ "\n")

/-- The line of an arm in an implementation. -/
def armLine (arm : Arm) : String :=
  indent 3 ++ arm.text

/-- Lines that are read as arms, one for each. -/
structure Lists (lines : List String) (arms : List ReadArm) : Prop where
  unbroken : ∀ line ∈ lines, '\n' ∉ line.toList
  read : lines.map ReadArm.ofLine? = arms.map some

/-! ## Frames -/

theorem matchLines_eq (arms : List Arm) : matchLines 2 arms = framed (arms.map armLine) := by
  have opening : indent 2 ++ "match self \x7b" = "        match self \x7b" := by
    decide
  have closing : indent 2 ++ "\x7d" = "        \x7d" := by
    decide
  cases arms with
  | nil =>
      decide
  | cons first others =>
      rw [matchLines, if_neg (by simp), opening, closing, framed, if_neg (by simp)]
      rfl

theorem displayItem_eq (typeName : String) (branches : List DisplayBranch) :
    displayItem typeName branches =
      displayText typeName ((branches.map displayArm).map armLine) := by
  rw [displayItem, matchLines_eq, displayText]

theorem errorItem_eq (typeName : String) (branches : List SourceBranch) :
    errorItem typeName branches =
      errorText typeName ((branches.map sourceArm).map armLine) := by
  rw [errorItem, matchLines_eq, errorText]

theorem intercalate_append_pair (separator first second : String) (earlier : List String) :
    separator.intercalate (earlier ++ [first, second]) =
      String.join (earlier.map (· ++ separator)) ++ first ++ separator ++ second := by
  induction earlier with
  | nil =>
      simp
  | cons head tail inductionHypothesis =>
      rw [List.cons_append, String.intercalate_cons_of_ne_nil (by simp), inductionHypothesis]
      simp [String.append_assoc]

/-- The code of a type, implementation by implementation. -/
theorem render_eq (generation : Generation) :
    render generation =
      conversionsText generation ++ displayItem generation.typeName generation.display ++ "\n" ++
        errorItem generation.typeName generation.source := by
  rw [render, items, intercalate_append_pair, List.map_map]
  rfl

/-! ## Lines of arms -/

/-- The lines of arms whose names are identifiers are read as these arms. -/
theorem lists_armLines {arms : List Arm} (named : ∀ arm ∈ arms, arm.IsNamed) :
    Lists (arms.map armLine) (arms.map Arm.asRead) where
  unbroken := by
    intro line member
    obtain ⟨arm, isArm, rfl⟩ := List.mem_map.mp member
    have textLine := (named arm isArm).lineFeed_not_mem_text
    simpa [armLine, indent] using textLine
  read := by
    rw [List.map_map, List.map_map]
    apply List.map_congr_left
    intro arm member
    exact ReadArm.ofLine?_text (named arm member) 3

end ErrorDerive.Rust
