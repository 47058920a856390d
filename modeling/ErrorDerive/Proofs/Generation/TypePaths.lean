import ErrorDerive.Policy
import ErrorDerive.Proofs.Text.Stripping

/-!
# Types by their paths

A path type is a row of segments with a double colon between any two.  A segment is a name, perhaps
with arguments in angle brackets, which hold types with arguments of their own.  Blanks may stand
around all of them.

Whether a path type counts as an error type is decided by one name of it.  This is the name of the
first segment with arguments, because whatever follows an angle bracket is left out; without
arguments it is the name of the last segment.  So a path with arguments in front of its last segment
is judged by another name than its last one.

* `isErrorLike_path` is the result, with the condition under which the last name decides;
* `judged_by_inner_segment` has a path of either kind that is judged by the wrong name.
-/

namespace ErrorDerive

/-! ## Path types -/

/-- Whether a word ends with the bracket that closes it, some brackets being open inside.  The arrow
of a function type closes nothing. -/
def closesAtEnd : Nat → List Char → Bool
  | _, [] => false
  | opened, '-' :: '>' :: rest => closesAtEnd opened rest
  | opened, '<' :: rest => closesAtEnd (opened + 1) rest
  | 0, '>' :: rest => rest.isEmpty
  | opened + 1, '>' :: rest => closesAtEnd opened rest
  | opened, _ :: rest => closesAtEnd opened rest

/-- Whether a word is a list of arguments with its brackets. -/
def isArgumentList : List Char → Bool
  | '<' :: rest => closesAtEnd 0 rest
  | _ => false

/-- A segment of a path type, with the blanks in front of its name, behind its name and at its
end. -/
structure PathSegment where
  name : String
  arguments : Option String := none
  before : List Char := []
  between : List Char := []
  after : List Char := []
  isName : Text.isIdentifier name = true := by decide
  areArguments : arguments.all (fun text => isArgumentList text.toList) = true := by decide
  areBlanks : (before ++ between ++ after).all Text.isBlank = true := by decide

/-- A path type: its segments but the last, and its last segment. -/
structure TypePath where
  initial : List PathSegment := []
  last : PathSegment

namespace PathSegment

/-- A segment up to its arguments. -/
def front (segment : PathSegment) : List Char :=
  segment.before ++ segment.name.toList ++ segment.between

/-- The letters of a segment. -/
def letters (segment : PathSegment) : List Char :=
  segment.front ++ (segment.arguments.elim [] String.toList ++ segment.after)

end PathSegment

namespace TypePath

def letters (path : TypePath) : List Char :=
  path.initial.flatMap (fun segment => segment.letters ++ [':', ':']) ++ path.last.letters

/-- A path type as a type reference. -/
def text (path : TypePath) : String :=
  String.ofList path.letters

/-- The first segment with arguments, or the last segment without any. -/
def reached (path : TypePath) : PathSegment :=
  (path.initial.find? (·.arguments.isSome)).getD path.last

end TypePath

/-! ## Words that end in a name -/

/-- The name at the end of a word, alone or behind a double colon, with blanks around it. -/
inductive EndsIn (name : String) : List Char → Prop
  | alone {before after : List Char} (blank : (before ++ after).all Text.isBlank = true) :
      EndsIn name (before ++ name.toList ++ after)
  | behind (front : List Char) {before after : List Char}
      (blank : (before ++ after).all Text.isBlank = true) :
      EndsIn name (front ++ ':' :: ':' :: (before ++ name.toList ++ after))

namespace EndsIn

variable {name : String} {word : List Char}

theorem append (ends : EndsIn name word) (front : List Char) :
    EndsIn name (front ++ ':' :: ':' :: word) := by
  cases ends with
  | alone blank =>
      exact behind front blank
  | @behind inner before after blank =>
      have further : EndsIn name
          ((front ++ ':' :: ':' :: inner) ++ ':' :: ':' :: (before ++ name.toList ++ after)) :=
        behind _ blank
      rwa [List.append_assoc, List.cons_append, List.cons_append] at further

/-- The last segment of such a word is the name. -/
theorem lastSegment_eq (ends : EndsIn name word) (identifier : Text.isIdentifier name = true) :
    Text.stripWord word ≠ [] ∧ lastSegment (Text.stripWord word) = name.toList := by
  have nonempty : name.toList ≠ [] := by
    intro empty
    rw [Text.isIdentifier, empty] at identifier
    cases identifier
  have inked := Text.not_isBlank_of_mem_identifier identifier
  have noColon : ':' ∉ name.toList := Text.not_mem_of_isIdentifierWord identifier (by decide)
  have noStop : '.' ∉ name.toList := Text.not_mem_of_isIdentifierWord identifier (by decide)
  cases ends with
  | @alone before after blank =>
      rw [List.all_append, Bool.and_eq_true, List.all_eq_true, List.all_eq_true] at blank
      have stripped : Text.stripWord ([] ++ name.toList ++ []) = name.toList :=
        Text.stripWord_of_kept (by simp) (by simp) nonempty inked
      rw [List.nil_append, List.append_nil] at stripped
      rw [Text.stripWord_of_kept blank.1 blank.2 nonempty inked, lastSegment,
        Text.afterLast_of_absent noColon, Text.afterLast_of_absent noStop, stripped]
      exact ⟨nonempty, rfl⟩
  | @behind front before after blank =>
      rw [List.all_append, Bool.and_eq_true, List.all_eq_true, List.all_eq_true] at blank
      have unmarked : ∀ mark, Text.isBlank mark = false → mark ∉ name.toList →
          mark ∉ before ++ name.toList := by
        intro mark markInked absent member
        rcases List.mem_append.mp member with inBefore | inName
        · rw [blank.1 mark inBefore] at markInked
          cases markInked
        · exact absent inName
      have stripped : Text.stripWord (before ++ name.toList ++ []) = name.toList :=
        Text.stripWord_of_kept blank.1 (by simp) nonempty inked
      rw [List.append_nil] at stripped
      have colonInked : Text.isBlank ':' = false := by
        decide
      have whole :=
        Text.stripWord_append_cons colonInked front (':' :: before) blank.2 nonempty inked
      rw [List.cons_append, List.cons_append] at whole
      rw [whole, lastSegment, Text.afterLast_append_pair (unmarked ':' colonInked noColon),
        Text.afterLast_of_absent (unmarked '.' (by decide) noStop), stripped]
      exact ⟨by simp, rfl⟩

end EndsIn

/-! ## What stands outside the arguments -/

/-- The letters of a word outside all brackets, some brackets being open in front of it. -/
def outside : Nat → List Char → List Char
  | _, [] => []
  | 0, '<' :: rest => outside 1 rest
  | 0, letter :: rest => letter :: outside 0 rest
  | opened + 1, '-' :: '>' :: rest => outside (opened + 1) rest
  | opened + 1, '<' :: rest => outside (opened + 2) rest
  | opened + 1, '>' :: rest => outside opened rest
  | opened + 1, _ :: rest => outside (opened + 1) rest

theorem outside_append_of_absent
    {word : List Char} (absent : '<' ∉ word) (rest : List Char) :
    outside 0 (word ++ rest) = word ++ outside 0 rest := by
  induction word with
  | nil =>
      rfl
  | cons letter others inductionHypothesis =>
      rw [List.mem_cons, not_or] at absent
      rw [List.cons_append, outside, inductionHypothesis absent.2, List.cons_append]
      intro opens
      exact absent.1 opens.symm

/-- A word that closes the brackets opened in front of it leaves nothing of itself. -/
theorem outside_append_of_closesAtEnd
    {opened : Nat} {word : List Char} (closes : closesAtEnd opened word = true)
    (rest : List Char) : outside (opened + 1) (word ++ rest) = outside 0 rest := by
  fun_induction closesAtEnd opened word with
  | case1 opened =>
      cases closes
  | case2 opened word inductionHypothesis =>
      rw [List.cons_append, List.cons_append, outside]
      exact inductionHypothesis closes
  | case3 opened word inductionHypothesis =>
      rw [List.cons_append, outside]
      exact inductionHypothesis closes
  | case4 word =>
      rw [List.isEmpty_iff.mp closes, List.singleton_append, outside]
  | case5 opened word inductionHypothesis =>
      rw [List.cons_append, outside]
      exact inductionHypothesis closes
  | case6 opened letter word notArrow notOpen notLast notClosed inductionHypothesis =>
      cases word with
      | nil =>
          cases closes
      | cons second others =>
          rw [List.cons_append, outside]
          · exact inductionHypothesis closes
          · -- What follows a dash belongs to the word, so it is still no arrow.
            intro behind isDash same
            exact notArrow others isDash (by rw [(List.cons.inj same).1])
          · exact notOpen
          · intro isClosed
            cases opened with
            | zero =>
                exact notLast rfl isClosed
            | succ further =>
                exact notClosed further rfl isClosed

theorem outside_append_of_isArgumentList
    {word : List Char} (arguments : isArgumentList word = true) (rest : List Char) :
    outside 0 (word ++ rest) = outside 0 rest := by
  unfold isArgumentList at arguments
  split at arguments
  next inner =>
    rw [List.cons_append, outside]
    exact outside_append_of_closesAtEnd arguments rest
  next =>
    cases arguments

namespace PathSegment

variable (segment : PathSegment)

theorem blanks :
    segment.before.all Text.isBlank = true ∧ segment.between.all Text.isBlank = true ∧
      segment.after.all Text.isBlank = true := by
  have together := segment.areBlanks
  rw [List.all_append, List.all_append, Bool.and_eq_true, Bool.and_eq_true] at together
  exact ⟨together.1.1, together.1.2, together.2⟩

theorem angle_notMem_front : '<' ∉ segment.front := by
  obtain ⟨before, between, _⟩ := segment.blanks
  have noName : '<' ∉ segment.name.toList :=
    Text.not_mem_of_isIdentifierWord segment.isName (by decide)
  intro member
  rw [front, List.mem_append, List.mem_append] at member
  rcases member with (inBefore | inName) | inBetween
  · exact absurd (List.all_eq_true.mp before _ inBefore) (by decide)
  · exact noName inName
  · exact absurd (List.all_eq_true.mp between _ inBetween) (by decide)

theorem angle_notMem_after : '<' ∉ segment.after := by
  intro member
  exact absurd (List.all_eq_true.mp segment.blanks.2.2 _ member) (by decide)

theorem endsIn_front : EndsIn segment.name segment.front := by
  obtain ⟨before, between, _⟩ := segment.blanks
  apply EndsIn.alone
  rw [List.all_append, before, between]
  rfl

theorem endsIn_front_after : EndsIn segment.name (segment.front ++ segment.after) := by
  obtain ⟨before, between, after⟩ := segment.blanks
  rw [front, List.append_assoc]
  apply EndsIn.alone
  rw [List.all_append, List.all_append, before, between, after]
  rfl

theorem outside_letters (rest : List Char) :
    outside 0 (segment.letters ++ rest) = segment.front ++ segment.after ++ outside 0 rest := by
  rw [letters, List.append_assoc, outside_append_of_absent segment.angle_notMem_front,
    List.append_assoc, List.append_assoc]
  have behind := outside_append_of_absent segment.angle_notMem_after rest
  have isList := segment.areArguments
  cases arguments : segment.arguments with
  | none =>
      rw [Option.elim_none, List.nil_append, behind]
  | some text =>
      rw [arguments, Option.all_some] at isList
      rw [Option.elim_some, outside_append_of_isArgumentList isList, behind]

variable {segment}

/-- Up to the first bracket, a segment with arguments is what stands in front of these. -/
theorem takeWhile_letters_of_arguments
    (arguments : segment.arguments.isSome = true) (rest : List Char) :
    (segment.letters ++ rest).takeWhile (· ≠ '<') = segment.front := by
  have noAngle : ∀ letter ∈ segment.front, decide (letter ≠ '<') = true := by
    intro letter member
    rw [decide_eq_true_eq]
    intro isAngle
    exact segment.angle_notMem_front (isAngle ▸ member)
  obtain ⟨text, isText⟩ := Option.isSome_iff_exists.mp arguments
  have isList := segment.areArguments
  rw [isText, Option.all_some] at isList
  rw [letters, isText, Option.elim_some, List.append_assoc, List.takeWhile_append_of_pos noAngle]
  unfold isArgumentList at isList
  split at isList
  next inner opened =>
    rw [opened]
    simp
  next =>
    cases isList

theorem letters_of_none (none : segment.arguments = none) :
    segment.letters = segment.front ++ segment.after := by
  rw [letters, none, Option.elim_none, List.nil_append]

theorem takeWhile_letters_of_none (none : segment.arguments = none) (rest : List Char) :
    (segment.letters ++ rest).takeWhile (· ≠ '<') =
      segment.front ++ segment.after ++ rest.takeWhile (· ≠ '<') := by
  rw [letters_of_none none]
  apply List.takeWhile_append_of_pos
  intro letter member
  rw [decide_eq_true_eq]
  intro isAngle
  rw [isAngle] at member
  rcases List.mem_append.mp member with inFront | inAfter
  · exact segment.angle_notMem_front inFront
  · exact segment.angle_notMem_after inAfter

end PathSegment

/-! ## The name that decides -/

namespace TypePath

theorem letters_cons (segment : PathSegment) (others : List PathSegment) (last : PathSegment) :
    letters ⟨segment :: others, last⟩ =
      segment.letters ++ ':' :: ':' :: letters ⟨others, last⟩ := by
  simp [letters]

/-- Without all arguments, a path ends in the name of its last segment. -/
theorem endsIn_outside_letters (path : TypePath) :
    EndsIn path.last.name (outside 0 path.letters) := by
  obtain ⟨initial, last⟩ := path
  induction initial with
  | nil =>
      have whole := last.outside_letters []
      rw [List.append_nil, outside, List.append_nil] at whole
      show EndsIn last.name (outside 0 last.letters)
      rw [whole]
      exact last.endsIn_front_after
  | cons segment others inductionHypothesis =>
      rw [letters_cons, PathSegment.outside_letters]
      exact inductionHypothesis.append _

/-- Without everything behind the first bracket, a path ends in the name of its first segment with
arguments. -/
theorem endsIn_takeWhile_letters (path : TypePath) :
    EndsIn path.reached.name (path.letters.takeWhile (· ≠ '<')) := by
  obtain ⟨initial, last⟩ := path
  induction initial with
  | nil =>
      show EndsIn last.name (last.letters.takeWhile (· ≠ '<'))
      rw [← List.append_nil last.letters]
      cases arguments : last.arguments with
      | none =>
          rw [PathSegment.takeWhile_letters_of_none arguments, List.takeWhile_nil, List.append_nil]
          exact last.endsIn_front_after
      | some text =>
          rw [PathSegment.takeWhile_letters_of_arguments (by rw [arguments]; rfl)]
          exact last.endsIn_front
  | cons segment others inductionHypothesis =>
      rw [letters_cons]
      cases arguments : segment.arguments with
      | none =>
          have further : reached ⟨segment :: others, last⟩ = reached ⟨others, last⟩ := by
            simp [reached, arguments]
          rw [further, PathSegment.takeWhile_letters_of_none arguments]
          exact inductionHypothesis.append _
      | some text =>
          have here : reached ⟨segment :: others, last⟩ = segment := by
            simp [reached, arguments]
          rw [here, PathSegment.takeWhile_letters_of_arguments (by rw [arguments]; rfl)]
          exact segment.endsIn_front

theorem isName_reached (path : TypePath) : Text.isIdentifier path.reached.name = true :=
  path.reached.isName

theorem reached_eq_last {path : TypePath}
    (bare : ∀ segment ∈ path.initial, segment.arguments = none) : path.reached = path.last := by
  have none : path.initial.find? (·.arguments.isSome) = none := by
    rw [List.find?_eq_none]
    intro segment member
    rw [bare segment member]
    simp
  rw [reached, none, Option.getD_none]

end TypePath

/-- A path type counts as an error type exactly if the name of its first segment with arguments is
listed, or of its last segment without any.  This is the last segment if no other has arguments; and
which name a path has last can be told from its text. -/
theorem isErrorLike_path (path : TypePath) :
    (∀ settings : Settings, settings.errorMatch = .lastSegment →
      (isErrorLike settings path.text = true ↔
        path.reached.name ∈ settings.errorTypeNames)) ∧
      ((∀ segment ∈ path.initial, segment.arguments = none) → path.reached = path.last) ∧
      ∀ other : TypePath, other.text = path.text → other.last.name = path.last.name := by
  refine ⟨?_, TypePath.reached_eq_last, ?_⟩
  · intro settings mode
    obtain ⟨nonempty, decides⟩ :=
      path.endsIn_takeWhile_letters.lastSegment_eq path.isName_reached
    have base : baseOf path.text =
        Text.stripWord (path.letters.takeWhile (· ≠ '<')) := by
      rw [baseOf, TypePath.text, String.toList_ofList]
    rw [← base] at nonempty decides
    have someBase : ¬ (baseOf path.text).isEmpty = true := by
      rwa [List.isEmpty_iff]
    simp only [isErrorLike, if_neg someBase, mode, decides, String.ofList_toList,
      List.contains_iff_mem]
  · intro other same
    have sameLetters : other.letters = path.letters := String.ofList_injective same
    have otherLast := (other.endsIn_outside_letters.lastSegment_eq other.last.isName).2
    rw [sameLetters, (path.endsIn_outside_letters.lastSegment_eq path.last.isName).2] at otherLast
    exact (String.toList_injective otherLast).symm

/-- An error type that belongs to a type with an argument. -/
def innerError : TypePath where
  initial := [{ name := "Foo", arguments := some "<T>" }]
  last := { name := "Error" }

/-- A type that belongs to an error type with an argument. -/
def errorKind : TypePath where
  initial := [{ name := "Error", arguments := some "<Vec<fn(u8) -> u8>>" }]
  last := { name := "Kind" }

/-- An error type with an argument. -/
def staticError : TypePath where
  initial := [{ name := "serde", after := [' '] }]
  last := { name := "Error", arguments := some "<'static>", before := [' '] }

/-- With the default settings, `Error` is listed.  A path with this last name does not count as an
error type, and one with another last name does. -/
theorem judged_by_inner_segment :
    ({} : Settings).errorMatch = .lastSegment ∧ ({} : Settings).errorTypeNames = ["Error"] ∧
      innerError.text = "Foo<T>::Error" ∧ innerError.last.name = "Error" ∧
      isErrorLike {} innerError.text = false ∧
      errorKind.text = "Error<Vec<fn(u8) -> u8>>::Kind" ∧ errorKind.last.name = "Kind" ∧
      isErrorLike {} errorKind.text = true := by
  decide

/-- Arguments of the last segment leave its name in charge, and those of an earlier one do not. -/
theorem isErrorLike_path_withArguments :
    isErrorLike {} innerError.text = false ∧ isErrorLike {} errorKind.text = true ∧
      staticError.reached = staticError.last ∧ isErrorLike {} staticError.text = true := by
  have bare : ∀ segment ∈ staticError.initial, segment.arguments = none := by
    intro segment member
    rw [List.mem_singleton.mp member]
  have last := (isErrorLike_path staticError).2.1 bare
  have notInner := (isErrorLike_path innerError).1 {} rfl
  have kind := (isErrorLike_path errorKind).1 {} rfl
  have static := (isErrorLike_path staticError).1 {} rfl
  refine ⟨?_, kind.mpr (by decide), last, static.mpr (by decide)⟩
  rw [Bool.eq_false_iff]
  exact mt notInner.mp (by decide)

end ErrorDerive
