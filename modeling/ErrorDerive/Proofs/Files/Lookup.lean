import ErrorDerive.Loading.Settings
import ErrorDerive.Proofs.Files.Walking

/-!
# Looking for a file at a location

Looking for a file tells whether one is there, unless the path is too long or leads through folders
to a name that is, or to a folder that may not be searched.

* `Tree.Blocks` says that a location cannot be looked for, and why;
* `Workplace.fileAt?_eq_error_iff` and `Workplace.fileAt?_of_not_blocks` are what looking comes to;
* `Tree.Blocks.deeper` says that a name that cannot be looked for in a folder cannot be looked for
  further down either.
-/

namespace ErrorDerive

theorem not_mem_collapse (names : List String) : ".." ∉ collapse names := by
  induction names using List.reverseRecOn with
  | nil =>
      exact List.not_mem_nil
  | append_singleton around name inductionHypothesis =>
      rw [collapse_append_singleton, Location.after]
      by_cases up : name = ".."
      · rw [if_pos up]
        intro member
        exact inductionHypothesis ((List.dropLast_sublist _).subset member)
      · rw [if_neg up, List.mem_append, not_or, List.mem_singleton]
        exact ⟨inductionHypothesis, Ne.symm up⟩

theorem mem_of_mem_collapse {names : List String} {name : String}
    (member : name ∈ collapse names) : name ∈ names := by
  induction names using List.reverseRecOn with
  | nil =>
      exact member
  | append_singleton around last inductionHypothesis =>
      rw [collapse_append_singleton, Location.after] at member
      rw [List.mem_append]
      by_cases up : last = ".."
      · rw [if_pos up] at member
        exact Or.inl (inductionHypothesis ((List.dropLast_sublist _).subset member))
      · rw [if_neg up] at member
        exact (List.mem_append.mp member).imp_left inductionHypothesis

theorem not_mem_settle (names : List String) : ".." ∉ settle names :=
  not_mem_collapse names

theorem namesFault?_settle {names : List String} (clean : namesFault? names = none) :
    namesFault? (settle names) = none :=
  Tree.namesFault?_of_subset clean fun _ member => mem_of_mem_collapse member

/-! ## The length of a path -/

namespace Text

/-- The number of bytes of letters, the first of them after a mark or not. -/
def bytesFrom : Bool → List Char → Nat
  | _, [] => 0
  | true, letter :: rest => (Char.ofNat (markedCode letter)).utf8Size + bytesFrom false rest
  | false, letter :: rest =>
    if letter = mark then bytesFrom true rest
    else (Char.ofNat letter.toNat).utf8Size + bytesFrom false rest

theorem foldl_codesFrom (afterMark : Bool) (seen : List Nat) (letters : List Char) :
    ((codesFrom afterMark seen letters).map fun code => (Char.ofNat code).utf8Size).foldl
        (· + ·) 0 =
      (seen.reverse.map fun code => (Char.ofNat code).utf8Size).foldl (· + ·) 0 +
        bytesFrom afterMark letters := by
  induction letters generalizing afterMark seen with
  | nil =>
      cases afterMark <;> rfl
  | cons letter rest inductionHypothesis =>
      have oneMore : ∀ code,
          ((code :: seen).reverse.map fun code => (Char.ofNat code).utf8Size).foldl (· + ·) 0 =
            (seen.reverse.map fun code => (Char.ofNat code).utf8Size).foldl (· + ·) 0 +
              (Char.ofNat code).utf8Size := by
        intro code
        rw [List.reverse_cons, List.map_append, List.foldl_append]
        rfl
      cases afterMark with
      | true =>
          rw [codesFrom, if_pos rfl, inductionHypothesis, oneMore, bytesFrom, Nat.add_assoc]
      | false =>
          rw [codesFrom, if_neg Bool.false_ne_true, bytesFrom]
          by_cases marks : letter = mark
          · rw [if_pos marks, if_pos marks, inductionHypothesis]
          · rw [if_neg marks, if_neg marks, inductionHypothesis, oneMore, Nat.add_assoc]

theorem byteCount_eq_bytesFrom (text : String) :
    byteCount text = bytesFrom false text.toList := by
  rw [byteCount, codePoints, foldl_codesFrom]
  exact Nat.zero_add _

/-- A slash ends what a mark before it may have begun, so the letters after it count for
themselves. -/
theorem bytesFrom_append_slash (afterMark : Bool) (front rest : List Char) :
    bytesFrom afterMark (front ++ '/' :: rest) =
      bytesFrom afterMark (front ++ ['/']) + bytesFrom false rest := by
  induction front generalizing afterMark with
  | nil =>
      have plain : '/' ≠ mark := by decide
      cases afterMark with
      | true => rfl
      | false => simp [bytesFrom, plain]
  | cons letter others inductionHypothesis =>
      cases afterMark with
      | true =>
          simp only [List.cons_append, bytesFrom, inductionHypothesis, Nat.add_assoc]
      | false =>
          simp only [List.cons_append, bytesFrom, inductionHypothesis]
          split
          · rfl
          · rw [Nat.add_assoc]

end Text

/-- The text of a path from the top: every name behind a slash. -/
theorem toList_text_pathOf {location : Location} (deeper : location ≠ []) :
    (pathOf location).text.toList = location.flatMap fun name => '/' :: name.toList := by
  have spelled : (pathOf location).text = "/" ++ String.intercalate "/" location := rfl
  rw [spelled, String.toList_append, String.toList_intercalate]
  induction location with
  | nil =>
      exact absurd rfl deeper
  | cons name rest inductionHypothesis =>
      cases rest with
      | nil =>
          simp [List.intercalate]
      | cons second others =>
          have onward := inductionHypothesis (List.cons_ne_nil second others) rfl
          rw [List.flatMap_cons, ← onward]
          simp [List.intercalate]

/-- The path of a name is not longer than the path of the same name further down. -/
theorem byteCount_pathOf_le (above later : Location) (name : String) :
    Text.byteCount (pathOf (above ++ [name])).text ≤
      Text.byteCount (pathOf (above ++ later ++ [name])).text := by
  have last : [name].flatMap (fun name => '/' :: name.toList) = '/' :: name.toList := by simp
  rw [Text.byteCount_eq_bytesFrom, Text.byteCount_eq_bytesFrom,
    toList_text_pathOf (by simp), toList_text_pathOf (by simp), List.flatMap_append,
    List.flatMap_append, List.flatMap_append, last, Text.bytesFrom_append_slash,
    Text.bytesFrom_append_slash false (_ ++ _)]
  apply Nat.add_le_add_right
  cases later with
  | nil =>
      simp
  | cons first others =>
      rw [List.flatMap_cons, List.append_assoc, List.cons_append, List.cons_append,
        Text.bytesFrom_append_slash false _ (_ ++ ['/'])]
      exact Nat.le_add_right _ _

/-! ## Files -/

/-- Why a location cannot be looked for: its path is too long, or following it meets a name that is
too long or a folder that may not be searched. -/
inductive Tree.Blocks (tree : Tree) (location : Location) : Breakdown → Prop
  | whole : (pathOf location).isTooLong = true → Blocks tree location (.files .nameTooLong)
  | onTheWay (cause : Breakdown) :
      (pathOf location).isTooLong = false → tree.FollowFlaw location cause →
      cause = .files .nameTooLong ∨ cause = .files .searchDenied → Blocks tree location cause

namespace Tree

theorem collapse_of_isFront {location front : Location} (noDots : ".." ∉ location)
    (isFront : front <+: location) : collapse front = front := by
  apply collapse_of_not_mem
  intro member
  exact noDots (isFront.subset member)

/-- Where the way to a location ends early, nothing is seen there. -/
theorem FollowFlaw.seen?_eq_none
    {tree : Tree} {location : Location} {answer : Breakdown} (noDots : ".." ∉ location)
    (flaw : tree.FollowFlaw location answer) (different : answer ≠ .files .nameTooLong) :
    tree.seen? location = none := by
  obtain ⟨around, name, later, split, _, stepFlaw⟩ := flaw
  by_contra something
  have folder : tree.seen? around = some .folder := by
    rw [split] at something
    exact seen?_eq_folder_of_append something (List.cons_ne_nil name later)
  have here : collapse around = around :=
    collapse_of_isFront noDots (split ▸ List.prefix_append around (name :: later))
  cases stepFlaw with
  | notAFolder present isFile =>
      rw [here, folder] at isFile
      cases isFile
  | searchDenied isClosed =>
      rw [here, folder] at isClosed
      cases isClosed
  | nameTooLong _ _ =>
      exact different rfl
  | notFound _ _ nothing =>
      have whole : location = around ++ [name] ++ later := by simp [split]
      have further : collapse (around ++ [name]) = around ++ [name] :=
        collapse_of_isFront noDots (whole ▸ List.prefix_append (around ++ [name]) later)
      rw [further] at nothing
      rw [whole] at something
      rcases List.eq_nil_or_concat later with ends | ⟨front, last, longer⟩
      · rw [ends, List.append_nil] at something
        exact something nothing
      · have inside := seen?_eq_folder_of_append something (by simp [longer])
        rw [nothing] at inside
        cases inside

/-- A name that cannot be looked for cannot be looked for further down. -/
theorem Blocks.deeper
    {tree : Tree} {above : Location} {name : String} {cause : Breakdown}
    (blocks : tree.Blocks (above ++ [name]) cause) (short : isLongName name = false)
    (later : Location) : ∃ cause, tree.Blocks (above ++ later ++ [name]) cause := by
  by_cases fits : (pathOf (above ++ later ++ [name])).isTooLong = true
  · exact ⟨_, .whole fits⟩
  cases blocks with
  | whole tooLong =>
      rw [Path.isTooLong, decide_eq_true_eq] at tooLong fits
      exact absurd (Nat.lt_of_lt_of_le tooLong (byteCount_pathOf_le above later name)) fits
  | onTheWay _ _ flaw named =>
      refine ⟨cause, .onTheWay cause (eq_false_of_ne_true fits) ?_ named⟩
      obtain ⟨around, next, rest, split, reaches, flaw⟩ := flaw
      rcases List.eq_nil_or_concat rest with ends | ⟨front, last, longer⟩
      · -- Only a folder that may not be searched stops the last step, and then every other one.
        rw [ends] at split
        have same : above = around := (List.append_inj' split rfl).1
        have sameName : name = next := (List.cons.inj (List.append_inj' split rfl).2).1
        obtain ⟨first, others, onward⟩ :=
          List.exists_cons_of_ne_nil (List.append_ne_nil_of_right_ne_nil later
            (List.cons_ne_nil name []))
        have whole : above ++ later ++ [name] = around ++ first :: others := by
          rw [List.append_assoc, onward, same]
        cases flaw with
        | searchDenied isClosed =>
            exact ⟨around, first, others, whole, reaches, .searchDenied isClosed⟩
        | nameTooLong _ isLong =>
            rw [← sameName, short] at isLong
            cases isLong
        | notAFolder _ _ =>
            rcases named with impossible | impossible <;> cases impossible
        | notFound _ _ _ =>
            rcases named with impossible | impossible <;> cases impossible
      · have isFront : above = around ++ next :: front := by
          rw [longer, List.concat_eq_append] at split
          have regrouped : above ++ [name] = (around ++ next :: front) ++ [last] := by simp [split]
          exact (List.append_inj' regrouped rfl).1
        exact ⟨around, next, front ++ later ++ [name], by simp [isFront], reaches, flaw⟩

/-- Only the folders on the way decide. -/
theorem Blocks.of_folders
    {tree other : Tree} {location : Location} {cause : Breakdown}
    (blocks : tree.Blocks location cause)
    (folders : ∀ around, tree.HasFolder around → other.seen? around = tree.seen? around) :
    other.Blocks location cause := by
  cases blocks with
  | whole tooLong =>
      exact .whole tooLong
  | onTheWay _ fits flaw named =>
      refine .onTheWay cause fits ?_ named
      obtain ⟨around, next, rest, split, reaches, flaw⟩ := flaw
      have sameFolder : ∀ front, tree.seen? front = some .folder →
          other.seen? front = some .folder := by
        intro front folder
        rw [folders front (Or.inl folder), folder]
      have otherReaches : other.seen? (collapse around) ≠ none → other.Reaches around := by
        intro ends
        refine ⟨reaches.short, ?_, ends⟩
        intro front isFront different
        exact sameFolder _ (reaches.folders front isFront different)
      cases flaw with
      | searchDenied isClosed =>
          have otherClosed := (folders _ (Or.inr isClosed)).trans isClosed
          exact ⟨around, next, rest, split, otherReaches (by simp [otherClosed]),
            .searchDenied otherClosed⟩
      | nameTooLong folder isLong =>
          have otherFolder := sameFolder _ folder
          exact ⟨around, next, rest, split, otherReaches (by simp [otherFolder]),
            .nameTooLong otherFolder isLong⟩
      | notAFolder _ _ =>
          rcases named with impossible | impossible <;> cases impossible
      | notFound _ _ _ =>
          rcases named with impossible | impossible <;> cases impossible

end Tree

namespace Workplace

variable {workplace : Workplace} {location : Location}

theorem status_pathOf (clean : namesFault? location = none) :
    workplace.status (pathOf location) =
      if (pathOf location).isTooLong = true then refuse .nameTooLong
      else workplace.tree.status location := by
  rw [status, if_neg (by simp [pathOf, clean])]
  rfl

theorem fileAt?_eq_error_iff_status {path : Path} {cause : Breakdown} :
    workplace.fileAt? path = .error cause ↔ workplace.status path = .error cause := by
  unfold fileAt?
  cases workplace.status path with
  | error other =>
      constructor <;> intro same <;> cases same <;> rfl
  | ok found? =>
      rcases found? with _ | _ | _ | _ <;> exact iff_of_false nofun nofun

theorem fileAt?_eq_error_iff (clean : namesFault? location = none) {cause : Breakdown} :
    workplace.fileAt? (pathOf location) = .error cause ↔
      workplace.tree.Blocks location cause := by
  rw [fileAt?_eq_error_iff_status, status_pathOf clean]
  by_cases tooLong : (pathOf location).isTooLong = true
  · rw [if_pos tooLong]
    constructor
    · intro refused
      cases refused
      exact .whole tooLong
    · intro blocks
      cases blocks with
      | whole _ =>
          rfl
      | onTheWay _ fits _ _ =>
          rw [fits] at tooLong
          cases tooLong
  · rw [if_neg tooLong, Tree.status_eq_error_iff]
    constructor
    · intro conditions
      exact .onTheWay cause (eq_false_of_ne_true tooLong) conditions.2.1 conditions.2.2
    · intro blocks
      cases blocks with
      | whole long =>
          exact absurd long tooLong
      | onTheWay _ _ flaw named =>
          exact ⟨clean, flaw, named⟩

/-- Looking for a file tells what is seen at its location. -/
theorem fileAt?_of_not_blocks (clean : namesFault? location = none) (noDots : ".." ∉ location)
    (passes : ∀ cause, ¬ workplace.tree.Blocks location cause) :
    workplace.fileAt? (pathOf location) = .ok (workplace.tree.file? location) := by
  have judgement := workplace.tree.judges_follow location
  have fits : ¬ (pathOf location).isTooLong = true := fun tooLong => passes _ (.whole tooLong)
  rw [fileAt?, status_pathOf clean, if_neg fits]
  rcases judgement.decides with reaches | ⟨answer, flaw⟩
  · have found := (workplace.tree.status_eq_some_iff location _).mpr ⟨clean, reaches, rfl⟩
    have seen := reaches.seen?_eq
    rw [Tree.collapse_of_isFront noDots (List.prefix_refl location)] at seen
    rw [found]
    cases stands : workplace.tree.standing (workplace.tree.wayAlong location) with
    | file present =>
        rw [stands] at seen
        rw [Tree.file?_eq_some_iff.mpr seen]
        rfl
    | folder entries =>
        rw [stands] at seen
        rw [Tree.file?_eq_none_of_hasFolder (Or.inl seen)]
        rfl
    | closed =>
        rw [stands] at seen
        rw [Tree.file?_eq_none_of_hasFolder (Or.inr seen)]
        rfl
  · have unblocked : ∀ cause, cause = .files .nameTooLong ∨ cause = .files .searchDenied →
        answer ≠ cause := by
      intro cause named same
      exact passes cause (.onTheWay cause (eq_false_of_ne_true fits) (same ▸ flaw) named)
    have nothing := flaw.seen?_eq_none noDots (unblocked _ (Or.inl rfl))
    have noFile : workplace.tree.file? location = none := by
      rw [Tree.file?, Tree.seen?_eq_none_iff.mp nothing]
    rw [noFile, Tree.status, Tree.walk_of_clean clean, judgement.fails answer flaw]
    obtain ⟨_, _, _, _, _, stepFlaw⟩ := flaw
    cases stepFlaw with
    | notAFolder _ _ => rfl
    | notFound _ _ _ => rfl
    | searchDenied _ => exact absurd rfl (unblocked _ (Or.inr rfl))
    | nameTooLong _ _ => exact absurd rfl (unblocked _ (Or.inl rfl))

end Workplace

end ErrorDerive
