import ErrorDerive.Proofs.Files.Walking

/-!
# Making folders

Making a folder with the missing folders above it adds folders and nothing else, whether it
succeeds or not.  It succeeds if only folders are in the way, and then the names lead to a folder.
-/

namespace ErrorDerive

namespace Tree

/-- The tree with a folder made at a location. -/
def withFolder (tree : Tree) (location : Location) : Except Breakdown Tree :=
  match tree.find? location with
  | some _ => refuse .alreadyThere
  | none => .ok (tree.put location .emptyFolder)

theorem judges_withFolder (tree : Tree) (location : Location) :
    Judges (tree.withFolder location) (tree.seen? location = none)
      (tree.put location .emptyFolder)
      (fun answer => tree.seen? location ≠ none ∧ answer = .files .alreadyThere) := by
  simp only [ne_eq, seen?_eq_none_iff]
  unfold withFolder
  cases tree.find? location with
  | none =>
      exact ⟨by simp, by simp, by simp⟩
  | some entry =>
      exact ⟨by simp, by simp [refuse], by simp⟩

theorem judges_makeFolder (tree : Tree) (around : List String) (name : String) :
    Judges (tree.makeFolder (around ++ [name]))
      (tree.Affords around name ∧ tree.seen? (collapse (around ++ [name])) = none)
      (tree.put (collapse (around ++ [name])) .emptyFolder)
      (fun answer => tree.PlaceFlaw around name answer ∨
        tree.Affords around name ∧ tree.seen? (collapse (around ++ [name])) ≠ none ∧
          answer = .files .alreadyThere) :=
  (tree.judges_place around name).bind tree.withFolder fun _ => tree.judges_withFolder _

theorem grows_of_makeFolder
    {tree made : Tree} {around : List String} {name : String}
    (success : tree.makeFolder (around ++ [name]) = .ok made) :
    tree.Grows made ∧ made.Passes (around ++ [name]) := by
  obtain ⟨⟨affords, free⟩, rfl⟩ := (tree.judges_makeFolder around name).eq_ok_iff.mp success
  have down : name ≠ ".." := by
    intro up
    rw [up] at free
    exact affords.passes.toReaches.seen?_up free
  have located : collapse (around ++ [name]) = collapse around ++ [name] := by
    rw [collapse_append_singleton, Location.after, if_neg down]
  rw [located] at free ⊢
  have grows := grows_put_emptyFolder affords.passes.folder free
  refine ⟨grows, ?_⟩
  have notFolder : tree.seen? (collapse around ++ [name]) ≠ some .folder := by simp [free]
  rw [passes_append_singleton, located, seen?_put Entry.isBare_emptyFolder affords.passes.folder
    notFolder, if_pos rfl]
  exact ⟨grows.passes affords.passes, affords.short, rfl⟩

theorem fst_orPresent (tree : Tree) (names : List String) (answer : Breakdown) :
    (tree.orPresent names answer).1 = tree := by
  unfold orPresent
  repeat' split
  all_goals rfl

theorem orPresent_of_passes
    {tree : Tree} {names : List String} (clean : namesFault? names = none)
    (passes : tree.Passes names) (refusal : FileRefusal) :
    (tree.orPresent names (.files refusal)).2 = .ok () := by
  have seen := passes.toReaches.seen?_eq
  rw [passes.folder] at seen
  cases stands : tree.standing (tree.wayAlong names) with
  | file present =>
      rw [stands] at seen
      cases seen
  | closed =>
      rw [stands] at seen
      cases seen
  | folder entries =>
      have found := (tree.status_eq_some_iff names _).mpr ⟨clean, passes.toReaches, stands.symm⟩
      simp [orPresent, found]

/-- What making folders comes to.  A folder that is there counts as made, whether it may be searched
or not. -/
structure Makes (tree : Tree) (names : List String) (outcome : Tree × Except Breakdown Unit) :
    Prop where
  grows : tree.Grows outcome.1
  completes : namesFault? names = none → (∀ name ∈ names, isLongName name = false) →
    tree.IsOpen names → outcome.2 = .ok () ∧ outcome.1.Passes names

/-- Where a folder cannot be made although nothing is missing, it is there or cannot be. -/
theorem makes_orPresent
    {tree : Tree} {around : List String} {name : String} {answer : Breakdown}
    (failure : tree.makeFolder (around ++ [name]) = .error answer)
    (nothingMissing : answer ≠ .files .notFound) :
    tree.Makes (around ++ [name]) (tree.orPresent (around ++ [name]) answer) where
  grows := by
    rw [fst_orPresent]
    exact Grows.refl tree
  completes := by
    intro clean short isOpen
    rcases (tree.judges_makeFolder around name).eq_error_iff.mp failure with
      flaw | ⟨affords, occupied, rfl⟩
    · exfalso
      cases flaw with
      | names faulty =>
          rw [clean] at faulty
          cases faulty
      | around _ flaw =>
          apply nothingMissing
          apply flaw.eq_notFound
          · intro front isFront _
            exact isOpen front (isFront.trans (List.prefix_append around [name]))
          · intro part member
            exact short part (List.mem_append_left [name] member)
      | last _ _ flaw _ =>
          have folder := isOpen around (List.prefix_append around [name])
          cases flaw with
          | notAFolder present isFile =>
              cases folder _ isFile
          | searchDenied isClosed =>
              cases folder _ isClosed
          | nameTooLong _ long =>
              rw [short name (by simp)] at long
              cases long
          | notFound _ _ _ =>
              exact nothingMissing rfl
    · have passes : tree.Passes (around ++ [name]) := by
        rw [passes_append_singleton]
        refine ⟨affords.passes, affords.short, ?_⟩
        obtain ⟨seen, isSeen⟩ := Option.ne_none_iff_exists'.mp occupied
        rw [isSeen, isOpen _ List.prefix_rfl seen isSeen]
      rw [fst_orPresent]
      exact ⟨orPresent_of_passes clean passes .alreadyThere, passes⟩

/-- In a folder that is there, nothing that is missing keeps another one from being made. -/
theorem Affords.makeFolder_ne_notFound
    {tree : Tree} {around : List String} {name : String} (affords : tree.Affords around name) :
    tree.makeFolder (around ++ [name]) ≠ .error (.files .notFound) := by
  have judgement := tree.judges_makeFolder around name
  by_cases free : tree.seen? (collapse (around ++ [name])) = none
  · rw [judgement.succeeds ⟨affords, free⟩]
    exact nofun
  · rw [judgement.fails _ (Or.inr ⟨affords, free, rfl⟩)]
    exact nofun

/-- The second attempt at a folder, after the folders above it were made. -/
theorem Makes.again
    {tree made : Tree} {around : List String} {name : String}
    (above : tree.Makes around (made, .ok ())) :
    tree.Makes (around ++ [name])
      (match made.makeFolder (around ++ [name]) with
        | .ok complete => (complete, .ok ())
        | .error (.files .notFound) => (made, refuse .notFound)
        | .error answer => made.orPresent (around ++ [name]) answer) := by
  cases second : made.makeFolder (around ++ [name]) with
  | ok complete =>
      obtain ⟨grows, passes⟩ := grows_of_makeFolder second
      exact ⟨above.grows.trans grows, fun _ _ _ => ⟨rfl, passes⟩⟩
  | error answer =>
      by_cases missing : answer = .files .notFound
      · subst missing
        refine ⟨above.grows, ?_⟩
        intro clean short isOpen
        obtain ⟨_, passes⟩ := above.completes (namesFault?_of_append clean)
          (fun part member => short part (List.mem_append_left [name] member))
          (isOpen.of_prefix (List.prefix_append around [name]))
        have affords : made.Affords around name := ⟨clean, passes, short name (by simp)⟩
        exact absurd second affords.makeFolder_ne_notFound
      · have settled := makes_orPresent second missing
        have same : (match (Except.error answer : Except Breakdown Tree) with
            | .ok complete => (complete, .ok ())
            | .error (.files .notFound) => (made, refuse .notFound)
            | .error answer => made.orPresent (around ++ [name]) answer) =
            made.orPresent (around ++ [name]) answer := by
          split
          · contradiction
          · simp_all
          · simp_all
        rw [same]
        refine ⟨above.grows.trans settled.grows, ?_⟩
        intro clean short isOpen
        exact settled.completes clean short ((above.grows.isOpen_iff _).mpr isOpen)

theorem makes_makeFoldersUp (tree : Tree) (upward : List String) :
    tree.Makes upward.reverse (tree.makeFoldersUp upward) := by
  induction upward with
  | nil =>
      refine ⟨Grows.refl tree, ?_⟩
      intro _ _ _
      exact ⟨rfl, tree.reaches_nil, tree.seen?_top⟩
  | cons name above inductionHypothesis =>
      -- The names come last one first, so the hypothesis is about the folders above.
      simp only [makeFoldersUp, List.reverse_cons]
      split
      · next made first =>
          obtain ⟨grows, passes⟩ := grows_of_makeFolder first
          exact ⟨grows, fun _ _ _ => ⟨rfl, passes⟩⟩
      · next missing =>
          split
          · next made answer failure =>
              rw [failure] at inductionHypothesis
              refine ⟨inductionHypothesis.grows, ?_⟩
              intro clean short isOpen
              exfalso
              obtain ⟨completes, _⟩ := inductionHypothesis.completes (namesFault?_of_append clean)
                (fun part member => short part (List.mem_append_left [name] member))
                (isOpen.of_prefix (List.prefix_append above.reverse [name]))
              cases completes
          · next made success =>
              rw [success] at inductionHypothesis
              exact inductionHypothesis.again
      · next answer nothingMissing failure =>
          exact makes_orPresent failure fun missing => nothingMissing (missing ▸ rfl)

theorem makes_makeFolders (tree : Tree) (names : List String) :
    tree.Makes names (tree.makeFolders names) := by
  have makes := tree.makes_makeFoldersUp names.reverse
  rw [List.reverse_reverse] at makes
  exact makes

end Tree

end ErrorDerive
