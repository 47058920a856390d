import ErrorDerive.Proofs.Files.Seen
import ErrorDerive.Proofs.Judgement
import Mathlib.Data.List.Induction

/-!
# Where a row of names leads

Two dots lead to the folder around, so a row of names collapses to a location without a look at
the tree.  Following the names gets there exactly if a folder is seen at every stop on the way.

* `collapse` is that location;
* `Tree.Reaches` and `Tree.Passes` say that the names lead to something, or to a folder;
* `Tree.judges_follow` and `Tree.judges_place` are what following the names comes to.
-/

namespace ErrorDerive

/-- A location after one more name. -/
def Location.after (location : Location) (name : String) : Location :=
  if name = ".." then location.dropLast else location ++ [name]

/-- The location to which a row of names leads from the top. -/
def collapse (names : List String) : Location :=
  names.foldl Location.after []

theorem collapse_append_singleton (around : List String) (name : String) :
    collapse (around ++ [name]) = (collapse around).after name := by
  rw [collapse, List.foldl_append]
  rfl

theorem collapse_of_not_mem {names : List String} (noDots : ".." ∉ names) :
    collapse names = names := by
  induction names using List.reverseRecOn with
  | nil =>
      rfl
  | append_singleton around name inductionHypothesis =>
      rw [List.mem_append, List.mem_singleton, not_or] at noDots
      rw [collapse_append_singleton, inductionHypothesis noDots.1, Location.after,
        if_neg (Ne.symm noDots.2)]

theorem ne_concat_of_isFront
    {front around : List String} (isFront : front <+: around) (name : String) :
    front ≠ around ++ [name] := by
  intro same
  have lengths := isFront.length_le
  rw [same, List.length_append, List.length_singleton] at lengths
  omega

namespace Tree

/-- Every name has a length that names may have, and everything that stands on the way to the last
name is a folder. -/
structure Reaches (tree : Tree) (names : List String) : Prop where
  short : ∀ name ∈ names, isLongName name = false
  folders : ∀ around, around <+: names → around ≠ names →
    tree.seen? (collapse around) = some .folder
  ends : tree.seen? (collapse names) ≠ none

/-- The names lead to a folder. -/
structure Passes (tree : Tree) (names : List String) : Prop extends tree.Reaches names where
  folder : tree.seen? (collapse names) = some .folder

/-- Why one more name cannot be followed. -/
inductive StepFlaw (tree : Tree) (around : List String) (name : String) : Breakdown → Prop
  | notAFolder (present : File) :
      tree.seen? (collapse around) = some (.file present) →
      StepFlaw tree around name (.files .notAFolder)
  | searchDenied :
      tree.seen? (collapse around) = some .closed →
      StepFlaw tree around name (.files .searchDenied)
  | nameTooLong :
      tree.seen? (collapse around) = some .folder → isLongName name = true →
      StepFlaw tree around name (.files .nameTooLong)
  | notFound :
      tree.seen? (collapse around) = some .folder → isLongName name = false →
      tree.seen? (collapse (around ++ [name])) = none →
      StepFlaw tree around name (.files .notFound)

/-- Why the names cannot be followed: one of them cannot, after those before it. -/
def FollowFlaw (tree : Tree) (names : List String) (answer : Breakdown) : Prop :=
  ∃ around name later, names = around ++ name :: later ∧ tree.Reaches around ∧
    tree.StepFlaw around name answer

theorem reaches_nil (tree : Tree) : tree.Reaches [] where
  short := by simp
  folders := by
    intro around isFront different
    exact absurd (List.prefix_nil.mp isFront) different
  ends := by
    rw [collapse, List.foldl_nil, seen?_top]
    simp

theorem reaches_append_singleton (tree : Tree) (around : List String) (name : String) :
    tree.Reaches (around ++ [name]) ↔ tree.Reaches around ∧
      tree.seen? (collapse around) = some .folder ∧ isLongName name = false ∧
        tree.seen? (collapse (around ++ [name])) ≠ none := by
  constructor
  · intro reaches
    have folder := reaches.folders around (List.prefix_append around [name]) (by simp)
    refine ⟨⟨?_, ?_, by simp [folder]⟩, folder, reaches.short name (by simp), reaches.ends⟩
    · intro other member
      exact reaches.short other (List.mem_append_left [name] member)
    · intro front isFront different
      exact reaches.folders front (isFront.trans (List.prefix_append around [name]))
        (ne_concat_of_isFront isFront name)
  · intro conditions
    obtain ⟨reaches, folder, short, ends⟩ := conditions
    refine ⟨?_, ?_, ends⟩
    · intro other member
      rcases List.mem_append.mp member with earlier | last
      · exact reaches.short other earlier
      · rw [List.mem_singleton.mp last]
        exact short
    · intro front isFront different
      rcases List.prefix_concat_iff.mp isFront with whole | earlier
      · exact absurd whole different
      · by_cases same : front = around
        · rw [same]
          exact folder
        · exact reaches.folders front earlier same

theorem passes_append_singleton (tree : Tree) (around : List String) (name : String) :
    tree.Passes (around ++ [name]) ↔ tree.Passes around ∧ isLongName name = false ∧
      tree.seen? (collapse (around ++ [name])) = some .folder := by
  constructor
  · intro passes
    obtain ⟨reaches, folder, short, _⟩ :=
      (tree.reaches_append_singleton around name).mp passes.toReaches
    exact ⟨⟨reaches, folder⟩, short, passes.folder⟩
  · intro conditions
    obtain ⟨passes, short, folder⟩ := conditions
    have ends : tree.seen? (collapse (around ++ [name])) ≠ none := by simp [folder]
    exact ⟨(tree.reaches_append_singleton around name).mpr
      ⟨passes.toReaches, passes.folder, short, ends⟩, folder⟩

/-- Growing keeps what names lead to. -/
theorem Grows.passes
    {tree grown : Tree} (grows : tree.Grows grown) {names : List String}
    (passes : tree.Passes names) : grown.Passes names := by
  have folder := grows.folder passes.folder
  refine ⟨⟨passes.short, ?_, by simp [folder]⟩, folder⟩
  intro around isFront different
  exact grows.folder (passes.folders around isFront different)

/-- Whatever is seen at a stop on the way, the last one included, is a folder to be searched. -/
def IsOpen (tree : Tree) (names : List String) : Prop :=
  ∀ around, around <+: names → ∀ seen, tree.seen? (collapse around) = some seen → seen = .folder

theorem IsOpen.of_prefix
    {tree : Tree} {names front : List String} (isOpen : tree.IsOpen names)
    (isFront : front <+: names) : tree.IsOpen front := by
  intro around isAround
  exact isOpen around (isAround.trans isFront)

theorem Grows.isOpen_iff
    {tree grown : Tree} (grows : tree.Grows grown) (names : List String) :
    grown.IsOpen names ↔ tree.IsOpen names := by
  constructor
  · intro isOpen around isFront seen isSeen
    rcases grows (collapse around) with same | ⟨nothing, _⟩
    · exact isOpen around isFront seen (same.trans isSeen)
    · rw [nothing] at isSeen
      cases isSeen
  · intro isOpen around isFront seen isSeen
    rcases grows (collapse around) with same | ⟨_, made⟩
    · exact isOpen around isFront seen (same.symm.trans isSeen)
    · rw [made] at isSeen
      exact (Option.some.inj isSeen).symm

theorem Passes.isOpen
    {tree : Tree} {names : List String} (passes : tree.Passes names) : tree.IsOpen names := by
  intro around isFront seen isSeen
  have folder : tree.seen? (collapse around) = some .folder := by
    by_cases whole : around = names
    · rw [whole]
      exact passes.folder
    · exact passes.folders around isFront whole
  exact Option.some.inj (isSeen.symm.trans folder)

/-- Where only folders are in the way and no name is too long, only a missing folder can be the
reason. -/
theorem FollowFlaw.eq_notFound
    {tree : Tree} {names : List String} {answer : Breakdown} (flaw : tree.FollowFlaw names answer)
    (isOpen : ∀ front, front <+: names → front ≠ names → ∀ seen,
      tree.seen? (collapse front) = some seen → seen = .folder)
    (short : ∀ name ∈ names, isLongName name = false) :
    answer = .files .notFound := by
  obtain ⟨front, next, later, split, _, flaw⟩ := flaw
  have isOpen := isOpen front (split ▸ List.prefix_append front _) (by simp [split])
  cases flaw with
  | notAFolder present isFile =>
      cases isOpen _ isFile
  | searchDenied isClosed =>
      cases isOpen _ isClosed
  | nameTooLong _ long =>
      rw [short next (by simp [split])] at long
      cases long
  | notFound _ _ _ =>
      rfl

/-! ## Ways -/

/-- The entry at the end of a way. -/
def standing (tree : Tree) (way : Way) : Entry :=
  (way.head?.map Prod.snd).getD tree.top

/-- A way after one more name. -/
def advance (tree : Tree) (way : Way) (name : String) : Way :=
  if name = ".." then way.tail
  else (name, (tree.find? (locationOf way ++ [name])).getD default) :: way

/-- The way along a row of names. -/
def wayAlong (tree : Tree) (names : List String) : Way :=
  names.foldl tree.advance []

/-- The entries of a way stand in the tree. -/
def Traces (tree : Tree) : Way → Prop
  | [] => True
  | (name, entry) :: around =>
    tree.find? (locationOf around ++ [name]) = some entry ∧ tree.Traces around

theorem locationOf_cons (name : String) (entry : Entry) (around : Way) :
    locationOf ((name, entry) :: around) = locationOf around ++ [name] := by
  simp [locationOf]

theorem locationOf_tail (way : Way) : locationOf way.tail = (locationOf way).dropLast := by
  cases way with
  | nil =>
      rfl
  | cons last around =>
      rw [List.tail_cons, locationOf_cons, List.dropLast_concat]

theorem wayAlong_append_singleton (tree : Tree) (around : List String) (name : String) :
    tree.wayAlong (around ++ [name]) = tree.advance (tree.wayAlong around) name := by
  rw [wayAlong, List.foldl_append]
  rfl

theorem locationOf_wayAlong (tree : Tree) (names : List String) :
    locationOf (tree.wayAlong names) = collapse names := by
  induction names using List.reverseRecOn with
  | nil =>
      rfl
  | append_singleton around name inductionHypothesis =>
      rw [wayAlong_append_singleton, collapse_append_singleton, advance, Location.after]
      by_cases up : name = ".."
      · rw [if_pos up, if_pos up, locationOf_tail, inductionHypothesis]
      · rw [if_neg up, if_neg up, locationOf_cons, inductionHypothesis]

theorem Traces.find?_eq
    {tree : Tree} {way : Way} (traces : tree.Traces way) :
    tree.find? (locationOf way) = some (tree.standing way) := by
  cases way with
  | nil =>
      rfl
  | cons last around =>
      rw [locationOf_cons]
      exact traces.1

theorem Traces.tail {tree : Tree} {way : Way} (traces : tree.Traces way) :
    tree.Traces way.tail := by
  cases way with
  | nil =>
      exact traces
  | cons last around =>
      exact traces.2

theorem Reaches.traces
    {tree : Tree} {names : List String} (reaches : tree.Reaches names) :
    tree.Traces (tree.wayAlong names) := by
  induction names using List.reverseRecOn with
  | nil =>
      trivial
  | append_singleton around name inductionHypothesis =>
      obtain ⟨earlier, _, _, ends⟩ := (tree.reaches_append_singleton around name).mp reaches
      have traces := inductionHypothesis earlier
      rw [wayAlong_append_singleton, advance]
      by_cases up : name = ".."
      · rw [if_pos up]
        exact traces.tail
      · rw [collapse_append_singleton, Location.after, if_neg up, ← tree.locationOf_wayAlong,
          Ne, seen?_eq_none_iff] at ends
        obtain ⟨entry, found⟩ := Option.ne_none_iff_exists'.mp ends
        rw [if_neg up, found]
        exact ⟨found, traces⟩

/-- What is seen where the names lead is what stands at the end of their way. -/
theorem Reaches.seen?_eq
    {tree : Tree} {names : List String} (reaches : tree.Reaches names) :
    tree.seen? (collapse names) = some (tree.standing (tree.wayAlong names)).seen := by
  rw [seen?, ← tree.locationOf_wayAlong, reaches.traces.find?_eq]
  rfl

/-! ## Following names -/

theorem step_eq (tree : Tree) (way : Way) (name : String) :
    tree.step way name =
      match tree.standing way with
      | .file _ => refuse .notAFolder
      | .closed => refuse .searchDenied
      | .folder entries =>
        if name = ".." then .ok way.tail
        else if isLongName name then refuse .nameTooLong
        else match entries.lookup name with
          | some entry => .ok ((name, entry) :: way)
          | none => refuse .notFound :=
  rfl

theorem Reaches.seen?_up
    {tree : Tree} {around : List String} (reaches : tree.Reaches around) :
    tree.seen? (collapse (around ++ [".."])) ≠ none := by
  have above := reaches.traces.tail.find?_eq
  rw [locationOf_tail, locationOf_wayAlong] at above
  rw [collapse_append_singleton, Location.after, if_pos rfl, Ne, seen?_eq_none_iff, above]
  simp

/-- What a folder at the end of the way lists is what stands in the tree. -/
theorem Reaches.find?_after
    {tree : Tree} {around : List String} (reaches : tree.Reaches around)
    {entries : List (String × Entry)}
    (folder : tree.standing (tree.wayAlong around) = .folder entries)
    {name : String} (down : name ≠ "..") :
    tree.find? (collapse (around ++ [name])) = entries.lookup name := by
  have found := reaches.traces.find?_eq
  rw [locationOf_wayAlong, folder, find?] at found
  rw [collapse_append_singleton, Location.after, if_neg down, find?, Entry.find?_append, found,
    Option.bind_some, Entry.find?]
  cases entries.lookup name <;> rfl

/-- A step in terms of what is seen. -/
theorem Reaches.step_eq_ite
    {tree : Tree} {around : List String} (reaches : tree.Reaches around) (name : String) :
    tree.step (tree.wayAlong around) name =
      if tree.seen? (collapse around) = some .closed then .error (.files .searchDenied)
      else if tree.seen? (collapse around) ≠ some .folder then .error (.files .notAFolder)
      else if isLongName name = true then .error (.files .nameTooLong)
      else if tree.seen? (collapse (around ++ [name])) = none then .error (.files .notFound)
      else .ok (tree.wayAlong (around ++ [name])) := by
  have seen := reaches.seen?_eq
  have way := tree.wayAlong_append_singleton around name
  rw [step_eq]
  cases stands : tree.standing (tree.wayAlong around) with
  | file present =>
      rw [stands] at seen
      rw [seen]
      rfl
  | closed =>
      rw [stands] at seen
      rw [seen]
      rfl
  | folder entries =>
      rw [stands, Entry.seen] at seen
      rw [if_neg (by simp [seen]), if_neg (not_not.mpr seen)]
      -- Two dots are looked up in the way, every other name in the folder at its end.
      by_cases up : name = ".."
      · have short : ¬ isLongName name = true := by
          rw [up]
          decide
        have ends : tree.seen? (collapse (around ++ [name])) ≠ none := by
          rw [up]
          exact reaches.seen?_up
        rw [if_neg short, if_neg ends, way, advance, if_pos up]
        exact if_pos up
      · by_cases long : isLongName name = true
        · rw [if_pos long]
          simp only [if_neg up, if_pos long]
          rfl
        · have listed := reaches.find?_after stands up
          have located : locationOf (tree.wayAlong around) ++ [name] =
              collapse (around ++ [name]) := by
            rw [locationOf_wayAlong, collapse_append_singleton, Location.after, if_neg up]
          rw [if_neg long, seen?, listed, way, advance, if_neg up, located, listed]
          simp only [if_neg up, if_neg long]
          cases entries.lookup name with
          | none =>
              rfl
          | some entry =>
              rfl

theorem judges_step
    {tree : Tree} {around : List String} (reaches : tree.Reaches around) (name : String) :
    Judges (tree.step (tree.wayAlong around) name)
      (tree.seen? (collapse around) = some .folder ∧ isLongName name = false ∧
        tree.seen? (collapse (around ++ [name])) ≠ none)
      (tree.wayAlong (around ++ [name])) (tree.StepFlaw around name) := by
  rw [reaches.step_eq_ite]
  have found := Judges.guarded (tree.seen? (collapse (around ++ [name])) = none)
    (Breakdown.files .notFound) fun _ => Judges.ok (tree.wayAlong (around ++ [name]))
  have short :=
    Judges.guarded (isLongName name = true) (Breakdown.files .nameTooLong) fun _ => found
  have folder := Judges.guarded (tree.seen? (collapse around) ≠ some .folder)
    (Breakdown.files .notAFolder) fun _ => short
  have run := Judges.guarded (tree.seen? (collapse around) = some .closed)
    (Breakdown.files .searchDenied) fun _ => folder
  refine run.reworded ?_ (fun _ => rfl) ?_
  · constructor
    · intro conditions
      simpa using conditions.2
    · intro conditions
      exact ⟨by simp [conditions.1], by simpa using conditions⟩
  intro answer
  constructor
  · intro fault
    rcases fault with ⟨isClosed, rfl⟩ | ⟨notClosed, ⟨notFolder, rfl⟩ |
      ⟨folder, ⟨long, rfl⟩ | ⟨fits, ⟨nothing, rfl⟩ | never⟩⟩⟩
    · exact .searchDenied isClosed
    · have seen := reaches.seen?_eq
      cases stands : tree.standing (tree.wayAlong around) with
      | file present =>
          rw [stands] at seen
          exact .notAFolder present seen
      | closed =>
          rw [stands] at seen
          exact absurd seen notClosed
      | folder entries =>
          rw [stands] at seen
          exact absurd seen notFolder
    · exact .nameTooLong (not_not.mp folder) long
    · exact .notFound (not_not.mp folder) (eq_false_of_ne_true fits) nothing
    · exact never.2.elim
  · intro flaw
    cases flaw with
    | notAFolder present isFile =>
        exact Or.inr ⟨by simp [isFile], Or.inl ⟨by simp [isFile], rfl⟩⟩
    | searchDenied isClosed =>
        exact Or.inl ⟨isClosed, rfl⟩
    | nameTooLong folder long =>
        exact Or.inr ⟨by simp [folder], Or.inr ⟨not_not.mpr folder, Or.inl ⟨long, rfl⟩⟩⟩
    | notFound folder short nothing =>
        exact Or.inr ⟨by simp [folder],
          Or.inr ⟨not_not.mpr folder, Or.inr ⟨by simp [short], Or.inl ⟨nothing, rfl⟩⟩⟩⟩

/-- Following names from the top, whichever characters they hold. -/
def follow (tree : Tree) (names : List String) : Except Breakdown Way :=
  names.foldlM tree.step []

theorem judges_follow (tree : Tree) (names : List String) :
    Judges (tree.follow names) (tree.Reaches names) (tree.wayAlong names)
      (tree.FollowFlaw names) :=
  Judges.foldlM tree.reaches_append_singleton (fun _ name reaches => judges_step reaches name)
    names [] tree.reaches_nil

/-! ## Names that can be no path -/

theorem namesFault?_eq_none_iff {names : List String} :
    namesFault? names = none ↔
      ∀ name ∈ names, isUnspellable name = false ∧ holdsNull name = false := by
  rw [namesFault?]
  by_cases unspellable : names.any isUnspellable = true
  · rw [if_pos unspellable]
    obtain ⟨name, member, fault⟩ := List.any_eq_true.mp unspellable
    simp only [reduceCtorEq, false_iff]
    intro clean
    rw [(clean name member).1] at fault
    cases fault
  · rw [if_neg unspellable]
    have spelled := List.any_eq_false.mp (eq_false_of_ne_true unspellable)
    by_cases null : names.any holdsNull = true
    · rw [if_pos null]
      obtain ⟨name, member, fault⟩ := List.any_eq_true.mp null
      simp only [reduceCtorEq, false_iff]
      intro clean
      rw [(clean name member).2] at fault
      cases fault
    · rw [if_neg null]
      have whole := List.any_eq_false.mp (eq_false_of_ne_true null)
      simp only [true_iff]
      intro name member
      exact ⟨eq_false_of_ne_true (spelled name member), eq_false_of_ne_true (whole name member)⟩

theorem namesFault?_of_subset
    {names others : List String} (clean : namesFault? names = none) (subset : others ⊆ names) :
    namesFault? others = none := by
  rw [namesFault?_eq_none_iff] at clean ⊢
  intro name member
  exact clean name (subset member)

theorem namesFault?_of_append
    {around : List String} {name : String} (clean : namesFault? (around ++ [name]) = none) :
    namesFault? around = none :=
  namesFault?_of_subset clean (List.subset_append_left around [name])

theorem eq_of_namesFault?
    {names : List String} {fault : Breakdown} (faulty : namesFault? names = some fault) :
    fault = .unencodableText ∨ fault = .impossibleValue := by
  rw [namesFault?] at faulty
  split at faulty
  · exact Or.inl (Option.some.inj faulty).symm
  · split at faulty
    · exact Or.inr (Option.some.inj faulty).symm
    · cases faulty

/-! ## Places -/

/-- A name can be placed behind others: it lies in a folder and can be a name. -/
structure Affords (tree : Tree) (around : List String) (name : String) : Prop where
  clean : namesFault? (around ++ [name]) = none
  passes : tree.Passes around
  short : isLongName name = false

/-- Why a name cannot be placed behind others.  That nothing stands there is no reason. -/
inductive PlaceFlaw (tree : Tree) (around : List String) (name : String) : Breakdown → Prop
  | names (answer : Breakdown) :
      namesFault? (around ++ [name]) = some answer → PlaceFlaw tree around name answer
  | around (answer : Breakdown) :
      namesFault? (around ++ [name]) = none → tree.FollowFlaw around answer →
      PlaceFlaw tree around name answer
  | last (answer : Breakdown) :
      namesFault? (around ++ [name]) = none → tree.Reaches around →
      tree.StepFlaw around name answer → answer ≠ .files .notFound →
      PlaceFlaw tree around name answer

/-- The location after a step, whether something stands there or not. -/
def placeAfter (tree : Tree) (way : Way) (name : String) : Except Breakdown Location :=
  match tree.step way name with
  | .ok further => .ok (locationOf further)
  | .error (.files .notFound) => .ok (locationOf way ++ [name])
  | .error answer => .error answer

theorem place_append_singleton (tree : Tree) (around : List String) (name : String) :
    tree.place (around ++ [name]) =
      (match namesFault? (around ++ [name]) with
        | some fault => .error fault
        | none => tree.follow around >>= fun way => tree.placeAfter way name) := by
  simp only [place, List.getLast?_concat, List.dropLast_concat, walk]
  cases faulty : namesFault? (around ++ [name]) with
  | some fault =>
      rfl
  | none =>
      simp only [namesFault?_of_append faulty]
      show (tree.follow around >>= fun way => _) = _
      congr 1
      funext way
      unfold placeAfter
      cases tree.step way name with
      | ok further =>
          rfl
      | error answer =>
          cases answer with
          | files refusal =>
              cases refusal <;> rfl
          | _ =>
              rfl

theorem judges_placeAfter
    {tree : Tree} {around : List String} (reaches : tree.Reaches around) (name : String) :
    Judges (tree.placeAfter (tree.wayAlong around) name)
      (tree.seen? (collapse around) = some .folder ∧ isLongName name = false)
      (collapse (around ++ [name]))
      (fun answer => tree.StepFlaw around name answer ∧ answer ≠ .files .notFound) := by
  have judgement := judges_step reaches name
  constructor
  · intro conditions
    obtain ⟨folder, short⟩ := conditions
    by_cases nothing : tree.seen? (collapse (around ++ [name])) = none
    · have down : name ≠ ".." := by
        intro up
        rw [up] at nothing
        exact reaches.seen?_up nothing
      have failure := judgement.fails _ (.notFound folder short nothing)
      rw [placeAfter, failure, collapse_append_singleton, Location.after, if_neg down,
        ← tree.locationOf_wayAlong]
    · have success := judgement.succeeds ⟨folder, short, nothing⟩
      rw [placeAfter, success, ← tree.locationOf_wayAlong]
  · intro answer fault
    obtain ⟨flaw, different⟩ := fault
    have failure := judgement.fails answer flaw
    rw [placeAfter, failure]
    cases flaw with
    | notAFolder _ _ =>
        rfl
    | searchDenied _ =>
        rfl
    | nameTooLong _ _ =>
        rfl
    | notFound _ _ _ =>
        exact absurd rfl different
  · rcases judgement.decides with ⟨folder, short, _⟩ | ⟨answer, flaw⟩
    · exact Or.inl ⟨folder, short⟩
    · cases flaw with
      | notAFolder present isFile =>
          exact Or.inr ⟨_, .notAFolder present isFile, by decide⟩
      | searchDenied isClosed =>
          exact Or.inr ⟨_, .searchDenied isClosed, by decide⟩
      | nameTooLong folder long =>
          exact Or.inr ⟨_, .nameTooLong folder long, by decide⟩
      | notFound folder short _ =>
          exact Or.inl ⟨folder, short⟩

theorem judges_place (tree : Tree) (around : List String) (name : String) :
    Judges (tree.place (around ++ [name])) (tree.Affords around name)
      (collapse (around ++ [name])) (tree.PlaceFlaw around name) := by
  have followed := (tree.judges_follow around).bind
    (fun way => tree.placeAfter way name) fun reaches => judges_placeAfter reaches name
  rw [place_append_singleton]
  cases faulty : namesFault? (around ++ [name]) with
  | some fault =>
      refine ⟨?_, ?_, Or.inr ⟨fault, .names fault faulty⟩⟩
      · intro affords
        rw [affords.clean] at faulty
        cases faulty
      · intro answer flaw
        cases flaw with
        | names other =>
            rw [Option.some.inj (faulty.symm.trans other)]
        | around clean _ =>
            rw [clean] at faulty
            cases faulty
        | last clean _ _ _ =>
            rw [clean] at faulty
            cases faulty
  | none =>
      refine followed.reworded ?_ (fun _ => rfl) ?_
      · constructor
        · intro conditions
          obtain ⟨reaches, folder, short⟩ := conditions
          exact ⟨faulty, ⟨reaches, folder⟩, short⟩
        · intro affords
          exact ⟨affords.passes.toReaches, affords.passes.folder, affords.short⟩
      · intro answer
        constructor
        · intro fault
          rcases fault with flaw | ⟨reaches, flaw, different⟩
          · exact .around answer faulty flaw
          · exact .last answer faulty reaches flaw different
        · intro flaw
          cases flaw with
          | names other =>
              rw [faulty] at other
              cases other
          | around _ flaw =>
              exact Or.inl flaw
          | last _ reaches flaw different =>
              exact Or.inr ⟨reaches, flaw, different⟩

/-! ## Status -/

theorem walk_of_clean {names : List String} (clean : namesFault? names = none) (tree : Tree) :
    tree.walk names = tree.follow names := by
  rw [walk, clean]
  rfl

/-- Names that can be no path lead to nothing. -/
theorem status_of_namesFault?
    {names : List String} {fault : Breakdown} (faulty : namesFault? names = some fault)
    (tree : Tree) : tree.status names = .ok none := by
  rw [status, walk, faulty]
  rcases eq_of_namesFault? faulty with rfl | rfl
  · rfl
  · rfl

/-- Something is found exactly where the names lead to something. -/
theorem status_eq_some_iff (tree : Tree) (names : List String) (entry : Entry) :
    tree.status names = .ok (some entry) ↔
      namesFault? names = none ∧ tree.Reaches names ∧
        entry = tree.standing (tree.wayAlong names) := by
  have judgement := tree.judges_follow names
  cases faulty : namesFault? names with
  | some fault =>
      simp [status_of_namesFault? faulty]
  | none =>
      have same := walk_of_clean faulty tree
      rcases judgement.decides with reaches | ⟨answer, flaw⟩
      · rw [status, same, judgement.succeeds reaches]
        simp only [reaches, Except.ok.injEq, Option.some.injEq, true_and]
        exact eq_comm
      · have missed : ¬ tree.Reaches names := fun reaches => by
          have success := judgement.succeeds reaches
          rw [judgement.fails answer flaw] at success
          cases success
        rw [status, same, judgement.fails answer flaw]
        simp only [missed, false_and, and_false, iff_false]
        split <;> simp_all

theorem status_of_notFound
    {tree : Tree} {names : List String} (flaw : tree.FollowFlaw names (.files .notFound)) :
    tree.status names = .ok none := by
  cases faulty : namesFault? names with
  | some fault =>
      exact status_of_namesFault? faulty tree
  | none =>
      rw [status, walk_of_clean faulty, (tree.judges_follow names).fails _ flaw]

/-- Only a name that is too long, or a folder that may not be searched, keeps a path from being
looked up. -/
theorem status_eq_error_iff (tree : Tree) (names : List String) (cause : Breakdown) :
    tree.status names = .error cause ↔
      namesFault? names = none ∧ tree.FollowFlaw names cause ∧
        (cause = .files .nameTooLong ∨ cause = .files .searchDenied) := by
  have judgement := tree.judges_follow names
  cases faulty : namesFault? names with
  | some fault =>
      simp [status_of_namesFault? faulty]
  | none =>
      rw [status, walk_of_clean faulty]
      rcases judgement.decides with reaches | ⟨answer, flaw⟩
      · have success := judgement.succeeds reaches
        rw [success]
        simp only [true_and, reduceCtorEq, false_iff]
        intro conditions
        rw [judgement.fails cause conditions.1] at success
        cases success
      · have failure := judgement.fails answer flaw
        have only : ∀ other, tree.FollowFlaw names other → other = answer := by
          intro other otherFlaw
          exact Except.error.inj ((judgement.fails other otherFlaw).symm.trans failure)
        rw [failure]
        obtain ⟨_, _, _, _, _, stepFlaw⟩ := id flaw
        constructor
        · intro refused
          cases stepFlaw with
          | notAFolder _ _ => cases refused
          | notFound _ _ _ => cases refused
          | nameTooLong _ _ =>
              cases refused
              exact ⟨rfl, flaw, Or.inl rfl⟩
          | searchDenied _ =>
              cases refused
              exact ⟨rfl, flaw, Or.inr rfl⟩
        · intro conditions
          obtain ⟨_, otherFlaw, named⟩ := conditions
          cases only cause otherFlaw
          rcases named with rfl | rfl
          · rfl
          · rfl

end Tree

end ErrorDerive
