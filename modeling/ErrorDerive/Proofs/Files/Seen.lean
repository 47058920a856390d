import ErrorDerive.Files.Tree

/-!
# What is seen at a location

A location shows a file, a folder, a folder that may not be searched, or nothing.  Placing an entry
without anything inside it, in a folder that is there, changes what is seen at its own location
only.

* `Tree.seen?` is what is seen;
* `Tree.Grows` says that of two trees the second has nothing but additional folders.
-/

namespace ErrorDerive

/-- What is seen of an entry from outside. -/
inductive Seen where
  | file (file : File)
  | folder
  | closed
  deriving DecidableEq, Repr, Inhabited

namespace Entry

/-- What is seen of this entry. -/
def seen : Entry → Seen
  | file present => .file present
  | folder _ => .folder
  | closed => .closed

theorem find?_append (first second : Location) (entry : Entry) :
    find? (first ++ second) entry = (find? first entry).bind (find? second) := by
  induction first generalizing entry with
  | nil =>
      rfl
  | cons name rest inductionHypothesis =>
      cases entry with
      | file present =>
          rfl
      | closed =>
          rfl
      | folder entries =>
          rw [List.cons_append, find?, find?]
          cases entries.lookup name with
          | none =>
              rfl
          | some inner =>
              exact inductionHypothesis inner

/-- Nothing is inside this entry. -/
def IsBare (entry : Entry) : Prop :=
  ∀ name rest, find? (name :: rest) entry = none

theorem isBare_emptyFolder : emptyFolder.IsBare := by
  intro name rest
  rfl

theorem isBare_file (present : File) : (file present).IsBare := by
  intro name rest
  rfl

theorem put_cons_of_lookup
    {new inner : Entry} {name : String} {rest : Location} {entries : List (String × Entry)}
    (deeper : rest ≠ []) (found : entries.lookup name = some inner) :
    put new (name :: rest) (folder entries) =
      folder (putNamed name (put new rest inner) entries) := by
  cases rest with
  | nil =>
      exact absurd rfl deeper
  | cons second others =>
      simp [put, found]

/-- A bare entry, placed where nothing or something bare stood, is seen there and nowhere else. -/
theorem seen_find?_put
    {new : Entry} (bare : new.IsBare) {around : Location} {name : String} {entry : Entry}
    (present : (find? around entry).map seen = some .folder)
    (shallow : ∀ inner rest, find? (around ++ name :: inner :: rest) entry = none)
    (sought : Location) :
    (find? sought (put new (around ++ [name]) entry)).map seen =
      if sought = around ++ [name] then some new.seen else (find? sought entry).map seen := by
  induction around generalizing entry sought with
  | nil =>
      cases entry with
      | file other =>
          simp [find?, seen] at present
      | closed =>
          simp [find?, seen] at present
      | folder entries =>
          have placed : put new ([] ++ [name]) (folder entries) =
              folder (putNamed name new entries) := by
            rfl
          rw [placed]
          cases sought with
          | nil =>
              rfl
          | cons first rest =>
              rw [find?, lookup_putNamed]
              by_cases same : first = name
              · rw [if_pos same, Option.bind_some, same]
                cases rest with
                | nil =>
                    simp [find?]
                | cons inner others =>
                    have nothing := shallow inner others
                    rw [List.nil_append] at nothing
                    simp [bare inner others, nothing]
              · rw [if_neg same, if_neg (by simp [same]), find?]
  | cons first others inductionHypothesis =>
      cases entry with
      | file other =>
          simp [find?] at present
      | closed =>
          simp [find?] at present
      | folder entries =>
          cases found : entries.lookup first with
          | none =>
              simp [find?, found] at present
          | some inner =>
              have innerPresent : (find? others inner).map seen = some .folder := by
                simpa [find?, found] using present
              have innerShallow :
                  ∀ last rest, find? (others ++ name :: last :: rest) inner = none := by
                intro last rest
                simpa [find?, found] using shallow last rest
              have placed : put new (first :: others ++ [name]) (folder entries) =
                  folder (putNamed first (put new (others ++ [name]) inner) entries) :=
                put_cons_of_lookup (by simp) found
              rw [placed]
              cases sought with
              | nil =>
                  rfl
              | cons sought rest =>
                  rw [find?, lookup_putNamed]
                  by_cases same : sought = first
                  · rw [if_pos same, Option.bind_some,
                      inductionHypothesis innerPresent innerShallow rest, same, find?, found]
                    simp
                  · rw [if_neg same, if_neg (by simp [same]), find?]

end Entry

namespace Tree

/-- What is seen at a location. -/
def seen? (tree : Tree) (location : Location) : Option Seen :=
  (tree.find? location).map Entry.seen

/-- A folder stands at a location, whether it may be searched or not. -/
def HasFolder (tree : Tree) (location : Location) : Prop :=
  tree.seen? location = some .folder ∨ tree.seen? location = some .closed

theorem seen?_top (tree : Tree) : tree.seen? [] = some .folder :=
  rfl

theorem seen?_eq_none_iff {tree : Tree} {location : Location} :
    tree.seen? location = none ↔ tree.find? location = none := by
  rw [seen?, Option.map_eq_none_iff]

/-- Only in a folder is anything seen. -/
theorem seen?_eq_folder_of_append
    {tree : Tree} {around rest : Location} (inside : tree.seen? (around ++ rest) ≠ none)
    (deeper : rest ≠ []) : tree.seen? around = some .folder := by
  rw [Ne, seen?_eq_none_iff, find?, Entry.find?_append] at inside
  unfold seen? find?
  cases found : Entry.find? around tree.top with
  | none =>
      simp [found] at inside
  | some entry =>
      cases rest with
      | nil =>
          exact absurd rfl deeper
      | cons name others =>
          cases entry with
          | file present =>
              simp [found, Entry.find?] at inside
          | closed =>
              simp [found, Entry.find?] at inside
          | folder entries =>
              rfl

theorem file?_eq_some_iff {tree : Tree} {location : Location} {present : File} :
    tree.file? location = some present ↔ tree.seen? location = some (.file present) := by
  unfold file? seen?
  cases tree.find? location with
  | none =>
      simp
  | some entry =>
      cases entry <;> simp [Entry.seen]

theorem file?_eq_none_of_hasFolder {tree : Tree} {location : Location}
    (hasFolder : tree.HasFolder location) : tree.file? location = none := by
  rw [Option.eq_none_iff_forall_ne_some]
  intro present isFile
  rw [file?_eq_some_iff] at isFile
  rcases hasFolder with isFolder | isClosed
  · rw [isFolder] at isFile
    cases isFile
  · rw [isClosed] at isFile
    cases isFile

theorem top_put
    {tree : Tree} {around : Location} {name : String} (entry : Entry) :
    (tree.put (around ++ [name]) entry).top = Entry.put entry (around ++ [name]) tree.top := by
  have stays : ∃ entries, Entry.put entry (around ++ [name]) tree.top = .folder entries := by
    cases around with
    | nil =>
        exact ⟨_, rfl⟩
    | cons first others =>
        cases found : tree.entries.lookup first with
        | none =>
            refine ⟨tree.entries, ?_⟩
            cases others <;> simp [Entry.put, top, found]
        | some inner =>
            exact ⟨_, Entry.put_cons_of_lookup (by simp) found⟩
  obtain ⟨entries, placed⟩ := stays
  rw [put, placed]
  rfl

/-- What is seen after placing a bare entry where no folder stood. -/
theorem seen?_put
    {tree : Tree} {new : Entry} (bare : new.IsBare) {around : Location} {name : String}
    (present : tree.seen? around = some .folder)
    (notFolder : tree.seen? (around ++ [name]) ≠ some .folder)
    (sought : Location) :
    (tree.put (around ++ [name]) new).seen? sought =
      if sought = around ++ [name] then some new.seen else tree.seen? sought := by
  have shallow : ∀ inner rest,
      Entry.find? (around ++ name :: inner :: rest) tree.top = none := by
    intro inner rest
    have split : around ++ name :: inner :: rest = (around ++ [name]) ++ inner :: rest := by
      simp
    rw [split, Entry.find?_append]
    unfold seen? find? at notFolder
    cases found : Entry.find? (around ++ [name]) tree.top with
    | none =>
        rfl
    | some entry =>
        cases entry with
        | file other =>
            rfl
        | closed =>
            rfl
        | folder entries =>
            rw [found] at notFolder
            exact absurd rfl notFolder
  rw [seen?, find?, top_put]
  exact Entry.seen_find?_put bare present shallow sought

/-! ## Additional folders -/

/-- A tree that differs from another one by additional folders only. -/
def Grows (tree grown : Tree) : Prop :=
  ∀ location, grown.seen? location = tree.seen? location ∨
    tree.seen? location = none ∧ grown.seen? location = some .folder

theorem Grows.refl (tree : Tree) : tree.Grows tree := by
  intro location
  exact Or.inl rfl

theorem Grows.trans
    {tree middle grown : Tree} (first : tree.Grows middle) (second : middle.Grows grown) :
    tree.Grows grown := by
  intro location
  rcases second location with same | ⟨nothing, made⟩
  · rw [same]
    exact first location
  · rcases first location with unchanged | ⟨_, folder⟩
    · exact Or.inr ⟨unchanged ▸ nothing, made⟩
    · rw [folder] at nothing
      cases nothing

/-- Growing keeps every file as it is and adds none. -/
theorem Grows.file_iff
    {tree grown : Tree} (grows : tree.Grows grown) {location : Location} {present : File} :
    grown.seen? location = some (.file present) ↔ tree.seen? location = some (.file present) := by
  rcases grows location with same | ⟨nothing, made⟩
  · rw [same]
  · rw [nothing, made]
    simp

theorem Grows.folder
    {tree grown : Tree} (grows : tree.Grows grown) {location : Location}
    (folder : tree.seen? location = some .folder) : grown.seen? location = some .folder := by
  rcases grows location with same | ⟨_, made⟩
  · exact same.trans folder
  · exact made

theorem grows_put_emptyFolder
    {tree : Tree} {around : Location} {name : String}
    (present : tree.seen? around = some .folder) (free : tree.seen? (around ++ [name]) = none) :
    tree.Grows (tree.put (around ++ [name]) .emptyFolder) := by
  have notFolder : tree.seen? (around ++ [name]) ≠ some .folder := by
    simp [free]
  intro location
  rw [seen?_put Entry.isBare_emptyFolder present notFolder]
  by_cases same : location = around ++ [name]
  · rw [if_pos same, same]
    exact Or.inr ⟨free, rfl⟩
  · rw [if_neg same]
    exact Or.inl rfl

end Tree

end ErrorDerive
