import ErrorDerive.Proofs.Files.FolderMaking

/-!
# Writing a file

Changing the bytes of a file, or making it, succeeds where a name can be placed and no folder
stands, and then changes what is seen at that place only.  Writing and appending are such changes.
-/

namespace ErrorDerive

namespace Tree

/-- The file with other bytes, or a new one where none is seen. -/
def refilled (tree : Tree) (location : Location) (content : List UInt8) : File :=
  match tree.file? location with
  | some present => { present with content := content }
  | none => { content := content }

/-- The file with its bytes changed, or a new one where none is seen. -/
def changed (tree : Tree) (location : Location) (change : List UInt8 → List UInt8) : File :=
  match tree.file? location with
  | some present => { present with content := change present.content }
  | none => { content := change [] }

/-- The tree with the bytes of a file changed at a location. -/
def withChange (tree : Tree) (change : List UInt8 → List UInt8) (location : Location) :
    Except Breakdown Tree :=
  match tree.find? location with
  | some (.folder _) | some .closed => refuse .isAFolder
  | some (.file file) =>
    .ok (tree.put location (.file { file with content := change file.content }))
  | none => .ok (tree.put location (.file { content := change [] }))

theorem judges_withChange (tree : Tree) (change : List UInt8 → List UInt8) (location : Location) :
    Judges (tree.withChange change location) (¬ tree.HasFolder location)
      (tree.put location (.file (tree.changed location change)))
      (fun answer => tree.HasFolder location ∧ answer = .files .isAFolder) := by
  unfold withChange HasFolder seen? changed file?
  cases tree.find? location with
  | none =>
      exact ⟨by simp, by simp, by simp⟩
  | some entry =>
      cases entry with
      | file present =>
          exact ⟨by simp, by simp [Entry.seen], by simp [Entry.seen]⟩
      | folder entries =>
          exact ⟨by simp [Entry.seen], by simp [refuse], by simp [Entry.seen]⟩
      | closed =>
          exact ⟨by simp [Entry.seen], by simp [refuse], by simp [Entry.seen]⟩

theorem judges_changeFile
    (tree : Tree) (around : List String) (name : String) (change : List UInt8 → List UInt8) :
    Judges (tree.changeFile (around ++ [name]) change)
      (tree.Affords around name ∧ ¬ tree.HasFolder (collapse (around ++ [name])))
      (tree.put (collapse (around ++ [name]))
        (.file (tree.changed (collapse (around ++ [name])) change)))
      (fun answer => tree.PlaceFlaw around name answer ∨
        tree.Affords around name ∧ tree.HasFolder (collapse (around ++ [name])) ∧
          answer = .files .isAFolder) :=
  (tree.judges_place around name).bind (tree.withChange change) fun _ =>
    tree.judges_withChange change _

theorem judges_writeFile
    (tree : Tree) (around : List String) (name : String) (content : List UInt8) :
    Judges (tree.writeFile (around ++ [name]) content)
      (tree.Affords around name ∧ ¬ tree.HasFolder (collapse (around ++ [name])))
      (tree.put (collapse (around ++ [name]))
        (.file (tree.refilled (collapse (around ++ [name])) content)))
      (fun answer => tree.PlaceFlaw around name answer ∨
        tree.Affords around name ∧ tree.HasFolder (collapse (around ++ [name])) ∧
          answer = .files .isAFolder) :=
  tree.judges_changeFile around name fun _ => content

/-- Above the end of the way there is a folder. -/
theorem Passes.seen?_up
    {tree : Tree} {around : List String} (passes : tree.Passes around) :
    tree.seen? (collapse (around ++ [".."])) = some .folder := by
  rw [collapse_append_singleton, Location.after, if_pos rfl]
  rcases List.eq_nil_or_concat (collapse around) with top | ⟨front, last, split⟩
  · rw [top]
    exact tree.seen?_top
  · rw [split, List.concat_eq_append, List.dropLast_concat]
    have folder := passes.folder
    rw [split, List.concat_eq_append] at folder
    exact seen?_eq_folder_of_append (by simp [folder]) (List.cons_ne_nil last [])

/-- A file that was changed is seen at its place, and everything else as before. -/
theorem seen?_of_changeFile
    {tree left : Tree} {around : List String} {name : String} {change : List UInt8 → List UInt8}
    (success : tree.changeFile (around ++ [name]) change = .ok left) (sought : Location) :
    left.seen? sought =
      if sought = collapse (around ++ [name]) then
        some (.file (tree.changed (collapse (around ++ [name])) change))
      else tree.seen? sought := by
  obtain ⟨⟨affords, notFolder⟩, rfl⟩ :=
    (tree.judges_changeFile around name change).eq_ok_iff.mp success
  have down : name ≠ ".." := by
    intro up
    rw [up] at notFolder
    exact notFolder (Or.inl affords.passes.seen?_up)
  have located : collapse (around ++ [name]) = collapse around ++ [name] := by
    rw [collapse_append_singleton, Location.after, if_neg down]
  rw [located] at notFolder ⊢
  exact seen?_put (Entry.isBare_file _) affords.passes.folder (not_or.mp notFolder).1 sought

theorem seen?_of_writeFile
    {tree written : Tree} {around : List String} {name : String} {content : List UInt8}
    (success : tree.writeFile (around ++ [name]) content = .ok written) (sought : Location) :
    written.seen? sought =
      if sought = collapse (around ++ [name]) then
        some (.file (tree.refilled (collapse (around ++ [name])) content))
      else tree.seen? sought :=
  seen?_of_changeFile success sought

/-- Bytes added at the end of a file change this file only. -/
theorem file?_extend (tree : Tree) (location sought : Location) (content : List UInt8) :
    (tree.extend location content).file? sought =
      if sought = location then (tree.file? location).map fun present =>
        { present with content := present.content ++ content }
      else tree.file? sought := by
  unfold extend
  cases found : tree.file? location with
  | none =>
      by_cases same : sought = location
      · rw [if_pos same, same, found]
        rfl
      · rw [if_neg same]
  | some present =>
      have seen := file?_eq_some_iff.mp found
      rcases List.eq_nil_or_concat location with top | ⟨around, name, split⟩
      · rw [top, seen?_top] at seen
        cases seen
      · rw [List.concat_eq_append] at split
        rw [split] at seen ⊢
        have folder : tree.seen? around = some .folder :=
          seen?_eq_folder_of_append (by simp [seen]) (List.cons_ne_nil name [])
        have notFolder : tree.seen? (around ++ [name]) ≠ some .folder := by simp [seen]
        apply Option.ext
        intro other
        rw [file?_eq_some_iff, seen?_put (Entry.isBare_file _) folder notFolder]
        by_cases same : sought = around ++ [name]
        · rw [if_pos same, if_pos same, Option.map_some, Entry.seen, Option.some.injEq,
            Seen.file.injEq, Option.some.injEq]
        · rw [if_neg same, if_neg same, file?_eq_some_iff]

end Tree

end ErrorDerive
