import ErrorDerive.Breakdown
import ErrorDerive.Files.Path

/-!
# File trees

The files and folders that a run can see. A location is the row of names on the way from the top.

* `Tree.find?` is what stands at a location, and `Tree.put` places something there;
* `Tree.walk` follows a row of names, each step checked as the file system checks it;
* `Tree.status`, `Tree.makeFolders`, `Tree.writeFile` and `Tree.appendFile` are the operations that
  the library needs.
-/

namespace ErrorDerive

/-- Whether a file can be read. Reading may be refused to a user who has the permission to read;
without it, it always is. -/
inductive FileAccess where
  | granted
  | refused (reason : String)
  | forbidden (reason : String)
  deriving DecidableEq, Repr, Inhabited

/-- A file: its bytes, and whether they can be read. -/
structure File where
  content : List UInt8
  access : FileAccess := .granted
  deriving DecidableEq, Repr, Inhabited

namespace File

/-- The reason why reading is refused, if it is. -/
def refusal (file : File) : Option String :=
  match file.access with
  | .granted => none
  | .refused reason | .forbidden reason => some reason

/-- Whether the permission to read is missing. -/
def isForbidden (file : File) : Bool :=
  match file.access with
  | .forbidden _ => true
  | _ => false

end File

/-- What may stand at a location: a file, a folder with its entries by name, or a folder that may
not be searched. What is inside the latter is out of reach, so it plays no part. -/
inductive Entry where
  | file (file : File)
  | folder (entries : List (String × Entry))
  | closed
  deriving Repr, Inhabited

/-- The names on the way from the top of a tree. -/
abbrev Location := List String

/-- A tree of files and folders: the entries of the folder at its top. -/
structure Tree where
  entries : List (String × Entry) := []
  deriving Repr, Inhabited

def refuse {α : Type} (refusal : FileRefusal) : Except Breakdown α :=
  .error (.files refusal)

/-- The longest name of a file or folder, in bytes. -/
def longestName : Nat := 255

/-- Whether a name is too long for a file system. -/
def isLongName (name : String) : Bool :=
  longestName < Text.byteCount name

/-- Whether a name cannot be spelled in bytes. Of the surrogates, those that stand for single bytes
can be. -/
def isUnspellable (name : String) : Bool :=
  (Text.codePoints name).any fun code => Text.isSurrogate code && !(0xDC80 ≤ code && code ≤ 0xDCFF)

/-- Whether a name holds the null character, which ends a name. -/
def holdsNull (name : String) : Bool :=
  name.toList.any fun letter => letter.toNat = 0

/-- Why a row of names can be no path, if it cannot. The names are spelled first. -/
def namesFault? (names : List String) : Option Breakdown :=
  if names.any isUnspellable then some .unencodableText
  else if names.any holdsNull then some .impossibleValue
  else none

namespace Entry

def emptyFolder : Entry := folder []

def find? : Location → Entry → Option Entry
  | [], entry => some entry
  | name :: rest, folder entries => (entries.lookup name).bind (find? rest)
  | _ :: _, file _ | _ :: _, closed => none

/-- Gives a name of a folder another entry, or adds one at the end. -/
def putNamed (name : String) (entry : Entry) : List (String × Entry) → List (String × Entry)
  | [] => [(name, entry)]
  | (first, present) :: rest =>
    if name = first then (first, entry) :: rest else (first, present) :: putNamed name entry rest

/-- An entry with something placed at a location inside it. The folder around that location must be
there; otherwise nothing changes. -/
def put (new : Entry) : Location → Entry → Entry
  | [], _ => new
  | [name], folder entries => folder (putNamed name new entries)
  | name :: rest, folder entries =>
    match entries.lookup name with
    | some inner => folder (putNamed name (put new rest inner) entries)
    | none => folder entries
  | _ :: _, file present => file present
  | _ :: _, closed => closed

private theorem lookup_first (first sought : String) (present : Entry)
    (rest : List (String × Entry)) :
    ((first, present) :: rest).lookup sought =
      if sought = first then some present else rest.lookup sought := by
  by_cases same : sought = first
  · simp [same]
  · simp [List.lookup_cons, beq_false_of_ne same, same]

theorem lookup_putNamed (name sought : String) (entry : Entry) (entries : List (String × Entry)) :
    (putNamed name entry entries).lookup sought =
      if sought = name then some entry else entries.lookup sought := by
  induction entries with
  | nil => rw [putNamed, lookup_first]
  | cons head rest inductionHypothesis =>
    obtain ⟨first, present⟩ := head
    by_cases found : name = first
    · rw [putNamed, if_pos found, found, lookup_first, lookup_first]
      split <;> rfl
    · simp only [putNamed, if_neg found, lookup_first, inductionHypothesis]
      by_cases same : sought = first
      · have different : sought ≠ name := fun other => found (other.symm.trans same)
        simp only [if_pos same, if_neg different]
      · simp only [if_neg same]

end Entry

namespace Tree

/-- The folder at the top of a tree. -/
def top (tree : Tree) : Entry := .folder tree.entries

def find? (tree : Tree) (location : Location) : Option Entry :=
  Entry.find? location tree.top

/-- The tree with something placed at a location below the top. -/
def put (tree : Tree) (location : Location) (entry : Entry) : Tree :=
  match Entry.put entry location tree.top with
  | .folder entries => ⟨entries⟩
  | _ => tree

def file? (tree : Tree) (location : Location) : Option File :=
  match tree.find? location with
  | some (.file file) => some file
  | _ => none

/-- The entries on the way from the top to a place, each with its name, the last one first. -/
abbrev Way := List (String × Entry)

/-- One step from the end of a way, which must be a folder. -/
def step (tree : Tree) (way : Way) (name : String) : Except Breakdown Way :=
  match (way.head?.map Prod.snd).getD tree.top with
  | .file _ => refuse .notAFolder
  | .closed => refuse .searchDenied
  | .folder entries =>
    if name = ".." then .ok way.tail
    else if isLongName name then refuse .nameTooLong
    else match entries.lookup name with
      | some entry => .ok ((name, entry) :: way)
      | none => refuse .notFound

/-- The way that a row of names leads, from the top. -/
def walk (tree : Tree) (names : List String) : Except Breakdown Way :=
  match namesFault? names with
  | some fault => .error fault
  | none => names.foldlM tree.step []

/-- The location at the end of a way. -/
def locationOf (way : Way) : Location :=
  (way.map Prod.fst).reverse

/-- The location that a row of names leads to, where nothing need stand yet. -/
def place (tree : Tree) (names : List String) : Except Breakdown Location :=
  match names.getLast? with
  | none => .ok []
  | some last =>
    match namesFault? names with
    | some fault => .error fault
    | none => do
      let around ← tree.walk names.dropLast
      match tree.step around last with
      | .error (.files .notFound) => return locationOf around ++ [last]
      | other => return locationOf (← other)

/-- What stands where a row of names leads, if anything does. Nothing does where the names can be no
path. -/
def status (tree : Tree) (names : List String) : Except Breakdown (Option Entry) :=
  match tree.walk names with
  | .ok way => .ok (some ((way.head?.map Prod.snd).getD tree.top))
  | .error (.files .notFound) | .error (.files .notAFolder) => .ok none
  | .error .unencodableText | .error .impossibleValue => .ok none
  | .error breakdown => .error breakdown

/-- Makes a folder; nothing may stand there yet. -/
def makeFolder (tree : Tree) (names : List String) : Except Breakdown Tree := do
  let location ← tree.place names
  match tree.find? location with
  | some _ => refuse .alreadyThere
  | none => return tree.put location .emptyFolder

/-- Accepts a folder that cannot be made because it is there. -/
def orPresent (tree : Tree) (names : List String) (breakdown : Breakdown) :
    Tree × Except Breakdown Unit :=
  match breakdown with
  | .files refusal =>
    match tree.status names with
    | .ok (some (.folder _)) | .ok (some .closed) => (tree, .ok ())
    | .ok _ => (tree, refuse refusal)
    | .error other => (tree, .error other)
  | other => (tree, .error other)

/-- Makes a folder and the missing folders above it. The names come last one first. What was made
before a refusal stays. -/
def makeFoldersUp (tree : Tree) : List String → Tree × Except Breakdown Unit
  | [] => (tree, .ok ())
  | name :: above =>
    let names := (name :: above).reverse
    match tree.makeFolder names with
    | .ok made => (made, .ok ())
    | .error (.files .notFound) =>
      match tree.makeFoldersUp above with
      | (made, .error breakdown) => (made, .error breakdown)
      | (made, .ok ()) =>
        match made.makeFolder names with
        | .ok complete => (complete, .ok ())
        | .error (.files .notFound) => (made, refuse .notFound)
        | .error breakdown => made.orPresent names breakdown
    | .error breakdown => tree.orPresent names breakdown

/-- Makes a folder and the missing folders above it. -/
def makeFolders (tree : Tree) (names : List String) : Tree × Except Breakdown Unit :=
  tree.makeFoldersUp names.reverse

/-- Changes the bytes of the file where a row of names leads; a missing file is made first. -/
def changeFile (tree : Tree) (names : List String) (change : List UInt8 → List UInt8) :
    Except Breakdown Tree := do
  let location ← tree.place names
  match tree.find? location with
  | some (.folder _) | some .closed => refuse .isAFolder
  | some (.file file) =>
    return tree.put location (.file { file with content := change file.content })
  | none => return tree.put location (.file { content := change [] })

/-- Writes a file, replacing what it held. -/
def writeFile (tree : Tree) (names : List String) (content : List UInt8) : Except Breakdown Tree :=
  tree.changeFile names fun _ => content

def appendFile (tree : Tree) (names : List String) (content : List UInt8) :
    Except Breakdown Tree :=
  tree.changeFile names (· ++ content)

/-- Adds bytes at the end of the file at a location, if one stands there. -/
def extend (tree : Tree) (location : Location) (content : List UInt8) : Tree :=
  match tree.file? location with
  | some file => tree.put location (.file { file with content := file.content ++ content })
  | none => tree

end Tree

/-! ## All entries of a tree -/

mutual

/-- The entry at a location and all entries inside it, folders before what they hold. -/
def Entry.all (location : Location) : Entry → List (Location × Entry)
  | .file file => [(location, .file file)]
  | .closed => [(location, .closed)]
  | .folder entries => (location, .folder entries) :: allNamed location entries

/-- The entries of a folder, each with all entries inside it. -/
def allNamed (location : Location) : List (String × Entry) → List (Location × Entry)
  | [] => []
  | (name, entry) :: rest => entry.all (location ++ [name]) ++ allNamed location rest

end

def Tree.all (tree : Tree) : List (Location × Entry) :=
  allNamed [] tree.entries

end ErrorDerive
