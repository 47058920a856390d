import ErrorDerive.Process
import ErrorDerive.Yaml.Merge
import ErrorDerive.Yaml.ScalarValue
import ErrorDerive.Yaml.TokenSequence

/-!
# The values of documents

What a document stands for. A scalar is read as soon as it is met; a collection is put in place
empty and filled in its turn, in the order in which the collections are met. So a node may be a part
of itself, and of several faults the one that this order meets first counts.

* `Part` is what a node stands for while the collections are being filled;
* `Build.node` puts a node in place, and `Build.fill` fills a collection;
* `Building.visit` finds the nodes from which no circle is reached, and `Building.value` puts the
  parts together to a value;
* `read` takes a text to the value of its only document.
-/

namespace ErrorDerive.Yaml

/-! ## Parts -/

/-- What the collections of the standard tags become. -/
inductive CollectionKind where
  | list
  | pairs
  | set
  | mapping
  deriving DecidableEq, Repr, Inhabited

/-- The collection that the last part of a standard tag asks for. -/
def CollectionKind.ofName? (name : String) : Option CollectionKind :=
  [("seq", list), ("omap", pairs), ("pairs", pairs), ("set", set), ("map", mapping)].lookup name

/-- What a node stands for. The parts of a collection are nodes again, except for keys. -/
inductive Part where
  | scalar (value : Value)
  | list (items : List NodeNumber)
  | pairs (items : List NodeEntry)
  | set (items : List Value)
  | mapping (entries : List (Value × NodeNumber))

instance : Inhabited Part := ⟨.scalar .null⟩

/-- A collection without content. -/
def CollectionKind.empty : CollectionKind → Part
  | list => .list []
  | pairs => .pairs []
  | set => .set []
  | mapping => .mapping []

/-- The state of building the value of a document. -/
structure Building where
  nodes : Nodes
  /-- How many default keys are followed to a text. -/
  defaultKeys : Nat
  /-- The parts of the nodes that have been met. -/
  parts : Array (Option Part)
  /-- The collections that have been met, in order. -/
  met : Array (NodeNumber × CollectionKind) := #[]

/-- The part that a node has become. -/
def Building.part? (building : Building) (number : NodeNumber) : Option Part :=
  (building.parts[number]?).join

/-- Building a value; the first fault ends everything. -/
abbrev Build (α : Type) := StateT Building (Except Fault) α

/-! ## Scalars -/

/-- The text of a node where a scalar is asked for: its own, or in a mapping the text under the
default key, as far as there is room to follow. -/
def Nodes.text (nodes : Nodes) : Nat → NodeNumber → Except Fault String
  | 0, _ => .error (.broken .endlessDescent)
  | room + 1, number =>
    match (nodes.node number).content with
    | .scalar text => .ok text
    | .sequence _ => .error .malformed
    | .mapping entries =>
      match entries.find? fun entry => nodes.tag entry.1 == standardTag "value" with
      | some (_, content) => nodes.text room content
      | none => .error .malformed

/-- The value of a node that is tagged as a scalar. A time must be a scalar itself. -/
def Nodes.scalar (nodes : Nodes) (room : Nat) (kind : ScalarKind) (number : NodeNumber) :
    Except Fault Value := do
  let text ← nodes.text room number
  match (nodes.node number).content with
  | .scalar _ => scalarValue kind text
  | _ => if kind = .timestamp then throw (.broken .timeNotText) else scalarValue kind text

/-! ## Keys -/

/-- A key of a mapping that is being filled. -/
structure Key where
  value : Value
  node : NodeNumber
  /-- Whether its text is the name of the number that is not one. -/
  isNamed : Bool

/-- The last part of a standard tag. -/
def standardName? (tag : String) : Option String :=
  ((standardTag "").toList.isPrefixOf? tag.toList).map String.ofList

/-- The key of a node with a value. -/
def Nodes.key (nodes : Nodes) (number : NodeNumber) (value : Value) : Key where
  value := value
  node := number
  isNamed :=
    match value, (nodes.node number).content with
    | .float .notANumber, .scalar text => namesNoNumber text
    | _, _ => false

/-- Whether two keys are the same key. What is no number equals nothing, but its name is one key
wherever it stands, and so is a node that is used again. -/
def Key.isSame (left right : Key) : Bool :=
  left.node == right.node || (left.isNamed && right.isNamed) || Value.sameKey left.value right.value

/-- Writes an entry, in the place of the entry with the same key if there is one. -/
def putEntry (key : Key) (content : NodeNumber) :
    List (Key × NodeNumber) → List (Key × NodeNumber)
  | [] => [(key, content)]
  | (first, present) :: rest =>
    if key.isSame first then (first, content) :: rest
    else (first, present) :: putEntry key content rest

/-! ## Building -/

namespace Build

def refuse {α : Type} : Build α := throw .malformed

/-- Makes a part of a node. -/
def setPart (number : NodeNumber) (part : Part) : Build Unit :=
  modify fun building => { building with parts := building.parts.setIfInBounds number (some part) }

/-- Puts a node in place, unless it is there already: a scalar with its value, and a collection
empty. -/
def node (number : NodeNumber) : Build Unit := do
  let building ← get
  if (building.part? number).isSome then return
  let name := (standardName? (building.nodes.tag number)).getD ""
  match CollectionKind.ofName? name, ScalarKind.ofName? name with
  | some kind, _ =>
    setPart number kind.empty
    modify fun building => { building with met := building.met.push (number, kind) }
  | none, some kind =>
    setPart number (.scalar (← building.nodes.scalar building.defaultKeys kind number))
  | none, none => refuse

/-- Puts a key in place; it must be a scalar. -/
def key (number : NodeNumber) : Build Key := do
  node number
  let building ← get
  match building.part? number with
  | some (.scalar value) => return building.nodes.key number value
  | _ => refuse

def entries (number : NodeNumber) : Build (List (Key × NodeNumber)) := do
  match ((← get).nodes.node number).content with
  | .mapping _ =>
    let merged ← (← get).nodes.merge number
    modify fun building => { building with nodes := merged }
    let entries ← (merged.entries number).mapM fun (keyNumber, content) => do
      let key ← key keyNumber
      node content
      return (key, content)
    return entries.foldl (fun seen (key, content) => putEntry key content seen) []
  | _ => refuse

/-- Puts an item of a row of pairs in place: a mapping of one entry. -/
def pair (number : NodeNumber) : Build NodeEntry := do
  match (← get).nodes.entries number with
  | [(key, content)] =>
    node key
    node content
    return (key, content)
  | _ => refuse

def items (number : NodeNumber) : Build (List NodeNumber) := do
  match ((← get).nodes.node number).content with
  | .sequence items => return items
  | _ => refuse

/-- Fills a collection. -/
def fill (number : NodeNumber) (kind : CollectionKind) : Build Unit := do
  match kind with
  | .list =>
    let items ← items number
    items.forM node
    setPart number (.list items)
  | .pairs => setPart number (.pairs (← (← items number).mapM pair))
  | .set =>
    setPart number (.set ((← entries number).map fun (key, _) => key.value))
  | .mapping =>
    setPart number (.mapping ((← entries number).map fun (key, content) => (key.value, content)))

/-- Fills the collections that have been met, from a place of their row on. Each node is met at most
once, so the number of nodes bounds the row. -/
def fillFrom : Nat → Nat → Build Unit
  | 0, _ => return
  | bound + 1, place => do
    match (← get).met[place]? with
    | none => return
    | some (number, kind) =>
      fill number kind
      fillFrom bound (place + 1)

def document (document : Document) : Build Unit := do
  node document.root
  fillFrom document.nodes.size 0

end Build

/-! ## Values -/

/-- What is known of the nodes that have been visited: the value of a node from which no circle is
reached, and nothing for the others. -/
abbrev Visited := Array (Option (Option Value))

/-- Whether a node has become a mapping. -/
def Building.isMapping (building : Building) (number : NodeNumber) : Bool :=
  match building.part? number with
  | some (.mapping _) => true
  | _ => false

/-- The nodes that a node holds. -/
def Part.nodes : Part → List NodeNumber
  | .scalar _ | .set _ => []
  | .list items => items
  | .pairs items => items.flatMap fun (first, second) => [first, second]
  | .mapping entries => entries.map Prod.snd

/-- A part with a value for each node that it holds. The items of a set are in the order in which
they come out. -/
def Part.toValue (order : SetOrder) (valueOf : NodeNumber → Value) : Part → Value
  | .scalar value => value
  | .set items => .set (order.arrange items)
  | .list items => .list (items.map valueOf)
  | .pairs items =>
    .list (items.map fun (first, second) => .tuple [valueOf first, valueOf second])
  | .mapping entries => .mapping (entries.map fun (key, content) => (key, valueOf content))

/-- The value of a node that has been visited; a node from which a circle is reached stands for its
place there. -/
def Building.valueIn (building : Building) (visited : Visited) (number : NodeNumber) : Value :=
  match visited.getD number none with
  | some (some value) => value
  | _ => .again number (building.isMapping number)

/-- Visits a node and all that it holds; says whether no circle is reached from it. A node that is
being visited counts as one from which a circle is reached, which is so where it comes again. -/
def Building.visit (building : Building) (order : SetOrder) :
    Nat → NodeNumber → StateM Visited Bool
  | 0, _ => return false
  | bound + 1, number => do
    match (← get).getD number none with
    | some known => return known.isSome
    | none =>
      modify (·.setIfInBounds number (some none))
      let part := (building.part? number).getD default
      let plain ← part.nodes.mapM (building.visit order bound)
      if plain.all id then
        modify fun visited => visited.setIfInBounds number
          (some (some (part.toValue order (building.valueIn visited))))
        return true
      else return false

/-- The part of a circle that a visited node is, if it is one. -/
def Building.circlePart (building : Building) (order : SetOrder) (visited : Visited)
    (number : NodeNumber) : Value :=
  match visited.getD number none, building.part? number with
  | some none, some part => part.toValue order (building.valueIn visited)
  | _, _ => .null

/-- The value of a node: plain, or a place in the circles of its document. -/
def Building.value (building : Building) (order : SetOrder) (root : NodeNumber) : Value :=
  let size := building.parts.size
  let (_, visited) := (building.visit order (size + 1) root).run (Array.replicate size none)
  match visited.getD root none with
  | some (some value) => value
  | _ => .circle ((List.range size).map (building.circlePart order visited)) root

def Document.value (process : Process) (document : Document) : Except Fault Value := do
  let parts := Array.replicate document.nodes.size none
  let (_, built) ← (Build.document document).run
    { nodes := document.nodes, defaultKeys := process.descent.defaultKeys, parts }
  return built.value process.order document.root

/-- The value of a text's only document, or null where there is none. -/
def read (process : Process) (text : String) : Except Fault Value := do
  let (sequence, fault) := tokens text.toList
  match ← Document.ofTokens process.descent sequence fault with
  | none => return .null
  | some document => document.value process

end ErrorDerive.Yaml
