import ErrorDerive.Breakdown
import ErrorDerive.Yaml.Node
import ErrorDerive.Yaml.PlainTag
import ErrorDerive.Yaml.Token

/-!
# Documents

The nodes that a token sequence describes. A node has its number from its first token on, so an
alias may stand for a node that is still being read.

`Document.ofTokens` reads the only document of a sequence. Its functions count down from a bound on
the number of tokens, since each consumes at least one before it is called again.
-/

namespace ErrorDerive.Yaml

/-- How far the reading of a document may descend in the frames that are left on the stack. -/
structure Descent where
  /-- How many collections may stand inside one another. -/
  collections : Nat := 489
  /-- How many default keys are followed to a text. -/
  defaultKeys : Nat := 970
  deriving DecidableEq, Repr, Inhabited

/-- What has been read of a document. -/
structure Reader where
  tokens : List Token
  /-- The fault that waits behind the last token. -/
  ending : Fault
  nodes : Nodes := #[]
  /-- The nodes that anchors name. -/
  anchors : List (String × NodeNumber) := []
  /-- The number of collections that are being read. -/
  depth : Nat := 0
  /-- The number of collections that may be read inside one another. -/
  deepest : Nat
  /-- The meanings of tag handles. -/
  handles : List (String × String) := [("!", "!"), ("!!", standardTag "")]

/-- Reading nodes: the reader is passed along, and the first fault ends everything. -/
abbrev Read (α : Type) := StateT Reader (Except Fault) α

/-- The properties of a node: its anchor, and its tag with the handle replaced. -/
structure Properties where
  anchor : Option String := none
  tag : Option String := none

namespace Read

def refuse {α : Type} : Read α := throw .malformed

def peek : Read Token := do
  let reader ← get
  match reader.tokens with
  | token :: _ => return token
  | [] => throw reader.ending

def drop : Read Unit :=
  modify fun reader => { reader with tokens := reader.tokens.tail }

/-- Drops the next token if it is the given one; says whether it was. -/
def dropIf (token : Token) : Read Bool := do
  if (← peek) = token then
    drop
    return true
  else return false

/-- Drops the next token, which must be the given one. -/
def expect (token : Token) : Read Unit := do
  if !(← dropIf token) then refuse

/-- The meaning of a tag. -/
def resolveTag (handle : Option String) (suffix : String) : Read String := do
  match handle with
  | none => return suffix
  | some handle =>
    match (← get).handles.lookup handle with
    | some meaning => return meaning ++ suffix
    | none => refuse

/-- An anchor and a tag, in either order. -/
def properties : Read Properties := do
  let takeAnchor : Read (Option String) := do
    match ← peek with
    | .anchor name => drop; return some name
    | _ => return none
  let takeTag : Read (Option (Option String × String)) := do
    match ← peek with
    | .tag handle suffix => drop; return some (handle, suffix)
    | _ => return none
  let early? ← takeAnchor
  let tag? ← takeTag
  let anchor? ← if early?.isSome || tag?.isNone then pure early? else takeAnchor
  match tag? with
  | none => return { anchor := anchor? }
  | some (handle, suffix) => return { anchor := anchor?, tag := some (← resolveTag handle suffix) }

/-- Gives the next number to a node, which an anchor may name. -/
def place (anchor : Option String) (node : Node) : Read NodeNumber :=
  modifyGet fun reader =>
    let number := reader.nodes.size
    let named := (anchor.map fun anchor => (anchor, number)).toList
    (number, { reader with nodes := reader.nodes.push node, anchors := named ++ reader.anchors })

/-- Gives content to a node that has been placed. -/
def complete (number : NodeNumber) (content : NodeContent) : Read Unit :=
  modify fun reader => { reader with nodes := reader.nodes.fill number content }

/-- Reads the content of a collection, one level further in. -/
def inside {α : Type} (content : Read α) : Read α := do
  let depth := (← get).depth + 1
  if (← get).deepest < depth then throw (.broken .endlessDescent)
  modify fun reader => { reader with depth }
  let result ← content
  modify fun reader => { reader with depth := depth - 1 }
  return result

/-- Refuses an anchor that names a node already. -/
def checkAnchor (anchor : Option String) : Read Unit := do
  match anchor with
  | none => return
  | some anchor => if ((← get).anchors.lookup anchor).isSome then refuse

def collectionTag (tag : Option String) (default : String) : String :=
  match tag with
  | some tag => if tag = "!" then standardTag default else tag
  | none => standardTag default

def scalarTag (tag : Option String) (content : String) (plain : Bool) : String :=
  match tag with
  | some tag => if tag = "!" then plainTag content else tag
  | none => if plain then plainTag content else standardTag "str"

def emptyNode : Read NodeNumber :=
  place none ⟨plainTag "", .scalar ""⟩

/-- Which collection a node is, by its first token. -/
inductive Style where
  | blockSequence
  | blockMapping
  | flowSequence
  | flowMapping
  | bareSequence
  deriving DecidableEq, Repr, Inhabited

def Style.isMapping : Style → Bool
  | .blockMapping | .flowMapping => true
  | _ => false

/-- The collection that begins with a token. A sequence without indentation of its own begins
with its first hyphen, where it is allowed. -/
def style? (inBlock bareAllowed : Bool) : Token → Option Style
  | .flowSequenceStart => some .flowSequence
  | .flowMappingStart => some .flowMapping
  | .blockSequenceStart => if inBlock then some .blockSequence else none
  | .blockMappingStart => if inBlock then some .blockMapping else none
  | .blockEntry => if bareAllowed then some .bareSequence else none
  | _ => none

/-- Whether a token ends an entry of a block mapping. -/
def endsBlockEntry (token : Token) : Bool :=
  [Token.key, .value, .blockEnd].contains token

/-- Whether a token ends an entry of a flow collection that a given token closes. -/
def endsFlowEntry (closing token : Token) : Bool :=
  [Token.flowEntry, closing].contains token

mutual

def node : Nat → Bool → Bool → Read NodeNumber
  | 0, _, _ => refuse
  | bound + 1, inBlock, bareAllowed => do
    match ← peek with
    | .alias anchor =>
      drop
      match (← get).anchors.lookup anchor with
      | some named => return named
      | none => refuse
    | _ =>
      let properties ← properties
      let token ← peek
      match style? inBlock bareAllowed token with
      | some style =>
        checkAnchor properties.anchor
        collection bound style properties
      | none =>
        let content? ← match token with
          | .scalar content plain => drop; pure (some (content, plain))
          | _ =>
            if properties.anchor.isNone && properties.tag.isNone then refuse
            else pure (some ("", properties.tag.isNone))
        checkAnchor properties.anchor
        let (content, plain) := content?.getD ("", true)
        place properties.anchor ⟨scalarTag properties.tag content plain, .scalar content⟩

/-- A collection, whose anchor may be used inside it. -/
def collection : Nat → Style → Properties → Read NodeNumber
  | 0, _, _ => refuse
  | bound + 1, style, properties => do
    if style.isMapping then
      let tag := collectionTag properties.tag "map"
      let number ← place properties.anchor ⟨tag, .mapping []⟩
      complete number (.mapping (← inside (entries bound style)))
      return number
    else
      let tag := collectionTag properties.tag "seq"
      let number ← place properties.anchor ⟨tag, .sequence []⟩
      complete number (.sequence (← inside (items bound style)))
      return number

/-- The entries of a mapping from its first token on. -/
def entries : Nat → Style → Read (List NodeEntry)
  | 0, _ => refuse
  | bound + 1, style => do
    drop
    if style = .flowMapping then flowEntries bound true else blockEntries bound

/-- The items of a sequence from its first token on. -/
def items : Nat → Style → Read (List NodeNumber)
  | 0, _ => refuse
  | bound + 1, style => do
    match style with
    | .bareSequence => bareItems bound
    | .flowSequence => drop; flowItems bound true
    | _ => drop; blockItems bound

/-- The items of a block sequence up to its end. -/
def blockItems : Nat → Read (List NodeNumber)
  | 0 => refuse
  | bound + 1 => do
    if ← dropIf .blockEntry then
      let token ← peek
      let item ← if token = .blockEntry || token = .blockEnd then emptyNode
        else node bound true false
      return item :: (← blockItems bound)
    else
      expect .blockEnd
      return []

/-- The items of a sequence without indentation of its own. -/
def bareItems : Nat → Read (List NodeNumber)
  | 0 => refuse
  | bound + 1 => do
    if ← dropIf .blockEntry then
      let token ← peek
      let item ← if token = .blockEntry || endsBlockEntry token then emptyNode
        else node bound true false
      return item :: (← bareItems bound)
    else return []

/-- The entries of a block mapping up to its end. -/
def blockEntries : Nat → Read (List NodeEntry)
  | 0 => refuse
  | bound + 1 => do
    if ← dropIf .key then
      let key ← if endsBlockEntry (← peek) then emptyNode else node bound true true
      let content ← blockContent bound
      return (key, content) :: (← blockEntries bound)
    else
      expect .blockEnd
      return []

/-- The content after a key of a block mapping. -/
def blockContent : Nat → Read NodeNumber
  | 0 => refuse
  | bound + 1 => do
    if ← dropIf .value then
      if endsBlockEntry (← peek) then emptyNode else node bound true true
    else emptyNode

/-- The items of a flow sequence up to its end; a key makes an item a mapping of one entry. -/
def flowItems : Nat → Bool → Read (List NodeNumber)
  | 0, _ => refuse
  | bound + 1, isFirst => do
    if ← dropIf .flowSequenceEnd then return []
    if !isFirst then
      expect .flowEntry
    if ← dropIf .key then
      let number ← place none ⟨standardTag "map", .mapping []⟩
      complete number (.mapping [← inside (loneEntry bound)])
      return number :: (← flowItems bound false)
    else if ← dropIf .flowSequenceEnd then return []
    else
      let item ← node bound false false
      return item :: (← flowItems bound false)

def loneEntry : Nat → Read NodeEntry
  | 0 => refuse
  | bound + 1 => do
    let token ← peek
    let key ← if token = .value || endsFlowEntry .flowSequenceEnd token then emptyNode
      else node bound false false
    return (key, ← flowContent bound .flowSequenceEnd)

/-- The entries of a flow mapping up to its end; a key may stand without a colon. -/
def flowEntries : Nat → Bool → Read (List NodeEntry)
  | 0, _ => refuse
  | bound + 1, isFirst => do
    if ← dropIf .flowMappingEnd then return []
    if !isFirst then
      expect .flowEntry
    if ← dropIf .key then
      let token ← peek
      let key ← if token = .value || endsFlowEntry .flowMappingEnd token then emptyNode
        else node bound false false
      let content ← flowContent bound .flowMappingEnd
      return (key, content) :: (← flowEntries bound false)
    else if ← dropIf .flowMappingEnd then return []
    else
      let key ← node bound false false
      return (key, ← emptyNode) :: (← flowEntries bound false)

/-- The content after a key of a flow collection that a given token closes. -/
def flowContent : Nat → Token → Read NodeNumber
  | 0, _ => refuse
  | bound + 1, closing => do
    if ← dropIf .value then
      if endsFlowEntry closing (← peek) then emptyNode else node bound false false
    else emptyNode

end

/-- The directives before a document: at most one version, which must be the first major one, and
at most one meaning for each handle. -/
def directives : Nat → Bool → List (String × String) → Read (List (String × String))
  | 0, _, _ => refuse
  | bound + 1, hasVersion, handles => do
    match ← peek with
    | .directive (.version major) =>
      drop
      if hasVersion || major ≠ 1 then refuse else directives bound true handles
    | .directive (.tagHandle handle meaning) =>
      drop
      if (handles.lookup handle).isSome then refuse
      else directives bound hasVersion ((handle, meaning) :: handles)
    | .directive .unknown =>
      drop
      directives bound hasVersion handles
    | _ => return handles

/-- The content of a document after its start. -/
def explicitContent (bound : Nat) : Read NodeNumber := do
  match ← peek with
  | .directive _ | .documentStart | .documentEnd | .streamEnd => emptyNode
  | _ => node bound true false

def explicitDocument (bound : Nat) : Read NodeNumber := do
  let handles ← directives bound false []
  modify fun reader => { reader with handles := handles ++ reader.handles }
  expect .documentStart
  explicitContent bound

/-- Drops marks of document ends. -/
def dropEnds : Nat → Read Unit
  | 0 => return
  | bound + 1 => do
    if ← dropIf .documentEnd then dropEnds bound

def document (bound : Nat) : Read (Option NodeNumber) := do
  match ← peek with
  | .streamEnd => return none
  | token =>
    let root ← match token with
      | .directive _ | .documentStart => explicitDocument bound
      | _ => node bound true false
    dropEnds bound
    if (← peek) = .streamEnd then return some root
    let _ ← directives bound false []
    refuse

end Read

/-- The only document of a token sequence, if it has one. The sequence may be cut short by a fault,
which arises only when its place is reached. -/
def Document.ofTokens (descent : Descent) (tokens : List Token) (ending : Option Fault) :
    Except Fault (Option Document) := do
  let reader : Reader :=
    { tokens := tokens, ending := ending.getD .malformed, deepest := descent.collections }
  let (root?, read) ← (Read.document (4 * tokens.length + 4)).run reader
  return root?.map fun root => { nodes := read.nodes, root }

end ErrorDerive.Yaml
