/-!
# Nodes

A document is a graph of nodes: tagged scalars, sequences and mappings. The parts of a sequence or
mapping are given by their numbers, so a node that an alias names again is one node, and a node may
even be a part of itself.
-/

namespace ErrorDerive.Yaml

/-- The number of a node in its document. -/
abbrev NodeNumber := Nat

/-- An entry of a mapping: the numbers of its key and of its content. -/
abbrev NodeEntry := NodeNumber × NodeNumber

/-- What a node holds. -/
inductive NodeContent where
  | scalar (text : String)
  | sequence (items : List NodeNumber)
  | mapping (entries : List NodeEntry)
  deriving DecidableEq, Repr, Inhabited

/-- A node of a document. -/
structure Node where
  tag : String
  content : NodeContent
  deriving DecidableEq, Repr, Inhabited

/-- The nodes of a document, each at its number. -/
abbrev Nodes := Array Node

namespace Nodes

def node (nodes : Nodes) (number : NodeNumber) : Node :=
  nodes.getD number default

def tag (nodes : Nodes) (number : NodeNumber) : String :=
  (nodes.node number).tag

/-- The entries of a mapping; other nodes have none. -/
def entries (nodes : Nodes) (number : NodeNumber) : List NodeEntry :=
  match (nodes.node number).content with
  | .mapping entries => entries
  | _ => []

/-- Gives a node another tag. -/
def retag (nodes : Nodes) (number : NodeNumber) (tag : String) : Nodes :=
  nodes.modify number fun node => { node with tag }

def fill (nodes : Nodes) (number : NodeNumber) (content : NodeContent) : Nodes :=
  nodes.modify number fun node => { node with content }

end Nodes

/-- A document: its nodes, and the one that holds all others. -/
structure Document where
  nodes : Nodes
  root : NodeNumber

end ErrorDerive.Yaml
