import ErrorDerive.Yaml.Node
import ErrorDerive.Yaml.PlainTag
import ErrorDerive.Yaml.Token

/-!
# Merge keys

An entry under a merge key stands for the entries of a mapping, or of several mappings of which a
later one yields to an earlier one. Carrying out a merge changes the mapping for everyone who uses
it: the entry goes, and the ones that it stands for come in front of the others. The default key of
a mapping, too, becomes an ordinary text then.

* `Nodes.merge` carries out all merges of one mapping, and of the mappings that it merges.
-/

namespace ErrorDerive.Yaml

namespace Nodes

/-- Whether an entry stands under a merge key. -/
def isMerge (nodes : Nodes) (entry : NodeEntry) : Bool :=
  nodes.tag entry.1 == standardTag "merge"

/-- Makes the default keys among entries ordinary texts. -/
def settleDefaults (nodes : Nodes) (entries : List NodeEntry) : Nodes :=
  entries.foldl (fun nodes (key, _) =>
    if nodes.tag key == standardTag "value" then nodes.retag key (standardTag "str")
    else nodes) nodes

/-- A bound on how many merges can be carried out inside one another: each removes an entry. -/
def mergeBound (nodes : Nodes) : Nat :=
  nodes.foldl (fun total node =>
    match node.content with
    | .mapping entries => total + entries.length
    | _ => total) 1

end Nodes

/-- Changing the nodes of a document; the first fault ends everything. -/
abbrev Edit (α : Type) := StateT Nodes (Except Fault) α

namespace Edit

mutual

/-- Carries out the merges of a mapping from a position on, with the entries that the merges before
it have brought. -/
def mergeFrom : Nat → NodeNumber → Nat → List NodeEntry → Edit Unit
  | 0, _, _, _ => throw .malformed
  | bound + 1, number, position, brought => do
    let nodes ← get
    let entries := nodes.entries number
    match (entries.drop position).findIdx? nodes.isMerge with
    | none =>
      let settled := nodes.settleDefaults entries
      set (if brought.isEmpty then settled else settled.fill number (.mapping (brought ++ entries)))
    | some distance =>
      let place := position + distance
      set (nodes.fill number (.mapping (entries.eraseIdx place)))
      let more ← mergedEntries bound ((entries[place]?.map Prod.snd).getD number)
      mergeFrom bound number place (brought ++ more)

/-- The entries that the content of a merge key stands for. -/
def mergedEntries : Nat → NodeNumber → Edit (List NodeEntry)
  | 0, _ => throw .malformed
  | bound + 1, number => do
    match ((← get).node number).content with
    | .mapping _ =>
      mergeFrom bound number 0 []
      return (← get).entries number
    | .sequence items =>
      let groups ← items.mapM fun item => do
        match ((← get).node item).content with
        | .mapping _ =>
          mergeFrom bound item 0 []
          return (← get).entries item
        | _ => throw .malformed
      return groups.reverse.flatten
    | .scalar _ => throw .malformed

end

end Edit

/-- The nodes after all merges of a mapping. Where there are none, only its default keys change. -/
def Nodes.merge (nodes : Nodes) (number : NodeNumber) : Except Fault Nodes := do
  let entries := nodes.entries number
  if !entries.any nodes.isMerge then return nodes.settleDefaults entries
  let (_, merged) ← (Edit.mergeFrom (2 * nodes.mergeBound) number 0 []).run nodes
  return merged

end ErrorDerive.Yaml
