import ErrorDerive.Proofs.Yaml.Causes
import ErrorDerive.Yaml.Document

/-!
# Breakdowns between tokens and nodes

Reading nodes breaks down where collections stand inside one another too deep, and from the fault
that waits behind the last token.

* `keeps_document` says this of reading a document, from one function that reads nodes to the next;
* `failsAmong_ofTokens` says it of a token sequence.
-/

namespace ErrorDerive.Yaml

/-- What reading nodes may break down from. -/
def nodeCauses : List Breakdown := [.endlessDescent, .impossibleValue, .oversizedNumber]

namespace Read

/-- The fault that waits behind the last token is none but those of reading nodes. -/
def EndsAmong (reader : Reader) : Prop :=
  reader.ending.IsAmong nodeCauses

/-- A part of reading nodes that has no other breakdowns. -/
abbrev IsBounded {α : Type} (part : Read α) : Prop :=
  Keeps EndsAmong nodeCauses part

/-! ## Single tokens -/

theorem keeps_peek : IsBounded peek := by
  refine .get_bind fun reader ends => ?_
  split
  · exact .pure _
  · exact .throw ends

theorem keeps_drop : IsBounded drop :=
  .modify fun _ ends => ends

theorem keeps_dropIf (token : Token) : IsBounded (dropIf token) := by
  refine keeps_peek.bind fun _ => ?_
  exact .ite (keeps_drop.bind fun _ => .pure _) (.pure _)

theorem keeps_expect (token : Token) : IsBounded (expect token) := by
  refine (keeps_dropIf token).bind fun _ => ?_
  exact .ite .malformed (.pure _)

theorem keeps_resolveTag (handle : Option String) (suffix : String) :
    IsBounded (resolveTag handle suffix) := by
  unfold resolveTag
  split
  · exact .pure _
  · refine .get_bind fun reader _ => ?_
    split
    · exact .pure _
    · exact .malformed

theorem keeps_properties : IsBounded properties := by
  unfold properties
  extract_lets takeAnchor takeTag
  have keepsAnchor : IsBounded takeAnchor := by
    refine keeps_peek.bind fun _ => ?_
    split
    · exact keeps_drop.bind fun _ => .pure _
    · exact .pure _
  have keepsTag : IsBounded takeTag := by
    refine keeps_peek.bind fun _ => ?_
    split
    · exact keeps_drop.bind fun _ => .pure _
    · exact .pure _
  refine keepsAnchor.bind fun _ => keepsTag.bind fun tag? => ?_
  extract_lets withAnchor
  have keepsRest : ∀ anchor?, IsBounded (withAnchor anchor?) := by
    intro anchor?
    cases tag? with
    | none => exact .pure _
    | some tag => exact (keeps_resolveTag _ _).bind fun _ => .pure _
  refine .ite ?_ ?_
  · exact Keeps.bind (.pure _) keepsRest
  · exact keepsAnchor.bind keepsRest

theorem keeps_place (anchor : Option String) (node : Node) : IsBounded (place anchor node) :=
  .modifyGet fun _ ends => ends

theorem keeps_complete (number : NodeNumber) (content : NodeContent) :
    IsBounded (complete number content) :=
  .modify fun _ ends => ends

theorem keeps_inside {α : Type} {content : Read α} (keeps : IsBounded content) :
    IsBounded (inside content) := by
  refine .get_bind fun _ _ => .get_bind fun _ _ => ?_
  -- The only breakdown of reading nodes that does not come from the tokens.
  have isCause : (Fault.broken .endlessDescent).IsAmong nodeCauses := List.mem_cons_self
  refine .stopIf isCause ?_
  refine Keeps.bind (.modify fun _ ends => ends) fun _ => ?_
  refine keeps.bind fun _ => ?_
  exact Keeps.bind (.modify fun _ ends => ends) fun _ => .pure _

theorem keeps_checkAnchor (anchor : Option String) : IsBounded (checkAnchor anchor) := by
  unfold checkAnchor
  split
  · exact .pure _
  · refine .get_bind fun _ _ => ?_
    exact .ite .malformed (.pure _)

theorem keeps_emptyNode : IsBounded emptyNode :=
  keeps_place _ _

/-! ## Nodes -/

/-- The functions that read nodes have no other breakdowns.  They call one another with a smaller
bound, so this is shown of all of them at once, by induction on the bound. -/
structure NodesAreBounded (bound : Nat) : Prop where
  node : ∀ inBlock bareAllowed, IsBounded (node bound inBlock bareAllowed)
  collection : ∀ style properties, IsBounded (collection bound style properties)
  entries : ∀ style, IsBounded (entries bound style)
  items : ∀ style, IsBounded (items bound style)
  blockItems : IsBounded (blockItems bound)
  bareItems : IsBounded (bareItems bound)
  blockEntries : IsBounded (blockEntries bound)
  blockContent : IsBounded (blockContent bound)
  flowItems : ∀ isFirst, IsBounded (flowItems bound isFirst)
  loneEntry : IsBounded (loneEntry bound)
  flowEntries : ∀ isFirst, IsBounded (flowEntries bound isFirst)
  flowContent : ∀ closing, IsBounded (flowContent bound closing)

section Step

variable {bound : Nat} (bounded : NodesAreBounded bound)
include bounded

theorem keeps_node (inBlock bareAllowed : Bool) :
    IsBounded (node (bound + 1) inBlock bareAllowed) := by
  rw [node]
  refine keeps_peek.bind fun _ => ?_
  split
  · refine keeps_drop.bind fun _ => .get_bind fun _ _ => ?_
    split
    · exact .pure _
    · exact .malformed
  · refine keeps_properties.bind fun properties => ?_
    refine keeps_peek.bind fun token => ?_
    split
    · exact (keeps_checkAnchor _).bind fun _ => bounded.collection _ _
    · have placed : ∀ (content : String) (plain : Bool), IsBounded (do
          checkAnchor properties.anchor
          place properties.anchor ⟨scalarTag properties.tag content plain, .scalar content⟩) :=
        fun _ _ => (keeps_checkAnchor _).bind fun _ => keeps_place _ _
      dsimp only
      split
      · exact keeps_drop.bind fun _ => Keeps.bind (.pure _) fun _ => placed _ _
      · refine .ite ?_ ?_
        · exact Keeps.malformed.bind fun _ => placed _ _
        · exact Keeps.bind (.pure _) fun _ => placed _ _

theorem keeps_collection (style : Style) (properties : Properties) :
    IsBounded (collection (bound + 1) style properties) := by
  rw [collection]
  refine .ite ?_ ?_
  · refine (keeps_place _ _).bind fun _ => ?_
    refine (keeps_inside (bounded.entries _)).bind fun _ => ?_
    exact (keeps_complete _ _).bind fun _ => .pure _
  · refine (keeps_place _ _).bind fun _ => ?_
    refine (keeps_inside (bounded.items _)).bind fun _ => ?_
    exact (keeps_complete _ _).bind fun _ => .pure _

theorem keeps_entries (style : Style) : IsBounded (entries (bound + 1) style) := by
  rw [entries]
  exact keeps_drop.bind fun _ => .ite (bounded.flowEntries _) bounded.blockEntries

theorem keeps_items (style : Style) : IsBounded (items (bound + 1) style) := by
  cases style with
  | bareSequence =>
      exact bounded.bareItems
  | flowSequence =>
      exact keeps_drop.bind fun _ => bounded.flowItems _
  | blockSequence | blockMapping | flowMapping =>
      exact keeps_drop.bind fun _ => bounded.blockItems

theorem keeps_blockItems : IsBounded (blockItems (bound + 1)) := by
  have onward : ∀ item, IsBounded (do return item :: (← blockItems bound)) :=
    fun _ => bounded.blockItems.bind fun _ => .pure _
  rw [blockItems]
  refine (keeps_dropIf _).bind fun _ => .ite ?_ ?_
  · refine keeps_peek.bind fun _ => .ite ?_ ?_
    · exact keeps_emptyNode.bind onward
    · exact (bounded.node _ _).bind onward
  · exact (keeps_expect _).bind fun _ => .pure _

theorem keeps_bareItems : IsBounded (bareItems (bound + 1)) := by
  have onward : ∀ item, IsBounded (do return item :: (← bareItems bound)) :=
    fun _ => bounded.bareItems.bind fun _ => .pure _
  rw [bareItems]
  refine (keeps_dropIf _).bind fun _ => .ite ?_ (.pure _)
  refine keeps_peek.bind fun _ => .ite ?_ ?_
  · exact keeps_emptyNode.bind onward
  · exact (bounded.node _ _).bind onward

theorem keeps_blockEntries : IsBounded (blockEntries (bound + 1)) := by
  have onward : ∀ key, IsBounded (do
      let content ← blockContent bound
      return (key, content) :: (← blockEntries bound)) :=
    fun _ => bounded.blockContent.bind fun _ => bounded.blockEntries.bind fun _ => .pure _
  rw [blockEntries]
  refine (keeps_dropIf _).bind fun _ => .ite ?_ ?_
  · refine keeps_peek.bind fun _ => .ite ?_ ?_
    · exact keeps_emptyNode.bind onward
    · exact (bounded.node _ _).bind onward
  · exact (keeps_expect _).bind fun _ => .pure _

theorem keeps_blockContent : IsBounded (blockContent (bound + 1)) := by
  rw [blockContent]
  refine (keeps_dropIf _).bind fun _ => .ite ?_ keeps_emptyNode
  exact keeps_peek.bind fun _ => .ite keeps_emptyNode (bounded.node _ _)

theorem keeps_flowItems (isFirst : Bool) : IsBounded (flowItems (bound + 1) isFirst) := by
  rw [flowItems]
  refine (keeps_dropIf _).bind fun _ => .ite (.pure _) ?_
  have afterComma : IsBounded (do
      if ← dropIf .key then
        let number ← place none ⟨standardTag "map", .mapping []⟩
        complete number (.mapping [← inside (loneEntry bound)])
        return number :: (← flowItems bound false)
      else if ← dropIf .flowSequenceEnd then return []
      else
        let item ← node bound false false
        return item :: (← flowItems bound false)) := by
    refine (keeps_dropIf _).bind fun _ => .ite ?_ ?_
    · refine (keeps_place _ _).bind fun _ => ?_
      refine (keeps_inside bounded.loneEntry).bind fun _ => ?_
      refine (keeps_complete _ _).bind fun _ => ?_
      exact (bounded.flowItems _).bind fun _ => .pure _
    · refine (keeps_dropIf _).bind fun _ => .ite (.pure _) ?_
      exact (bounded.node _ _).bind fun _ => (bounded.flowItems _).bind fun _ => .pure _
  exact .ite ((keeps_expect _).bind fun _ => afterComma) afterComma

theorem keeps_loneEntry : IsBounded (loneEntry (bound + 1)) := by
  have onward : ∀ key : NodeNumber,
      IsBounded (do return (key, ← flowContent bound .flowSequenceEnd)) :=
    fun _ => (bounded.flowContent _).bind fun _ => .pure _
  rw [loneEntry]
  refine keeps_peek.bind fun _ => .ite ?_ ?_
  · exact keeps_emptyNode.bind onward
  · exact (bounded.node _ _).bind onward

theorem keeps_flowEntries (isFirst : Bool) : IsBounded (flowEntries (bound + 1) isFirst) := by
  have onward : ∀ key, IsBounded (do
      let content ← flowContent bound .flowMappingEnd
      return (key, content) :: (← flowEntries bound false)) :=
    fun _ => (bounded.flowContent _).bind fun _ => (bounded.flowEntries _).bind fun _ => .pure _
  rw [flowEntries]
  refine (keeps_dropIf _).bind fun _ => .ite (.pure _) ?_
  have afterComma : IsBounded (do
      if ← dropIf .key then
        let token ← peek
        let key ← if token = .value || endsFlowEntry .flowMappingEnd token then emptyNode
          else node bound false false
        let content ← flowContent bound .flowMappingEnd
        return (key, content) :: (← flowEntries bound false)
      else if ← dropIf .flowMappingEnd then return []
      else
        let key ← node bound false false
        return (key, ← emptyNode) :: (← flowEntries bound false)) := by
    refine (keeps_dropIf _).bind fun _ => .ite ?_ ?_
    · refine keeps_peek.bind fun _ => .ite ?_ ?_
      · exact keeps_emptyNode.bind onward
      · exact (bounded.node _ _).bind onward
    · refine (keeps_dropIf _).bind fun _ => .ite (.pure _) ?_
      refine (bounded.node _ _).bind fun _ => keeps_emptyNode.bind fun _ => ?_
      exact (bounded.flowEntries _).bind fun _ => .pure _
  exact .ite ((keeps_expect _).bind fun _ => afterComma) afterComma

theorem keeps_flowContent (closing : Token) : IsBounded (flowContent (bound + 1) closing) := by
  rw [flowContent]
  refine (keeps_dropIf _).bind fun _ => .ite ?_ keeps_emptyNode
  exact keeps_peek.bind fun _ => .ite keeps_emptyNode (bounded.node _ _)

end Step

theorem nodesAreBounded (bound : Nat) : NodesAreBounded bound := by
  induction bound with
  | zero =>
      constructor
      all_goals
        intros
        exact .malformed
  | succ bound inductionHypothesis =>
      exact {
        node := keeps_node inductionHypothesis
        collection := keeps_collection inductionHypothesis
        entries := keeps_entries inductionHypothesis
        items := keeps_items inductionHypothesis
        blockItems := keeps_blockItems inductionHypothesis
        bareItems := keeps_bareItems inductionHypothesis
        blockEntries := keeps_blockEntries inductionHypothesis
        blockContent := keeps_blockContent inductionHypothesis
        flowItems := keeps_flowItems inductionHypothesis
        loneEntry := keeps_loneEntry inductionHypothesis
        flowEntries := keeps_flowEntries inductionHypothesis
        flowContent := keeps_flowContent inductionHypothesis }

/-! ## Documents -/

theorem keeps_directives (bound : Nat) (hasVersion : Bool) (handles : List (String × String)) :
    IsBounded (directives bound hasVersion handles) := by
  induction bound generalizing hasVersion handles with
  | zero =>
      exact .malformed
  | succ bound inductionHypothesis =>
      rw [directives]
      refine keeps_peek.bind fun _ => ?_
      split
      · exact keeps_drop.bind fun _ => .ite .malformed (inductionHypothesis _ _)
      · exact keeps_drop.bind fun _ => .ite .malformed (inductionHypothesis _ _)
      · exact keeps_drop.bind fun _ => inductionHypothesis _ _
      · exact .pure _

theorem keeps_explicitContent (bound : Nat) : IsBounded (explicitContent bound) := by
  refine keeps_peek.bind fun _ => ?_
  split
  · exact keeps_emptyNode
  · exact keeps_emptyNode
  · exact keeps_emptyNode
  · exact keeps_emptyNode
  · exact (nodesAreBounded bound).node _ _

theorem keeps_explicitDocument (bound : Nat) : IsBounded (explicitDocument bound) := by
  refine (keeps_directives _ _ _).bind fun _ => ?_
  refine Keeps.bind (.modify fun _ ends => ends) fun _ => ?_
  exact (keeps_expect _).bind fun _ => keeps_explicitContent _

theorem keeps_dropEnds (bound : Nat) : IsBounded (dropEnds bound) := by
  induction bound with
  | zero =>
      exact .pure _
  | succ bound inductionHypothesis =>
      exact (keeps_dropIf _).bind fun _ => .ite inductionHypothesis (.pure _)

theorem keeps_document (bound : Nat) : IsBounded (document bound) := by
  refine keeps_peek.bind fun _ => ?_
  split
  · exact .pure _
  · have afterRoot : ∀ root, IsBounded (do
        dropEnds bound
        if (← peek) = .streamEnd then return some root
        let _ ← directives bound false []
        refuse : Read (Option NodeNumber)) := by
      intro root
      refine (keeps_dropEnds _).bind fun _ => keeps_peek.bind fun _ => .ite (.pure _) ?_
      exact (keeps_directives _ _ _).bind fun _ => .malformed
    dsimp only
    split
    · exact (keeps_explicitDocument _).bind afterRoot
    · exact (keeps_explicitDocument _).bind afterRoot
    · exact ((nodesAreBounded bound).node _ _).bind afterRoot

end Read

/-- Reading a document from a token sequence. -/
theorem failsAmong_ofTokens {descent : Descent} {tokens : List Token} {ending : Option Fault}
    (ends : ∀ fault, ending = some fault → fault.IsAmong nodeCauses) :
    FailsAmong nodeCauses (Document.ofTokens descent tokens ending) := by
  have endsAmong : (ending.getD .malformed).IsAmong nodeCauses := by
    cases ending with
    | none => trivial
    | some fault => exact ends fault rfl
  let reader : Reader :=
    { tokens := tokens, ending := ending.getD .malformed, deepest := descent.collections }
  have fails := (Read.keeps_document (4 * tokens.length + 4) reader endsAmong).1
  exact fails.bind fun _ => .ok _

end ErrorDerive.Yaml
