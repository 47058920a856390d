import ErrorDerive.Proofs.Yaml.DocumentCauses
import ErrorDerive.Proofs.Yaml.TokenCauses
import ErrorDerive.Yaml.Content

/-!
# Breakdowns between nodes and values

A scalar breaks down where its text does not have the form of its tag: as a truth value, a number or
a time.  Texts, bytes and nothing at all do not break down.

* `ScalarKind.causes` are the causes of each kind of scalar;
* `keeps_fill` says that filling a collection has no further causes, and `failsAmong_read` says this
  of reading a whole text.
-/

namespace ErrorDerive.Yaml

/-! ## Scalars -/

/-- What a scalar of a kind may break down from. -/
def ScalarKind.causes : ScalarKind → List Breakdown
  | .null | .binary | .text => []
  | .bool => [.unknownTruthWord]
  | .int => [.emptyNumeral, .impossibleValue]
  | .float => [.emptyNumeral, .impossibleValue, .oversizedNumber]
  | .timestamp => [.shapelessTime, .impossibleValue]

theorem failsAmong_truthValue (content : String) :
    FailsAmong ScalarKind.bool.causes (truthValue content) := by
  unfold truthValue
  split
  · exact .ok _
  · exact .broken (by decide)

theorem failsAmong_integerValue (content : String) :
    FailsAmong ScalarKind.int.causes (integerValue content) := by
  refine .ite (.broken (by decide)) ?_
  split
  · exact .ok _
  · exact .broken (by decide)

theorem failsAmong_addSixties (total : Double) (scale : Nat) (groups : List Double) :
    FailsAmong ScalarKind.float.causes (addSixties total scale groups) := by
  induction groups generalizing total scale with
  | nil =>
      exact .ok _
  | cons group rest inductionHypothesis =>
      rw [addSixties]
      split
      · exact .broken (by decide)
      · exact inductionHypothesis _ _

theorem failsAmong_sixtyDouble (letters : List Char) :
    FailsAmong ScalarKind.float.causes (sixtyDouble letters) := by
  unfold sixtyDouble
  split
  · exact failsAmong_addSixties _ _ _
  · exact .broken (by decide)

theorem failsAmong_doubleValue (content : String) :
    FailsAmong ScalarKind.float.causes (doubleValue content) := by
  have noNumeral : (Fault.broken .emptyNumeral).IsAmong ScalarKind.float.causes := by
    exact List.mem_cons_self
  unfold doubleValue
  refine .stopIf noNumeral (.ite ?_ (.ite ?_ (.ite ?_ ?_)))
  · exact FailsAmong.bind (.ok _) fun _ => .ok _
  · exact FailsAmong.bind (.ok _) fun _ => .ok _
  · exact (failsAmong_sixtyDouble _).bind fun _ => .ok _
  · dsimp only
    split
    · exact FailsAmong.bind (.ok _) fun _ => .ok _
    · exact FailsAmong.bind (.broken (by decide)) fun _ => .ok _

theorem failsAmong_bytesValue (content : String) :
    FailsAmong ScalarKind.binary.causes (bytesValue content) := by
  refine .ite .malformed ?_
  split
  · exact .ok _
  · exact .malformed

theorem failsAmong_timeValue (content : String) :
    FailsAmong ScalarKind.timestamp.causes (timeValue content) := by
  unfold timeValue
  split
  · exact .broken (by decide)
  · exact .ite (.ok _) (.broken (by decide))
  · exact .ite (.ok _) (.broken (by decide))

theorem failsAmong_scalarValue (kind : ScalarKind) (content : String) :
    FailsAmong kind.causes (scalarValue kind content) := by
  cases kind with
  | null => exact .ok _
  | bool => exact failsAmong_truthValue content
  | int => exact failsAmong_integerValue content
  | float => exact failsAmong_doubleValue content
  | binary => exact failsAmong_bytesValue content
  | timestamp => exact failsAmong_timeValue content
  | text => exact .ok _

/-! ## Merges -/

namespace Edit

/-- A part of changing nodes that is never a breakdown. -/
abbrev IsCalm {α : Type} (part : Edit α) : Prop :=
  Keeps (fun _ => True) [] part

theorem keeps_merges (bound : Nat) :
    (∀ number position brought, IsCalm (mergeFrom bound number position brought)) ∧
      ∀ number, IsCalm (mergedEntries bound number) := by
  induction bound with
  | zero =>
      exact ⟨fun _ _ _ => .malformed, fun _ => .malformed⟩
  | succ bound inductionHypothesis =>
      obtain ⟨merges, brings⟩ := inductionHypothesis
      constructor
      · intro number position brought
        rw [mergeFrom]
        refine .get_bind fun nodes _ => ?_
        dsimp only
        split
        · exact .set trivial
        · refine Keeps.bind (.set trivial) fun _ => ?_
          exact (brings _).bind fun _ => merges _ _ _
      · intro number
        rw [mergedEntries]
        refine .get_bind fun nodes _ => ?_
        split
        · exact (merges _ _ _).bind fun _ => .get_bind fun _ _ => .pure _
        · refine Keeps.bind (.mapM (fun item => ?_) _) fun _ => .pure _
          refine .get_bind fun _ _ => ?_
          split
          · exact (merges _ _ _).bind fun _ => .get_bind fun _ _ => .pure _
          · exact .malformed
        · exact .malformed

end Edit

theorem failsAmong_merge (nodes : Nodes) (number : NodeNumber) :
    FailsAmong [] (nodes.merge number) := by
  refine .ite (.ok _) ?_
  have fails := ((Edit.keeps_merges (2 * nodes.mergeBound)).1 number 0 [] nodes trivial).1
  exact fails.bind fun _ => .ok _

/-! ## Collections -/

/-- What putting values together may break down from. -/
def valueCauses : List Breakdown :=
  [.unknownTruthWord, .emptyNumeral, .shapelessTime, .timeNotText, .impossibleValue,
    .oversizedNumber, .endlessDescent]

theorem ScalarKind.causes_subset (kind : ScalarKind) : kind.causes ⊆ valueCauses := by
  cases kind <;> decide

theorem nodeCauses_subset : nodeCauses ⊆ valueCauses := by
  decide

theorem failsAmong_text (nodes : Nodes) (room : Nat) (number : NodeNumber) :
    FailsAmong valueCauses (nodes.text room number) := by
  induction room generalizing number with
  | zero =>
      exact .broken (by decide)
  | succ room inductionHypothesis =>
      rw [Nodes.text]
      split
      · exact .ok _
      · exact .malformed
      · split
        · exact inductionHypothesis _
        · exact .malformed

theorem failsAmong_scalar
    (nodes : Nodes) (room : Nat) (kind : ScalarKind) (number : NodeNumber) :
    FailsAmong valueCauses (nodes.scalar room kind number) := by
  refine (failsAmong_text _ _ _).bind fun content => ?_
  have fails := (failsAmong_scalarValue kind content).mono kind.causes_subset
  split
  · exact fails
  · exact .ite (.broken (by decide)) fails

namespace Build

/-- A part of building a value that has no other breakdowns. -/
abbrev IsBounded {α : Type} (part : Build α) : Prop :=
  Keeps (fun _ => True) valueCauses part

theorem keeps_setPart (number : NodeNumber) (part : Part) : IsBounded (setPart number part) :=
  .modify fun _ _ => trivial

theorem keeps_node (number : NodeNumber) : IsBounded (node number) := by
  refine .get_bind fun building _ => ?_
  refine .ite (.pure _) ?_
  dsimp only
  split
  · exact (keeps_setPart _ _).bind fun _ => .modify fun _ _ => trivial
  · exact (Keeps.lift (failsAmong_scalar _ _ _ _)).bind fun _ => keeps_setPart _ _
  · exact .malformed

theorem keeps_key (number : NodeNumber) : IsBounded (key number) := by
  refine (keeps_node number).bind fun _ => .get_bind fun building _ => ?_
  split
  · exact .pure _
  · exact .malformed

theorem keeps_entries (number : NodeNumber) : IsBounded (entries number) := by
  refine .get_bind fun building _ => ?_
  split
  · refine .get_bind fun building _ => ?_
    refine (Keeps.lift ((failsAmong_merge _ _).mono (List.nil_subset _))).bind fun merged => ?_
    refine Keeps.bind (.modify fun _ _ => trivial) fun _ => ?_
    refine Keeps.bind (.mapM (fun entry => ?_) _) fun _ => .pure _
    exact (keeps_key _).bind fun _ => (keeps_node _).bind fun _ => .pure _
  · exact .malformed

theorem keeps_pair (number : NodeNumber) : IsBounded (pair number) := by
  refine .get_bind fun building _ => ?_
  split
  · exact (keeps_node _).bind fun _ => (keeps_node _).bind fun _ => .pure _
  · exact .malformed

theorem keeps_items (number : NodeNumber) : IsBounded (items number) := by
  refine .get_bind fun building _ => ?_
  split
  · exact .pure _
  · exact .malformed

theorem keeps_fill (number : NodeNumber) (kind : CollectionKind) :
    IsBounded (fill number kind) := by
  cases kind with
  | list =>
      refine (keeps_items number).bind fun _ => ?_
      exact (Keeps.forM keeps_node _).bind fun _ => keeps_setPart _ _
  | pairs =>
      refine (keeps_items number).bind fun _ => ?_
      exact (Keeps.mapM keeps_pair _).bind fun _ => keeps_setPart _ _
  | set =>
      exact (keeps_entries number).bind fun _ => keeps_setPart _ _
  | mapping =>
      exact (keeps_entries number).bind fun _ => keeps_setPart _ _

theorem keeps_fillFrom (bound place : Nat) : IsBounded (fillFrom bound place) := by
  induction bound generalizing place with
  | zero =>
      exact .pure _
  | succ bound inductionHypothesis =>
      rw [fillFrom]
      refine .get_bind fun building _ => ?_
      split
      · exact .pure _
      · exact (keeps_fill _ _).bind fun _ => inductionHypothesis _

theorem keeps_document (document : Document) : IsBounded (Build.document document) :=
  (keeps_node _).bind fun _ => keeps_fillFrom _ _

end Build

theorem failsAmong_value (process : Process) (document : Document) :
    FailsAmong valueCauses (document.value process) := by
  have fails := (Build.keeps_document document
    { nodes := document.nodes
      defaultKeys := process.descent.defaultKeys
      parts := Array.replicate document.nodes.size none } trivial).1
  exact fails.bind fun _ => .ok _

/-! ## Texts -/

theorem tokenCauses_subset : tokenCauses ⊆ nodeCauses := by
  decide

/-- Reading a text. -/
theorem failsAmong_read (process : Process) (text : String) :
    FailsAmong valueCauses (read process text) := by
  have ends : ∀ fault, (tokens text.toList).2 = some fault → fault.IsAmong nodeCauses :=
    fun fault cut => (isAmong_of_tokens cut).mono tokenCauses_subset
  refine ((failsAmong_ofTokens ends).mono nodeCauses_subset).bind fun document? => ?_
  split
  · exact .ok _
  · exact failsAmong_value _ _

end ErrorDerive.Yaml
