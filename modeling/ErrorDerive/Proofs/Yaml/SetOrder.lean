import ErrorDerive.Proofs.Judgement
import ErrorDerive.Proofs.PairedRows
import ErrorDerive.Yaml.Content

/-!
# Values in two orders

Two readings of one text may bring out the items of its sets in different orders.  The values that
are read are the same apart from this.

* `Value.Resembles` relates two such values;
* `Yaml.read_resembles` says that two readings of a text give them, or fail alike.
-/

namespace ErrorDerive

namespace Value

mutual

/-- Two values are the same, but for their sets: the items of each come out in one order in the
first value and in another order in the second. -/
inductive Resembles (order other : SetOrder) : Value → Value → Prop
  | refl (value : Value) : Resembles order other value value
  | set (items : List Value) :
      Resembles order other (.set (order.arrange items)) (.set (other.arrange items))
  | list {items others : List Value} : List.Forall₂ (Resembles order other) items others →
      Resembles order other (.list items) (.list others)
  | tuple {items others : List Value} : List.Forall₂ (Resembles order other) items others →
      Resembles order other (.tuple items) (.tuple others)
  | mapping {entries others : List (Value × Value)} :
      List.Forall₂ (EntryResembles order other) entries others →
      Resembles order other (.mapping entries) (.mapping others)
  | circle {parts others : List Value} (place : Nat) :
      List.Forall₂ (Resembles order other) parts others →
      Resembles order other (.circle parts place) (.circle others place)

/-- Two entries have one key, and contents that are the same but for their sets. -/
inductive EntryResembles (order other : SetOrder) : Value × Value → Value × Value → Prop
  | mk (key : Value) {content taken : Value} : Resembles order other content taken →
      EntryResembles order other (key, content) (key, taken)

end

variable {order other : SetOrder} {value taken : Value}

theorem EntryResembles.refl (entry : Value × Value) : EntryResembles order other entry entry :=
  .mk entry.1 (.refl entry.2)

theorem Resembles.forall₂_refl (items : List Value) :
    List.Forall₂ (Resembles order other) items items :=
  List.forall₂_same.mpr fun item _ => .refl item

theorem EntryResembles.forall₂_refl (entries : List (Value × Value)) :
    List.Forall₂ (EntryResembles order other) entries entries :=
  List.forall₂_same.mpr fun entry _ => .refl entry

/-! ## Values in circles -/

section

variable {parts others : List Value}
  (partsAlike : List.Forall₂ (Resembles order other) parts others)

include partsAlike

theorem Resembles.closedItem (alike : Resembles order other value taken) :
    Resembles order other (closedItem parts value) (closedItem others taken) := by
  -- Only a value that refers to a circle is changed, and it is the same in both orders.
  have unchanged := alike
  cases alike with
  | refl value =>
      cases value with
      | again place isMapping => exact .circle place partsAlike
      | _ => exact .refl _
  | set _ | list _ | tuple _ | mapping _ | circle _ _ => exact unchanged

theorem Resembles.closed (alike : Resembles order other value taken) :
    Resembles order other (closed parts value) (closed others taken) := by
  have closeItems {items itemsTaken : List Value}
      (itemsAlike : List.Forall₂ (Resembles order other) items itemsTaken) :
      Resembles order other (.tuple (items.map (Value.closedItem parts)))
        (.tuple (itemsTaken.map (Value.closedItem others))) :=
    .tuple (List.rel_map (fun _ _ alike => alike.closedItem partsAlike) itemsAlike)
  have unchanged := alike
  cases alike with
  | refl value =>
      cases value with
      | tuple items => exact closeItems (Resembles.forall₂_refl items)
      | again place isMapping => exact .circle place partsAlike
      | _ => exact .refl _
  | tuple items => exact closeItems items
  | set _ | list _ | mapping _ | circle _ _ => exact unchanged

theorem EntryResembles.closed {entry entryTaken : Value × Value}
    (alike : EntryResembles order other entry entryTaken) :
    EntryResembles order other (entry.1, Value.closed parts entry.2)
      (entryTaken.1, Value.closed others entryTaken.2) := by
  cases alike with
  | mk key alike => exact .mk key (alike.closed partsAlike)

theorem Resembles.getD (place : Nat) :
    Resembles order other (parts.getD place .null) (others.getD place .null) := by
  induction partsAlike generalizing place with
  | nil => exact .refl .null
  | cons first _ inductionHypothesis =>
      cases place with
      | zero => exact first
      | succ later => exact inductionHypothesis later

end

/-- What two values hold is alike, if they are. -/
theorem Resembles.opened (alike : Resembles order other value taken) :
    Resembles order other value.opened taken.opened := by
  have unchanged := alike
  cases alike with
  | refl value => exact .refl value.opened
  | set _ | list _ | tuple _ | mapping _ => exact unchanged
  | @circle parts others place partsAlike =>
      have closeItems {items itemsTaken : List Value}
          (itemsAlike : List.Forall₂ (Resembles order other) items itemsTaken) :
          Resembles order other (.list (items.map (Value.closed parts)))
            (.list (itemsTaken.map (Value.closed others))) :=
        .list (List.rel_map (fun _ _ alike => alike.closed partsAlike) itemsAlike)
      have closeEntries {entries entriesTaken : List (Value × Value)}
          (entriesAlike : List.Forall₂ (EntryResembles order other) entries entriesTaken) :
          Resembles order other
            (.mapping (entries.map fun entry => (entry.1, Value.closed parts entry.2)))
            (.mapping (entriesTaken.map fun entry => (entry.1, Value.closed others entry.2))) :=
        .mapping (List.rel_map (fun _ _ alike => alike.closed partsAlike) entriesAlike)
      have found := Resembles.getD partsAlike place
      unfold Value.opened
      dsimp only
      generalize parts.getD place .null = part at found ⊢
      generalize others.getD place .null = otherPart at found ⊢
      have asItIs := found
      cases found with
      | refl part =>
          cases part with
          | list items => exact closeItems (Resembles.forall₂_refl items)
          | mapping entries => exact closeEntries (EntryResembles.forall₂_refl entries)
          | _ => exact .refl _
      | list items => exact closeItems items
      | mapping entries => exact closeEntries entries
      | set _ | tuple _ | circle _ _ => exact asItIs

end Value

namespace Yaml

open Value

variable {order other : SetOrder} {building : Building}

/-! ## Parts -/

/-- A part is put together to alike values if what it holds stands for alike values. -/
theorem Part.toValue_resembles {valueOf takenOf : NodeNumber → Value}
    (alike : ∀ number, Resembles order other (valueOf number) (takenOf number)) (part : Part) :
    Resembles order other (part.toValue order valueOf) (part.toValue other takenOf) := by
  cases part with
  | scalar value =>
      exact .refl value
  | set items =>
      exact .set items
  | list items =>
      exact .list (forall₂_map_map fun number _ => alike number)
  | pairs items =>
      refine .list (forall₂_map_map fun entry _ => .tuple ?_)
      exact .cons (alike entry.1) (.cons (alike entry.2) .nil)
  | mapping entries =>
      exact .mapping (forall₂_map_map fun entry _ => .mk entry.1 (alike entry.2))

/-- What is known of one node in two visits is alike. -/
inductive KnownAlike (order other : SetOrder) :
    Option (Option Value) → Option (Option Value) → Prop
  | unknown : KnownAlike order other none none
  | circular : KnownAlike order other (some none) (some none)
  | plain {value taken : Value} : Resembles order other value taken →
      KnownAlike order other (some (some value)) (some (some taken))

/-- What is known of every node in two visits is alike. -/
structure Visited.Alike (order other : SetOrder) (visited taken : Visited) : Prop where
  size : visited.size = taken.size
  known : ∀ number, KnownAlike order other (visited.getD number none) (taken.getD number none)

/-- The value of a node, once it has been visited. -/
def Building.valueAfter (building : Building) (order : SetOrder) (visited : Visited)
    (root : NodeNumber) : Value :=
  match visited.getD root none with
  | some (some value) => value
  | _ => .circle ((List.range building.parts.size).map (building.circlePart order visited)) root

theorem Building.value_eq_valueAfter (building : Building) (order : SetOrder) (root : NodeNumber) :
    building.value order root = building.valueAfter order
      ((building.visit order (building.parts.size + 1) root).run
        (Array.replicate building.parts.size none)).2 root :=
  rfl

section

variable {visited taken : Visited} (alike : visited.Alike order other taken)

include alike

theorem Visited.Alike.set (number : NodeNumber) {known knownTaken : Option (Option Value)}
    (here : KnownAlike order other known knownTaken) :
    Visited.Alike order other (visited.setIfInBounds number known)
      (taken.setIfInBounds number knownTaken) where
  size := by
    simp only [Array.size_setIfInBounds, alike.size]
  known := by
    intro tested
    have elsewhere := alike.known tested
    simp only [Array.getD_eq_getD_getElem?, Array.getElem?_setIfInBounds, ← alike.size]
      at elsewhere ⊢
    by_cases same : number = tested
    · rw [if_pos same, if_pos same]
      by_cases inBounds : number < visited.size
      · rw [if_pos inBounds, if_pos inBounds]
        exact here
      · rw [if_neg inBounds, if_neg inBounds]
        exact .unknown
    · rw [if_neg same, if_neg same]
      exact elsewhere

theorem Building.valueIn_resembles (number : NodeNumber) :
    Resembles order other (building.valueIn visited number) (building.valueIn taken number) := by
  have known := alike.known number
  unfold valueIn
  generalize visited.getD number none = here at known ⊢
  generalize taken.getD number none = there at known ⊢
  cases known with
  | plain alike => exact alike
  | unknown | circular => exact .refl _

theorem Building.toValue_resembles (part : Part) :
    Resembles order other (part.toValue order (building.valueIn visited))
      (part.toValue other (building.valueIn taken)) :=
  part.toValue_resembles (building.valueIn_resembles alike)

theorem Building.circlePart_resembles (number : NodeNumber) :
    Resembles order other (building.circlePart order visited number)
      (building.circlePart other taken number) := by
  have known := alike.known number
  unfold circlePart
  generalize visited.getD number none = here at known ⊢
  generalize taken.getD number none = there at known ⊢
  cases known with
  | plain _ | unknown => exact .refl .null
  | circular =>
      cases building.part? number with
      | none => exact .refl .null
      | some part => exact building.toValue_resembles alike part

theorem Building.valueAfter_resembles (root : NodeNumber) :
    Resembles order other (building.valueAfter order visited root)
      (building.valueAfter other taken root) := by
  have known := alike.known root
  unfold valueAfter
  generalize visited.getD root none = here at known ⊢
  generalize taken.getD root none = there at known ⊢
  cases known with
  | plain alike => exact alike
  | unknown | circular =>
      exact .circle root
        (forall₂_map_map fun number _ => building.circlePart_resembles alike number)

end

/-! ## Visits -/

/-- Two parts of visits come to the same, and what they know stays alike. -/
def VisitAlike {α : Type} (order other : SetOrder) (visit taken : StateM Visited α) : Prop :=
  ∀ known knownTaken : Visited, known.Alike order other knownTaken →
    (visit.run known).1 = (taken.run knownTaken).1 ∧
      Visited.Alike order other (visit.run known).2 (taken.run knownTaken).2

namespace VisitAlike

variable {α β : Type}

theorem pure (result : α) : VisitAlike order other (pure result) (pure result) :=
  fun _ _ alike => ⟨rfl, alike⟩

theorem bind {visit taken : StateM Visited α} {next nextTaken : α → StateM Visited β}
    (first : VisitAlike order other visit taken)
    (second : ∀ result, VisitAlike order other (next result) (nextTaken result)) :
    VisitAlike order other (visit >>= next) (taken >>= nextTaken) := by
  intro known knownTaken alike
  obtain ⟨same, after⟩ := first known knownTaken alike
  have onward := second (visit.run known).1 _ _ after
  change ((next (visit.run known).1).run (visit.run known).2).1 =
      ((nextTaken (taken.run knownTaken).1).run (taken.run knownTaken).2).1 ∧
    Visited.Alike order other ((next (visit.run known).1).run (visit.run known).2).2
      ((nextTaken (taken.run knownTaken).1).run (taken.run knownTaken).2).2
  rw [← same]
  exact onward

theorem modify {change changeTaken : Visited → Visited}
    (each : ∀ known knownTaken : Visited, known.Alike order other knownTaken →
      Visited.Alike order other (change known) (changeTaken knownTaken)) :
    VisitAlike order other (modify change) (modify changeTaken) :=
  fun known knownTaken alike => ⟨rfl, each known knownTaken alike⟩

theorem mapM {visit taken : NodeNumber → StateM Visited α}
    (each : ∀ number, VisitAlike order other (visit number) (taken number))
    (numbers : List NodeNumber) :
    VisitAlike order other (numbers.mapM visit) (numbers.mapM taken) := by
  induction numbers with
  | nil =>
      exact pure []
  | cons number rest inductionHypothesis =>
      rw [List.mapM_cons, List.mapM_cons]
      exact (each number).bind fun _ => inductionHypothesis.bind fun _ => pure _

end VisitAlike

/-- The first visit to a node. -/
def Building.firstVisit (building : Building) (order : SetOrder) (bound : Nat)
    (number : NodeNumber) : StateM Visited Bool := do
  modify (·.setIfInBounds number (some none))
  let part := (building.part? number).getD default
  let plain ← part.nodes.mapM (building.visit order bound)
  if plain.all id then
    modify fun visited => visited.setIfInBounds number
      (some (some (part.toValue order (building.valueIn visited))))
    return true
  else return false

theorem Building.firstVisit_alike (building : Building) (bound : Nat)
    (each : ∀ number, VisitAlike order other (building.visit order bound number)
      (building.visit other bound number)) (number : NodeNumber) :
    VisitAlike order other (building.firstVisit order bound number)
      (building.firstVisit other bound number) := by
  have marks : VisitAlike order other (modify (·.setIfInBounds number (some none)))
      (modify (·.setIfInBounds number (some none))) :=
    .modify fun _ _ alike => alike.set number .circular
  refine marks.bind fun _ => (VisitAlike.mapM each _).bind fun plain => ?_
  by_cases allPlain : plain.all id = true
  · rw [if_pos allPlain, if_pos allPlain]
    refine (VisitAlike.modify fun _ _ alike => ?_).bind fun _ => .pure true
    exact alike.set number (.plain (building.toValue_resembles alike _))
  · rw [if_neg allPlain, if_neg allPlain]
    exact .pure false

theorem Building.visit_alike (building : Building) (bound : Nat) (number : NodeNumber) :
    VisitAlike order other (building.visit order bound number)
      (building.visit other bound number) := by
  induction bound generalizing number with
  | zero =>
      exact .pure false
  | succ bound inductionHypothesis =>
      have onward := building.firstVisit_alike bound inductionHypothesis number
      intro known knownTaken alike
      have here := alike.known number
      unfold visit
      simp only [StateT.run_bind, StateT.run_get, pure_bind]
      generalize known.getD number none = found at here ⊢
      generalize knownTaken.getD number none = foundTaken at here ⊢
      cases here with
      | unknown => exact onward known knownTaken alike
      | circular => exact ⟨rfl, alike⟩
      | plain _ => exact ⟨rfl, alike⟩

/-! ## Documents -/

theorem Building.value_resembles (building : Building) (root : NodeNumber) :
    Resembles order other (building.value order root) (building.value other root) := by
  let unvisited : Visited := Array.replicate building.parts.size none
  have start : unvisited.Alike order other unvisited := by
    refine ⟨rfl, fun number => ?_⟩
    have nothing : unvisited.getD number none = none := by
      simp only [unvisited, Array.getD_eq_getD_getElem?, Array.getElem?_replicate]
      split <;> rfl
    rw [nothing]
    exact .unknown
  obtain ⟨_, alike⟩ :=
    building.visit_alike (building.parts.size + 1) root unvisited unvisited start
  rw [value_eq_valueAfter, value_eq_valueAfter]
  exact building.valueAfter_resembles alike root

theorem Document.value_resembles (process : Process) (document : Document) {value : Value}
    (built : document.value { process with order } = .ok value) :
    ∃ taken, document.value { process with order := other } = .ok taken ∧
      Resembles order other value taken := by
  obtain ⟨⟨_, building⟩, same, isValue⟩ := Judges.bind_eq_ok_iff.mp built
  cases isValue
  exact ⟨_, Judges.bind_eq_ok_iff.mpr ⟨_, same, rfl⟩, building.value_resembles document.root⟩

/-- Two readings of a text in two orders give alike values. -/
theorem read_resembles (process : Process) (text : String) {value : Value}
    (isRead : read { process with order } text = .ok value) :
    ∃ taken, read { process with order := other } text = .ok taken ∧
      Resembles order other value taken := by
  obtain ⟨document?, same, isValue⟩ := Judges.bind_eq_ok_iff.mp isRead
  cases document? with
  | none =>
      cases isValue
      exact ⟨.null, Judges.bind_eq_ok_iff.mpr ⟨none, same, rfl⟩, .refl .null⟩
  | some document =>
      obtain ⟨taken, isTaken, alike⟩ := document.value_resembles process isValue
      exact ⟨taken, Judges.bind_eq_ok_iff.mpr ⟨some document, same, isTaken⟩, alike⟩

end Yaml

end ErrorDerive
