import ErrorDerive.Yaml.Token

/-!
# Causes of breakdowns

What a reading can break down from.  A text that is not YAML is malformed, which is no breakdown;
every other fault has a cause.

* `FailsAmong` says that a result has no cause but the given ones, and `Keeps` says this of a part
  of a reading, whatever state it starts from, as long as the state has a property that is kept;
* `FailsAmong.bind` and `Keeps.bind` carry this from the parts of a reading to the whole.
-/

namespace ErrorDerive.Yaml

/-- A fault whose cause, if it has one, is among the given ones. -/
def Fault.IsAmong (causes : List Breakdown) : Fault → Prop
  | .malformed => True
  | .broken cause => cause ∈ causes

theorem Fault.IsAmong.mono {causes others : List Breakdown} {fault : Fault}
    (isAmong : fault.IsAmong causes) (covered : causes ⊆ others) : fault.IsAmong others := by
  cases fault with
  | malformed => trivial
  | broken cause => exact covered isAmong

section Results

variable {α β : Type} {causes : List Breakdown}

/-- A result that is no breakdown but from the given causes. -/
def FailsAmong (causes : List Breakdown) (result : Except Fault α) : Prop :=
  ∀ fault, result = .error fault → fault.IsAmong causes

namespace FailsAmong

theorem ok (value : α) : FailsAmong causes (.ok value) := by
  intro fault failed
  cases failed

theorem malformed : FailsAmong causes (.error .malformed : Except Fault α) := by
  intro fault failed
  cases failed
  trivial

theorem broken {cause : Breakdown} (member : cause ∈ causes) :
    FailsAmong causes (.error (.broken cause) : Except Fault α) := by
  intro fault failed
  cases failed
  exact member

theorem mono {others : List Breakdown} {result : Except Fault α}
    (fails : FailsAmong causes result) (covered : causes ⊆ others) : FailsAmong others result :=
  fun fault failed => (fails fault failed).mono covered

theorem bind {first : Except Fault α} {next : α → Except Fault β}
    (fails : FailsAmong causes first) (onward : ∀ value, FailsAmong causes (next value)) :
    FailsAmong causes (first >>= next) := by
  intro fault failed
  cases result : first with
  | error earlier =>
      rw [result] at failed
      cases failed
      exact fails _ result
  | ok value =>
      rw [result] at failed
      exact onward value fault failed

theorem ite {tested : Prop} [Decidable tested] {result other : Except Fault α}
    (fails : FailsAmong causes result) (fallsBack : FailsAmong causes other) :
    FailsAmong causes (if tested then result else other) := by
  split
  · exact fails
  · exact fallsBack

theorem throw {fault : Fault} (isAmong : fault.IsAmong causes) :
    FailsAmong causes (MonadExcept.throw fault : Except Fault α) := by
  intro other failed
  cases failed
  exact isAmong

/-- A test that stops a reading. -/
theorem stopIf {refused : Prop} [Decidable refused] {fault : Fault}
    (isAmong : fault.IsAmong causes) {next : Unit → Except Fault α}
    (onward : FailsAmong causes (next ())) :
    FailsAmong causes
      (if refused then (MonadExcept.throw fault : Except Fault Unit) >>= next else next ()) :=
  ite ((throw isAmong).bind fun _ => onward) onward

/-- A test that finds a text malformed. -/
theorem guard {refused : Prop} [Decidable refused] {next : Unit → Except Fault α}
    (onward : FailsAmong causes (next ())) :
    FailsAmong causes
      (if refused then (MonadExcept.throw .malformed : Except Fault Unit) >>= next
        else next ()) :=
  stopIf (show Fault.malformed.IsAmong causes from trivial) onward

end FailsAmong

end Results

section Parts

variable {σ α β : Type} {holds : σ → Prop} {causes : List Breakdown}

/-- A part of a reading keeps a property of the state, and is no breakdown but from the given
causes. -/
def Keeps (holds : σ → Prop) (causes : List Breakdown) (part : StateT σ (Except Fault) α) : Prop :=
  ∀ state, holds state →
    FailsAmong causes (part state) ∧
      ∀ value after, part state = .ok (value, after) → holds after

namespace Keeps

theorem pure (value : α) :
    Keeps holds causes (Pure.pure value : StateT σ (Except Fault) α) := by
  intro state kept
  refine ⟨.ok _, ?_⟩
  intro _ after same
  cases same
  exact kept

theorem throw {fault : Fault} (isAmong : fault.IsAmong causes) :
    Keeps holds causes (MonadExcept.throw fault : StateT σ (Except Fault) α) := by
  intro state _
  refine ⟨?_, fun _ _ same => by cases same⟩
  intro other same
  cases same
  exact isAmong

theorem malformed : Keeps holds causes (MonadExcept.throw .malformed : StateT σ (Except Fault) α) :=
  throw trivial

/-- What is not about the state. -/
theorem lift {result : Except Fault α} (fails : FailsAmong causes result) :
    Keeps holds causes (liftM result : StateT σ (Except Fault) α) := by
  intro state kept
  cases result with
  | error fault =>
      exact throw (fails fault rfl) state kept
  | ok value =>
      exact pure value state kept

theorem get_bind {next : σ → StateT σ (Except Fault) α}
    (onward : ∀ state, holds state → Keeps holds causes (next state)) :
    Keeps holds causes (MonadState.get >>= next) :=
  fun state kept => onward state kept state kept

theorem modifyGet {change : σ → α × σ} (stays : ∀ state, holds state → holds (change state).2) :
    Keeps holds causes (MonadState.modifyGet change : StateT σ (Except Fault) α) := by
  intro state kept
  refine ⟨.ok _, ?_⟩
  intro _ after same
  have reached : (change state).2 = after := congrArg Prod.snd (Except.ok.inj same)
  rw [← reached]
  exact stays state kept

theorem set {state : σ} (kept : holds state) :
    Keeps holds causes (MonadState.set state : StateT σ (Except Fault) PUnit) := by
  intro _ _
  refine ⟨.ok _, ?_⟩
  intro _ after same
  cases same
  exact kept

theorem modify {change : σ → σ} (stays : ∀ state, holds state → holds (change state)) :
    Keeps holds causes (modify change : StateT σ (Except Fault) PUnit) :=
  modifyGet stays

theorem bind {first : StateT σ (Except Fault) α} {next : α → StateT σ (Except Fault) β}
    (keeps : Keeps holds causes first) (onward : ∀ value, Keeps holds causes (next value)) :
    Keeps holds causes (first >>= next) := by
  intro state kept
  obtain ⟨fails, stays⟩ := keeps state kept
  rw [show (first >>= next) state = first state >>= fun pair => next pair.1 pair.2 from rfl]
  cases result : first state with
  | error fault =>
      refine ⟨?_, fun _ _ same => by cases same⟩
      intro other same
      cases same
      exact fails _ result
  | ok pair =>
      exact onward pair.1 pair.2 (stays pair.1 pair.2 result)

theorem ite {tested : Prop} [Decidable tested] {part other : StateT σ (Except Fault) α}
    (keeps : Keeps holds causes part) (fallsBack : Keeps holds causes other) :
    Keeps holds causes (if tested then part else other) := by
  split
  · exact keeps
  · exact fallsBack

/-- A test that stops a reading. -/
theorem stopIf {refused : Prop} [Decidable refused] {fault : Fault} (isAmong : fault.IsAmong causes)
    {next : Unit → StateT σ (Except Fault) α} (onward : Keeps holds causes (next ())) :
    Keeps holds causes
      (if refused then (MonadExcept.throw fault : StateT σ (Except Fault) Unit) >>= next
        else next ()) :=
  ite ((throw isAmong).bind fun _ => onward) onward

theorem mapM {part : α → StateT σ (Except Fault) β} (keeps : ∀ item, Keeps holds causes (part item))
    (items : List α) : Keeps holds causes (items.mapM part) := by
  induction items with
  | nil =>
      exact pure []
  | cons item rest inductionHypothesis =>
      rw [List.mapM_cons]
      exact (keeps item).bind fun _ => inductionHypothesis.bind fun _ => pure _

theorem forM {part : α → StateT σ (Except Fault) PUnit}
    (keeps : ∀ item, Keeps holds causes (part item)) (items : List α) :
    Keeps holds causes (items.forM part) := by
  induction items with
  | nil =>
      exact pure PUnit.unit
  | cons item rest inductionHypothesis =>
      exact (keeps item).bind fun _ => inductionHypothesis

end Keeps

end Parts

end ErrorDerive.Yaml
