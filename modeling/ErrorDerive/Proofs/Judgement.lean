import ErrorDerive.Generation.Fault

/-!
# Judgements of checks

A check either accepts and gives a result or answers with a fault.  `Judges` states both sides at
once: the condition under which a check accepts, the result it then gives, and which faults it
answers with otherwise.

* `Judges.bind` puts one check after another: a later fault is the answer only if the earlier
  check accepts;
* `Judges.mapM` and `Judges.foldlM` run a check along a list: the answer is the fault of the first
  item that is not accepted.
-/

namespace ErrorDerive

/-- A check gives `result` if `accepted` holds and answers with the faults of `flaw` otherwise. -/
structure Judges {fault result : Type} (check : Except fault result) (accepted : Prop)
    (value : result) (flaw : fault → Prop) : Prop where
  succeeds : accepted → check = .ok value
  fails : ∀ answer, flaw answer → check = .error answer
  decides : accepted ∨ ∃ answer, flaw answer

/-- The faults that put a malformation down to a variant. -/
def blamedOn (variant : Option String) (flaw : Malformation → Prop) (answer : Fault) : Prop :=
  ∃ cause, flaw cause ∧ answer = .malformed cause variant

namespace Judges

section Reading

variable {fault result : Type} {check : Except fault result} {accepted : Prop} {value : result}
  {flaw : fault → Prop}

theorem eq_ok_iff
    (judgement : Judges check accepted value flaw) {given : result} :
    check = .ok given ↔ accepted ∧ given = value := by
  constructor
  · intro success
    rcases judgement.decides with holds | ⟨answer, flawed⟩
    · have expected := judgement.succeeds holds
      rw [success] at expected
      injection expected with same
      exact ⟨holds, same⟩
    · have failure := judgement.fails answer flawed
      rw [success] at failure
      cases failure
  · rintro ⟨holds, rfl⟩
    exact judgement.succeeds holds

theorem eq_error_iff
    (judgement : Judges check accepted value flaw) {answer : fault} :
    check = .error answer ↔ flaw answer := by
  constructor
  · intro failure
    rcases judgement.decides with holds | ⟨other, flawed⟩
    · have success := judgement.succeeds holds
      rw [failure] at success
      cases success
    · have expected := judgement.fails other flawed
      rw [failure] at expected
      injection expected with same
      exact same ▸ flawed
  · exact judgement.fails answer

theorem exists_ok_iff
    (judgement : Judges check accepted value flaw) :
    (∃ given, check = .ok given) ↔ accepted := by
  constructor
  · rintro ⟨given, success⟩
    exact (judgement.eq_ok_iff.mp success).1
  · intro holds
    exact ⟨value, judgement.succeeds holds⟩

theorem exists_flaw_iff
    (judgement : Judges check accepted value flaw) :
    (∃ answer, flaw answer) ↔ ¬ accepted := by
  constructor
  · rintro ⟨answer, flawed⟩ holds
    have success := judgement.succeeds holds
    rw [judgement.fails answer flawed] at success
    cases success
  · intro refused
    exact judgement.decides.resolve_left refused

/-- A judgement keeps its force when its condition and its faults are put in other words. -/
theorem reworded
    (judgement : Judges check accepted value flaw)
    {condition : Prop} {other : result} {blame : fault → Prop}
    (sameCondition : accepted ↔ condition)
    (sameValue : accepted → value = other)
    (sameBlame : ∀ answer, flaw answer ↔ blame answer) :
    Judges check condition other blame where
  succeeds := by
    intro holds
    have accepts := sameCondition.mpr holds
    rw [judgement.succeeds accepts, sameValue accepts]
  fails := by
    intro answer blamed
    exact judgement.fails answer ((sameBlame answer).mpr blamed)
  decides := by
    rcases judgement.decides with holds | ⟨answer, flawed⟩
    · exact Or.inl (sameCondition.mp holds)
    · exact Or.inr ⟨answer, (sameBlame answer).mp flawed⟩

end Reading

section Composition

variable {fault first second : Type}

/-- A check that never fails. -/
theorem ok (value : first) :
    Judges (Except.ok value : Except fault first) True value (fun _ => False) where
  succeeds := fun _ => rfl
  fails := fun _ impossible => impossible.elim
  decides := Or.inl trivial

/-- A check behind a guard that answers with a fault of its own. -/
theorem guarded
    {check : Except fault first} {accepted : Prop} {value : first} {flaw : fault → Prop}
    (refused : Prop) [Decidable refused] (refusal : fault)
    (judgement : ¬ refused → Judges check accepted value flaw) :
    Judges (if refused then .error refusal else check) (¬ refused ∧ accepted) value
      (fun answer => refused ∧ answer = refusal ∨ ¬ refused ∧ flaw answer) := by
  by_cases holds : refused
  · rw [if_pos holds]
    exact {
      succeeds := fun accepts => absurd holds accepts.1
      fails := by
        rintro answer (⟨_, rfl⟩ | ⟨passes, _⟩)
        · rfl
        · exact absurd holds passes
      decides := Or.inr ⟨refusal, Or.inl ⟨holds, rfl⟩⟩ }
  · rw [if_neg holds]
    exact (judgement holds).reworded (by simp [holds]) (fun _ => rfl)
      (fun answer => by simp [holds])

/-- A check after another one is only reached, and judged, if the earlier one accepts. -/
theorem bind
    {check : Except fault first} {accepted later : Prop} {value : first} {final : second}
    {flaw laterFlaw : fault → Prop}
    (earlierJudgement : Judges check accepted value flaw) (next : first → Except fault second)
    (laterJudgement : accepted → Judges (next value) later final laterFlaw) :
    Judges (check >>= next) (accepted ∧ later) final
      (fun answer => flaw answer ∨ accepted ∧ laterFlaw answer) where
  succeeds := by
    rintro ⟨holds, continues⟩
    rw [earlierJudgement.succeeds holds]
    exact (laterJudgement holds).succeeds continues
  fails := by
    rintro answer (flawed | ⟨holds, flawed⟩)
    · rw [earlierJudgement.fails answer flawed]
      rfl
    · rw [earlierJudgement.succeeds holds]
      exact (laterJudgement holds).fails answer flawed
  decides := by
    rcases earlierJudgement.decides with holds | ⟨answer, flawed⟩
    · rcases (laterJudgement holds).decides with continues | ⟨answer, flawed⟩
      · exact Or.inl ⟨holds, continues⟩
      · exact Or.inr ⟨answer, Or.inr ⟨holds, flawed⟩⟩
    · exact Or.inr ⟨answer, Or.inl flawed⟩

/-- A check whose result is only rewritten afterwards. -/
theorem map
    {check : Except fault first} {accepted : Prop} {value : first} {flaw : fault → Prop}
    (judgement : Judges check accepted value flaw) (change : first → second) :
    Judges (check >>= fun given => .ok (change given)) accepted (change value) flaw :=
  (judgement.bind (fun given => .ok (change given)) fun _ => ok (change value)).reworded
    (and_iff_left trivial) (fun _ => rfl) (fun answer => by simp)

/-- A check that goes on after another one answers with a fault of either. -/
theorem bind_eq_error_iff
    {check : Except fault first} {next : first → Except fault second} {answer : fault} :
    check >>= next = .error answer ↔
      check = .error answer ∨ ∃ value, check = .ok value ∧ next value = .error answer := by
  cases check with
  | error other =>
      constructor
      · intro failed
        cases failed
        exact Or.inl rfl
      · rintro (failed | ⟨_, impossible, _⟩)
        · cases failed
          rfl
        · cases impossible
  | ok value =>
      constructor
      · intro failed
        exact Or.inr ⟨value, rfl, failed⟩
      · rintro (impossible | ⟨_, same, failed⟩)
        · cases impossible
        · cases same
          exact failed

/-- A check that goes on after another one gives a result if both do. -/
theorem bind_eq_ok_iff
    {check : Except fault first} {next : first → Except fault second} {result : second} :
    check >>= next = .ok result ↔ ∃ value, check = .ok value ∧ next value = .ok result := by
  cases check with
  | error answer =>
      constructor
      · intro impossible
        cases impossible
      · rintro ⟨_, impossible, _⟩
        cases impossible
  | ok value =>
      constructor
      · intro accepted
        exact ⟨value, rfl, accepted⟩
      · rintro ⟨_, same, accepted⟩
        cases same
        exact accepted

end Composition

/-! ## Checks along a list -/

/-- The answer to a list of items: the fault of the first item that is not accepted. -/
def FirstFlaw {item fault : Type} (accepted : item → Prop) (flaw : item → fault → Prop)
    (items : List item) (answer : fault) : Prop :=
  ∃ earlier flawed later, items = earlier ++ flawed :: later ∧
    (∀ good ∈ earlier, accepted good) ∧ flaw flawed answer

theorem firstFlaw_nil
    {item fault : Type} {accepted : item → Prop} {flaw : item → fault → Prop} {answer : fault} :
    ¬ FirstFlaw accepted flaw [] answer := by
  rintro ⟨earlier, flawed, later, split, _, _⟩
  simp at split

theorem firstFlaw_cons
    {item fault : Type} {accepted : item → Prop} {flaw : item → fault → Prop}
    {head : item} {tail : List item} {answer : fault} :
    FirstFlaw accepted flaw (head :: tail) answer ↔
      flaw head answer ∨ accepted head ∧ FirstFlaw accepted flaw tail answer := by
  constructor
  · rintro ⟨earlier, flawed, later, split, good, blamed⟩
    cases earlier with
    | nil =>
        simp only [List.nil_append] at split
        injection split with sameHead _
        exact Or.inl (sameHead ▸ blamed)
    | cons first rest =>
        simp only [List.cons_append] at split
        injection split with sameHead sameTail
        have headGood : accepted head := by
          rw [sameHead]
          exact good first List.mem_cons_self
        exact Or.inr ⟨headGood, rest, flawed, later, sameTail,
          fun item member => good item (List.mem_cons_of_mem first member), blamed⟩
  · rintro (blamed | ⟨headGood, earlier, flawed, later, split, good, blamed⟩)
    · exact ⟨[], head, tail, rfl, by simp, blamed⟩
    · refine ⟨head :: earlier, flawed, later, by simp [split], ?_, blamed⟩
      intro item member
      rcases List.mem_cons.mp member with rfl | member
      · exact headGood
      · exact good item member

theorem firstFlaw_map
    {item other fault : Type} {accepted : other → Prop} {flaw : other → fault → Prop}
    (change : item → other) (items : List item) (answer : fault) :
    FirstFlaw accepted flaw (items.map change) answer ↔
      FirstFlaw (fun given => accepted (change given)) (fun given => flaw (change given)) items
        answer := by
  induction items with
  | nil =>
      simp only [List.map_nil, firstFlaw_nil]
  | cons head tail inductionHypothesis =>
      rw [List.map_cons, firstFlaw_cons, firstFlaw_cons, inductionHypothesis]

theorem firstFlaw_congr
    {item fault : Type} {accepted condition : item → Prop} {flaw blame : item → fault → Prop}
    {items : List item} {answer : fault}
    (sameCondition : ∀ given ∈ items, accepted given ↔ condition given)
    (sameBlame : ∀ given ∈ items, flaw given answer ↔ blame given answer) :
    FirstFlaw accepted flaw items answer ↔ FirstFlaw condition blame items answer := by
  induction items with
  | nil =>
      simp only [firstFlaw_nil]
  | cons head tail inductionHypothesis =>
      rw [firstFlaw_cons, firstFlaw_cons, sameCondition head List.mem_cons_self,
        sameBlame head List.mem_cons_self, inductionHypothesis
          (fun given member => sameCondition given (List.mem_cons_of_mem head member))
          (fun given member => sameBlame given (List.mem_cons_of_mem head member))]

/-- The same check on every item, with the results in order. -/
theorem mapM
    {item fault result : Type} {check : item → Except fault result} {accepted : item → Prop}
    {value : item → result} {flaw : item → fault → Prop}
    (judgement : ∀ item, Judges (check item) (accepted item) (value item) (flaw item))
    (items : List item) :
    Judges (items.mapM check) (∀ item ∈ items, accepted item) (items.map value)
      (FirstFlaw accepted flaw items) := by
  induction items with
  | nil =>
      exact (ok []).reworded (by simp) (fun _ => rfl)
        (fun answer => by simp [firstFlaw_nil])
  | cons head tail inductionHypothesis =>
      rw [List.mapM_cons]
      have rest := inductionHypothesis.map fun results => value head :: results
      have run := (judgement head).bind
        (fun given => tail.mapM check >>= fun results => .ok (given :: results))
        fun _ => rest
      exact run.reworded (by simp) (fun _ => rfl)
        (fun answer => firstFlaw_cons.symm)

/-- The answer to a list of items is that of the first item that is answered. -/
theorem mapM_eq_error_iff
    {item fault result : Type} {check : item → Except fault result} {items : List item}
    {answer : fault} :
    items.mapM check = .error answer ↔
      FirstFlaw (fun given => ∃ value, check given = .ok value)
        (fun given blame => check given = .error blame) items answer := by
  induction items with
  | nil =>
      constructor
      · intro impossible
        cases impossible
      · intro flaw
        exact absurd flaw firstFlaw_nil
  | cons head tail inductionHypothesis =>
      rw [firstFlaw_cons, ← inductionHypothesis, List.mapM_cons, bind_eq_error_iff]
      refine or_congr Iff.rfl ?_
      have collected : ∀ value, (tail.mapM check >>= fun values => .ok (value :: values)) =
          .error answer ↔ tail.mapM check = .error answer := by
        intro value
        rw [bind_eq_error_iff]
        refine or_iff_left ?_
        rintro ⟨values, _, impossible⟩
        cases impossible
      constructor
      · rintro ⟨value, accepts, failed⟩
        exact ⟨⟨value, accepts⟩, (collected value).mp failed⟩
      · rintro ⟨⟨value, accepts⟩, failed⟩
        exact ⟨value, accepts, (collected value).mpr failed⟩

/-- What a list of items satisfies, the items before satisfy too. -/
private theorem valid_of_append
    {item : Type} {valid : List item → Prop} {accepted : List item → item → Prop}
    (grows : ∀ seen next, valid (seen ++ [next]) ↔ valid seen ∧ accepted seen next)
    (seen later : List item) (whole : valid (seen ++ later)) : valid seen := by
  induction later generalizing seen with
  | nil =>
      simpa using whole
  | cons next rest inductionHypothesis =>
      have longer : valid (seen ++ [next]) :=
        inductionHypothesis (seen ++ [next]) (by simpa using whole)
      exact ((grows seen next).mp longer).1

/-- A check that carries a state along.  The state is a summary of the items `seen` so far, and
`valid` holds of them as long as each item is accepted after those before it. -/
theorem foldlM
    {item fault summary : Type} {check : summary → item → Except fault summary}
    {state : List item → summary} {valid : List item → Prop}
    {accepted : List item → item → Prop} {flaw : List item → item → fault → Prop}
    (grows : ∀ seen next, valid (seen ++ [next]) ↔ valid seen ∧ accepted seen next)
    (judgement : ∀ seen next, valid seen →
      Judges (check (state seen) next) (accepted seen next) (state (seen ++ [next]))
        (flaw seen next))
    (items seen : List item) (start : valid seen) :
    Judges (items.foldlM check (state seen)) (valid (seen ++ items)) (state (seen ++ items))
      (fun answer => ∃ earlier next later, items = earlier ++ next :: later ∧
        valid (seen ++ earlier) ∧ flaw (seen ++ earlier) next answer) := by
  induction items generalizing seen with
  | nil =>
      refine (ok (state seen)).reworded ?_ (fun _ => by simp) ?_
      · simpa using start
      · intro answer
        simp
  | cons head tail inductionHypothesis =>
      rw [List.foldlM_cons]
      have run := (judgement seen head start).bind (tail.foldlM check) fun headAccepted =>
        inductionHypothesis (seen ++ [head]) ((grows seen head).mpr ⟨start, headAccepted⟩)
      have regroup : seen ++ [head] ++ tail = seen ++ head :: tail := by simp
      rw [regroup] at run
      refine run.reworded ?_ (fun _ => rfl) ?_
      · constructor
        · exact And.right
        · intro whole
          have longer : valid (seen ++ [head]) :=
            valid_of_append grows (seen ++ [head]) tail (regroup ▸ whole)
          exact ⟨((grows seen head).mp longer).2, whole⟩
      · intro answer
        constructor
        · rintro (blamed | ⟨headAccepted, earlier, next, later, split, good, blamed⟩)
          · exact ⟨[], head, tail, rfl, by simpa using start, by simpa using blamed⟩
          · exact ⟨head :: earlier, next, later, by simp [split], by simpa using good,
              by simpa using blamed⟩
        · rintro ⟨earlier, next, later, split, good, blamed⟩
          cases earlier with
          | nil =>
              simp only [List.nil_append] at split
              injection split with sameHead _
              exact Or.inl (by simpa [sameHead] using blamed)
          | cons first rest =>
              simp only [List.cons_append] at split
              injection split with sameHead sameTail
              subst sameHead
              have longer : valid (seen ++ [head]) :=
                valid_of_append grows (seen ++ [head]) rest (by simpa using good)
              exact Or.inr ⟨((grows seen head).mp longer).2, rest, next, later, sameTail,
                by simpa using good, by simpa using blamed⟩

end Judges

end ErrorDerive
