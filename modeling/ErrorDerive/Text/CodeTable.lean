/-!
# Tables of code points

A property of characters is stored as a list of closed intervals of code points.

* `CodeTable.holds` looks a code point up and stops at the first interval above it;
* `CodeTable.holds_iff_mem` says that, for a sorted table, this early stop changes nothing.
-/

namespace ErrorDerive.Text

/-- Closed intervals of code points. -/
abbrev CodeTable := List (Nat × Nat)

/-- Whether a code point lies in one of the intervals of a table sorted upwards. -/
def CodeTable.holds : CodeTable → Nat → Bool
  | [], _ => false
  | (first, last) :: rest, code =>
    if code < first then false else code ≤ last || CodeTable.holds rest code

/-- Every interval starts above the number `floor` and the intervals climb. -/
def CodeTable.Climbs : Nat → CodeTable → Prop
  | _, [] => True
  | floor, (first, last) :: rest => floor ≤ first ∧ CodeTable.Climbs (max first last) rest

theorem CodeTable.Climbs.floor_le {floor first last : Nat} {table : CodeTable}
    (climbs : CodeTable.Climbs floor table) (member : (first, last) ∈ table) : floor ≤ first := by
  induction table generalizing floor with
  | nil => cases member
  | cons head rest inductionHypothesis =>
    obtain ⟨start, stop⟩ := head
    cases member with
    | head => exact climbs.1
    | tail _ later =>
      have := inductionHypothesis climbs.2 later
      have := climbs.1
      omega

/-- In a climbing table the look-up finds exactly the code points of the intervals. -/
theorem CodeTable.holds_iff_mem {floor code : Nat} {table : CodeTable}
    (climbs : CodeTable.Climbs floor table) :
    CodeTable.holds table code = true ↔
      ∃ interval ∈ table, interval.1 ≤ code ∧ code ≤ interval.2 := by
  induction table generalizing floor with
  | nil => simp [CodeTable.holds]
  | cons head rest inductionHypothesis =>
    obtain ⟨start, stop⟩ := head
    rw [CodeTable.holds]
    split
    next below =>
      simp only [Bool.false_eq_true, false_iff, not_exists, not_and]
      intro interval member lower
      cases member with
      | head => exact absurd lower (by simpa using below)
      | tail _ later =>
        have := climbs.2.floor_le later
        omega
    next above =>
      simp only [Bool.or_eq_true, decide_eq_true_eq, inductionHypothesis climbs.2,
        List.mem_cons, exists_eq_or_imp]
      constructor
      · rintro (within | later)
        · exact Or.inl ⟨by omega, within⟩
        · exact Or.inr later
      · rintro (⟨_, within⟩ | later)
        · exact Or.inl within
        · exact Or.inr later

end ErrorDerive.Text
