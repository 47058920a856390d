import Mathlib.Data.List.Forall2

/-!
# Rows in pairs

Two rows whose members are related pair by pair.  What is made of the members of each row is related
in the same way, or is the same.
-/

namespace ErrorDerive

/-- What is the same for every pair of two rows is the same row. -/
theorem map_eq_of_forall₂
    {first second result : Type} {related : first → second → Prop} {left : List first}
    {right : List second} {leftValue : first → result} {rightValue : second → result}
    (pairs : List.Forall₂ related left right)
    (same : ∀ given taken, related given taken → leftValue given = rightValue taken) :
    left.map leftValue = right.map rightValue := by
  induction pairs with
  | nil =>
      rfl
  | cons pair _ inductionHypothesis =>
      rw [List.map_cons, List.map_cons, same _ _ pair, inductionHypothesis]

/-- What is made of two rows is the same row exactly if it is the same for every pair. -/
theorem map_eq_map_iff_of_forall₂ {first second result value : Type}
    {related : first → second → Prop} {left : List first} {right : List second}
    {leftValue : first → result} {rightValue : second → result} {leftOther : first → value}
    {rightOther : second → value} (pairs : List.Forall₂ related left right)
    (agree : ∀ given taken, related given taken →
      (leftValue given = rightValue taken ↔ leftOther given = rightOther taken)) :
    left.map leftValue = right.map rightValue ↔ left.map leftOther = right.map rightOther := by
  induction pairs with
  | nil =>
      simp only [List.map_nil]
  | cons pair _ inductionHypothesis =>
      simp only [List.map_cons, List.cons.injEq, agree _ _ pair, inductionHypothesis]

/-- Two maps of one row are related if they are at every member. -/
theorem forall₂_map_map
    {given first second : Type} {related : first → second → Prop} {left : given → first}
    {right : given → second} {row : List given}
    (pairs : ∀ member ∈ row, related (left member) (right member)) :
    List.Forall₂ related (row.map left) (row.map right) := by
  rw [List.forall₂_map_left_iff, List.forall₂_map_right_iff, List.forall₂_same]
  exact pairs

/-- What holds of the members of one row is carried over to those of the other. -/
theorem forall_mem_of_forall₂ {first second : Type} {related : first → second → Prop}
    {left : List first} {right : List second} {holds : first → Prop} {holdsToo : second → Prop}
    (pairs : List.Forall₂ related left right) (all : ∀ given ∈ left, holds given)
    (carried : ∀ given taken, related given taken → holds given → holdsToo taken) :
    ∀ taken ∈ right, holdsToo taken := by
  induction pairs with
  | nil => exact nofun
  | cons pair _ inductionHypothesis =>
      obtain ⟨here, later⟩ := List.forall_mem_cons.mp all
      exact List.forall_mem_cons.mpr ⟨carried _ _ pair here, inductionHypothesis later⟩

/-- Items that are alike one by one fare alike. -/
theorem forall₂_iff_of_alike {first second third : Type} {alike : first → second → Prop}
    {fares : first → third → Prop} {faresToo : second → third → Prop}
    {items : List first} {others : List second} (related : List.Forall₂ alike items others)
    (agree : ∀ item other, alike item other → ∀ datum, fares item datum ↔ faresToo other datum)
    (data : List third) : List.Forall₂ fares items data ↔ List.Forall₂ faresToo others data := by
  -- The results stay arbitrary, since they are taken apart along with the two rows.
  induction related generalizing data with
  | nil =>
      rw [List.forall₂_nil_left_iff, List.forall₂_nil_left_iff]
  | cons first _ inductionHypothesis =>
      rw [List.forall₂_cons_left_iff, List.forall₂_cons_left_iff]
      simp only [agree _ _ first, inductionHypothesis]

/-- What items fare is carried over to items that are alike one by one. -/
theorem exists_forall₂_of_carried {first second third fourth : Type}
    {alike : first → second → Prop} {fares : first → third → Prop}
    {faresToo : second → fourth → Prop} {related : third → fourth → Prop}
    {items : List first} {others : List second} (pairs : List.Forall₂ alike items others)
    (carried : ∀ item other, alike item other → ∀ datum, fares item datum →
      ∃ taken, faresToo other taken ∧ related datum taken)
    {data : List third} (fare : List.Forall₂ fares items data) :
    ∃ dataTaken, List.Forall₂ faresToo others dataTaken ∧ List.Forall₂ related data dataTaken := by
  induction pairs generalizing data with
  | nil =>
      cases fare
      exact ⟨[], .nil, .nil⟩
  | cons pair _ inductionHypothesis =>
      cases fare with
      | cons here later =>
          obtain ⟨datumTaken, fareTaken, relatedHere⟩ := carried _ _ pair _ here
          obtain ⟨dataTaken, faresTaken, relatedLater⟩ := inductionHypothesis later
          exact ⟨datumTaken :: dataTaken, .cons fareTaken faresTaken,
            .cons relatedHere relatedLater⟩

end ErrorDerive
