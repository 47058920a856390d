import ErrorDerive.Proofs.Generation.NormalForm
import Mathlib.Data.List.Perm.Subperm

/-!
# Coverage of a body

The check on a body looks for policies without a branch and compares two numbers.  It never looks at
a branch on its own, so by itself it is no check for foreign or repeated branches.  Where no two
policies have one name it is: all policies among as many branches leave no room for any other.

* `judges_checkCoverage` says what is accepted, whatever the names;
* `perm_iff_of_nodup` is the step from there to permutations;
* `checkCoverage_tests_permutation` is the result, for any branches and for those that are built;
* `checkCoverage_eq_ok_iff_of_extract` names the check that the result leans on: extraction refuses
  variants of one name.
-/

namespace ErrorDerive

variable {policies : List Policy} {branches : List String}

/-! ## Policies without a branch -/

/-- The policies without a branch, by name and in order. -/
structure Misses (policies : List Policy) (branches missing : List String) : Prop where
  inOrder : missing.Sublist (policies.map Policy.name)
  mem_iff : ∀ name, name ∈ missing ↔ name ∈ policies.map Policy.name ∧ name ∉ branches

theorem misses_uncovered (policies : List Policy) (branches : List String) :
    Misses policies branches (uncovered policies branches) where
  inOrder := List.filter_sublist
  mem_iff := by
    intro name
    rw [uncovered, List.mem_filter, Bool.not_eq_true', ← Bool.not_eq_true, List.contains_iff_mem]

theorem uncovered_eq_nil_iff :
    uncovered policies branches = [] ↔ policies.map Policy.name ⊆ branches := by
  rw [List.eq_nil_iff_forall_not_mem]
  constructor
  · intro none name member
    by_contra absent
    exact none name (((misses_uncovered policies branches).mem_iff name).mpr ⟨member, absent⟩)
  · intro covered name missed
    obtain ⟨member, absent⟩ := ((misses_uncovered policies branches).mem_iff name).mp missed
    exact absent (covered member)

/-! ## The check -/

/-- The fault of a body whose branches do not cover the policies. -/
def coverageFault (body : String) (policies : List Policy) (branches : List String) : Fault :=
  .incompleteCoverage body branches.length policies.length (uncovered policies branches)

theorem judges_checkCoverage (body : String) (policies : List Policy) (branches : List String) :
    Judges (checkCoverage body policies branches)
      (policies.map Policy.name ⊆ branches ∧ branches.length = policies.length) ()
      (fun answer =>
        ¬ (policies.map Policy.name ⊆ branches ∧ branches.length = policies.length) ∧
          answer = coverageFault body policies branches) := by
  have passes :
      ¬ (!(uncovered policies branches).isEmpty || branches.length ≠ policies.length) = true ↔
        policies.map Policy.name ⊆ branches ∧ branches.length = policies.length := by
    simp [← uncovered_eq_nil_iff]
  have run := Judges.guarded
    ((!(uncovered policies branches).isEmpty || branches.length ≠ policies.length) = true)
    (coverageFault body policies branches) fun _ => Judges.ok ()
  refine run.reworded ?_ (fun _ => rfl) ?_
  · rw [passes, and_iff_left trivial]
  · intro answer
    rw [and_false, or_false, ← passes, not_not]

theorem message_coverageFault (body : String) (policies : List Policy) (branches : List String) :
    (coverageFault body policies branches).message =
      body ++ " body covers " ++ toString branches.length ++ " of " ++ toString policies.length ++
        " variants" ++
        (if uncovered policies branches = [] then ""
          else " (missing: " ++ String.intercalate ", " (uncovered policies branches) ++ ")") := by
  simp only [coverageFault, Fault.message, Fault.variant?, prefixed, Fault.text, coverageText,
    commaSeparated, List.isEmpty_iff]

/-! ## Permutations -/

/-- As many branches as different names, with all of these among them, hold nothing else and nothing
twice. -/
theorem perm_iff_of_nodup {names : List String} (distinct : names.Nodup) :
    branches.Perm names ↔ names ⊆ branches ∧ branches.length = names.length := by
  constructor
  · intro rearranged
    exact ⟨rearranged.symm.subset, rearranged.length_eq⟩
  · intro covers
    obtain ⟨covered, sameNumber⟩ := covers
    have within : names.Subperm branches := distinct.subperm covered
    exact (within.perm_of_length_le (Nat.le_of_eq sameNumber)).symm

/-- For policies of different names the check accepts rearrangements of the names. -/
theorem judges_checkCoverage_of_nodup (body : String) (branches : List String)
    (distinct : (policies.map Policy.name).Nodup) :
    Judges (checkCoverage body policies branches) (branches.Perm (policies.map Policy.name)) ()
      (fun answer => ¬ branches.Perm (policies.map Policy.name) ∧
        answer = coverageFault body policies branches) := by
  have covers : policies.map Policy.name ⊆ branches ∧ branches.length = policies.length ↔
      branches.Perm (policies.map Policy.name) := by
    rw [perm_iff_of_nodup distinct, List.length_map]
  refine (judges_checkCoverage body policies branches).reworded covers (fun _ => rfl) ?_
  intro answer
  rw [covers]

/-- The check on a body.  Branches of policies with different names are accepted exactly if they are
these names in some order.  Otherwise the fault names exactly the policies without a branch, in
their order, and so does its message.  The bodies that are built pass the check, whatever the names.
-/
theorem checkCoverage_tests_permutation :
    (∀ (body : String) (policies : List Policy) (branches : List String),
      (policies.map Policy.name).Nodup →
      (checkCoverage body policies branches = .ok () ↔
        branches.Perm (policies.map Policy.name)) ∧
      (¬ branches.Perm (policies.map Policy.name) →
        ∃ fault missing, checkCoverage body policies branches = .error fault ∧
          fault = .incompleteCoverage body branches.length policies.length missing ∧
          Misses policies branches missing ∧
          fault.message = body ++ " body covers " ++ toString branches.length ++ " of " ++
            toString policies.length ++ " variants" ++
            (if missing = [] then ""
              else " (missing: " ++ String.intercalate ", " missing ++ ")"))) ∧
    ∀ policies : List Policy,
      (∃ branches, displayBody policies = .ok branches ∧
        checkCoverage "Display" policies (branches.map DisplayBranch.variant) = .ok ()) ∧
      ∃ branches, sourceBody policies = .ok branches ∧
        checkCoverage "Source" policies (branches.map SourceBranch.variant) = .ok () := by
  refine ⟨?_, ?_⟩
  · intro body policies branches distinct
    have judgement := judges_checkCoverage_of_nodup body branches distinct
    refine ⟨by rw [judgement.eq_ok_iff, and_iff_left rfl], ?_⟩
    intro notRearranged
    exact ⟨coverageFault body policies branches, uncovered policies branches,
      judgement.fails _ ⟨notRearranged, rfl⟩, rfl, misses_uncovered policies branches,
      message_coverageFault body policies branches⟩
  · intro policies
    refine ⟨⟨_, displayBody_eq policies, ?_⟩, ⟨_, sourceBody_eq policies, ?_⟩⟩
    · rw [List.map_map]
      exact checkCoverage_of_names "Display" policies
    · rw [List.map_map]
      exact checkCoverage_of_names "Source" policies

/-- A policy that decides nothing but to display the name of its variant. -/
def Policy.ofName (name : String) : Policy where
  variant := ⟨name, .unit, [], {}⟩
  display := .template name

/-- Three policies with their branches in another order, and with a foreign and a repeated branch in
the place of two of them. -/
theorem checkCoverage_tests_permutation_threePolicies :
    (["A", "B", "C"].map Policy.ofName).map Policy.name = ["A", "B", "C"] ∧
    ["A", "B", "C"].Nodup ∧
    checkCoverage "Source" (["A", "B", "C"].map Policy.ofName) ["C", "A", "B"] = .ok () ∧
    ¬ ["B", "X", "B"].Perm ["A", "B", "C"] ∧
    ∃ fault missing,
      checkCoverage "Source" (["A", "B", "C"].map Policy.ofName) ["B", "X", "B"] = .error fault ∧
      Misses (["A", "B", "C"].map Policy.ofName) ["B", "X", "B"] missing := by
  have names : (["A", "B", "C"].map Policy.ofName).map Policy.name = ["A", "B", "C"] := rfl
  have distinct : ["A", "B", "C"].Nodup := by decide
  have rearranged : ["C", "A", "B"].Perm ["A", "B", "C"] := by decide
  have foreign : ¬ ["B", "X", "B"].Perm ["A", "B", "C"] := by decide
  have judged := fun branches => checkCoverage_tests_permutation.1 "Source"
    (["A", "B", "C"].map Policy.ofName) branches (names.symm ▸ distinct)
  obtain ⟨fault, missing, failed, _, misses, _⟩ := (judged ["B", "X", "B"]).2 (names.symm ▸ foreign)
  exact ⟨names, distinct, (judged ["C", "A", "B"]).1.mpr (names.symm ▸ rearranged), foreign, fault,
    missing, failed, misses⟩

/-- Two policies of one name: a foreign branch passes, and no name is missed. -/
example : checkCoverage "Source" (["A", "A"].map Policy.ofName) ["A", "X"] = .ok () := by
  decide

/-- Extraction makes the names differ, so the check on the bodies of a declared type is a test for
permutations. -/
theorem checkCoverage_eq_ok_iff_of_extract {settings : Settings} {declaration : TypeDeclaration}
    {variants : List Variant} (extracted : declaration.extract = .ok variants)
    (resolved : resolvePolicies settings variants = .ok policies) (body : String)
    (branches : List String) :
    checkCoverage body policies branches = .ok () ↔ branches.Perm (variants.map Variant.name) := by
  obtain ⟨_, rfl⟩ := (judges_resolvePolicies settings variants).eq_ok_iff.mp resolved
  have names : (variants.map (Variant.policy settings)).map Policy.name =
      variants.map Variant.name := by
    rw [List.map_map]
    rfl
  have distinct : ((variants.map (Variant.policy settings)).map Policy.name).Nodup := by
    rw [names]
    exact (TypeDeclaration.isNormalForm_of_extract extracted).distinct
  rw [(judges_checkCoverage_of_nodup body branches distinct).eq_ok_iff, names, and_iff_left rfl]

end ErrorDerive
