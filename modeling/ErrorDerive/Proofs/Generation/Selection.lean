import ErrorDerive.Proofs.Generation.Branches
import Mathlib.Data.List.Perm.Subperm

/-!
# Selections of variants

A selection of a declaration leaves out some of its variants and keeps the others in any order.
What is generated for a variant depends on that variant alone, and none of the conditions on a
declaration asks for an order or for a variant to be there.

* `Sound.select` and `Unambiguous.select` keep the two conditions of a generation;
* `generate_selection` compares what is generated before and after.
-/

namespace ErrorDerive

namespace Generation

def displayBranch? (generation : Generation) (name : String) : Option DisplayBranch :=
  generation.display.find? fun branch => branch.variant == name

def sourceBranch? (generation : Generation) (name : String) : Option SourceBranch :=
  generation.source.find? fun branch => branch.variant == name

/-- The conversion into the variant with a name, if there is one. -/
def conversion? (generation : Generation) (name : String) : Option Conversion :=
  generation.conversions.find? fun conversion => conversion.variant == name

end Generation

/-- The same type with other variants. -/
def TypeDeclaration.withVariants (declaration : TypeDeclaration)
    (variants : List VariantDeclaration) : TypeDeclaration :=
  { declaration with variants := variants }

/-! ## Conditions -/

/-- What holds between any two members of a list holds between any two that are selected. -/
private theorem pairwise_of_subperm
    {item : Type} {related : item → item → Prop} {selected whole : List item}
    (selection : selected.Subperm whole)
    (symmetric : ∀ {left right}, related left right → related right left)
    (all : whole.Pairwise related) : selected.Pairwise related := by
  obtain ⟨kept, reordered, isKept⟩ := selection
  have keptAll : kept.Pairwise related := all.sublist isKept
  exact reordered.pairwise keptAll symmetric

theorem VariantsSuit.select
    {selected declared : List VariantDeclaration} (suit : VariantsSuit [] declared)
    (selection : selected.Subperm declared) : VariantsSuit [] selected where
  identifiers := by
    intro variant member
    exact suit.identifiers variant (selection.subset member)
  distinct := by
    have apart := suit.distinct
    rw [List.Nodup, List.pairwise_map] at apart ⊢
    exact pairwise_of_subperm selection Ne.symm apart
  fresh := by simp
  suit := by
    intro variant member
    exact suit.suit variant (selection.subset member)

namespace TypeDeclaration

theorem Sound.select
    {declaration : TypeDeclaration} (sound : declaration.Sound)
    {selected : List VariantDeclaration} (selection : selected.Subperm declaration.variants) :
    (declaration.withVariants selected).Sound where
  isEnum := sound.isEnum
  isNamed := sound.isNamed
  variants := sound.variants.select selection
  flags := by
    intro declared member
    exact sound.flags declared (selection.subset member)

theorem Unambiguous.select
    {settings : Settings} {declaration : TypeDeclaration}
    (unambiguous : declaration.Unambiguous settings)
    {selected : List VariantDeclaration} (selection : selected.Subperm declaration.variants) :
    (declaration.withVariants selected).Unambiguous settings := by
  refine pairwise_of_subperm selection ?_ unambiguous
  intro left right apart rightAsks leftAsks same
  exact apart leftAsks rightAsks same.symm

/-- A selection of what can be generated can be generated. -/
theorem generate_withVariants
    {settings : Settings} {declaration : TypeDeclaration} {generation : Generation}
    (generated : generate settings declaration = .ok generation)
    {selected : List VariantDeclaration} (selection : selected.Subperm declaration.variants) :
    generate settings (declaration.withVariants selected) =
      .ok ((declaration.withVariants selected).generation settings) := by
  obtain ⟨⟨sound, unambiguous⟩, _⟩ :=
    (judges_generate settings declaration).eq_ok_iff.mp generated
  exact (judges_generate settings (declaration.withVariants selected)).succeeds
    ⟨sound.select selection, unambiguous.select selection⟩

end TypeDeclaration

/-! ## Look-ups by name -/

section LookUps

variable {declared : VariantDeclaration} {variants : List VariantDeclaration}

/-- Among variants with different names, a test that asks for a name finds that variant or none. -/
private theorem find?_of_distinct
    (distinct : (variants.map VariantDeclaration.name).Nodup) (member : declared ∈ variants)
    (test : VariantDeclaration → Bool)
    (asksName : ∀ other, test other = true → other.name = declared.name) :
    variants.find? test = if test declared then some declared else none := by
  have only : ∀ other ∈ variants, test other = true → other = declared := by
    intro other isMember passes
    exact List.inj_on_of_nodup_map distinct isMember member (asksName other passes)
  cases found : variants.find? test with
  | none =>
      have fails : test declared = false := by
        simpa using List.find?_eq_none.mp found declared member
      simp [fails]
  | some other =>
      have passes : test other = true := List.find?_some found
      have same : other = declared := only other (List.mem_of_find?_eq_some found) passes
      rw [same] at passes ⊢
      simp [passes]

private theorem find?_map_of_distinct
    {item : Type} (distinct : (variants.map VariantDeclaration.name).Nodup)
    (member : declared ∈ variants) (derive : VariantDeclaration → item) (nameOf : item → String)
    (named : ∀ other, nameOf (derive other) = other.name) :
    (variants.map derive).find? (fun derived => nameOf derived == declared.name) =
      some (derive declared) := by
  have found := find?_of_distinct distinct member
    (fun other => nameOf (derive other) == declared.name) (by
      intro other passes
      rw [beq_iff_eq, named] at passes
      exact passes)
  have passes : (nameOf (derive declared) == declared.name) = true := by
    rw [beq_iff_eq, named]
  rw [List.find?_map]
  simp only [Function.comp_def, found, passes, if_true, Option.map_some]

end LookUps

/-- The conversion into a declared variant, if one is made. -/
def VariantDeclaration.conversion? (settings : Settings) (declared : VariantDeclaration) :
    Option Conversion :=
  if declared.asksConversion settings then some (declared.policy settings).fromFirstField else none

theorem VariantDeclaration.variant_of_conversion?
    {settings : Settings} {declared : VariantDeclaration} {conversion : Conversion}
    (made : declared.conversion? settings = some conversion) :
    conversion.variant = declared.name := by
  rw [conversion?, Option.ite_none_right_eq_some, Option.some.injEq] at made
  rw [← made.2]
  rfl

namespace TypeDeclaration

variable {settings : Settings} {declaration : TypeDeclaration} {declared : VariantDeclaration}

theorem formConversions_eq_filterMap (settings : Settings) (declaration : TypeDeclaration) :
    declaration.formConversions settings =
      declaration.variants.filterMap (VariantDeclaration.conversion? settings) := by
  unfold formConversions policies
  induction declaration.variants with
  | nil =>
      rfl
  | cons head tail inductionHypothesis =>
      have sameFlag : (head.policy settings).makeFrom = head.asksConversion settings := rfl
      rw [List.map_cons, List.filter_cons, List.filterMap_cons, sameFlag,
        VariantDeclaration.conversion?]
      cases head.asksConversion settings with
      | true =>
          simpa using inductionHypothesis
      | false =>
          simpa using inductionHypothesis

theorem policy?_generation
    (distinct : (declaration.variants.map VariantDeclaration.name).Nodup)
    (member : declared ∈ declaration.variants) :
    (declaration.generation settings).policy? declared.name = some (declared.policy settings) :=
  find?_map_of_distinct distinct member (VariantDeclaration.policy settings) Policy.name
    fun _ => rfl

theorem displayBranch?_generation
    (distinct : (declaration.variants.map VariantDeclaration.name).Nodup)
    (member : declared ∈ declaration.variants) :
    (declaration.generation settings).displayBranch? declared.name =
      some (declared.policy settings).displayBranch := by
  show ((declaration.variants.map _).map _).find? _ = _
  rw [List.map_map]
  exact find?_map_of_distinct distinct member _ DisplayBranch.variant fun _ => rfl

theorem sourceBranch?_generation
    (distinct : (declaration.variants.map VariantDeclaration.name).Nodup)
    (member : declared ∈ declaration.variants) :
    (declaration.generation settings).sourceBranch? declared.name =
      some (declared.policy settings).sourceBranch := by
  show ((declaration.variants.map _).map _).find? _ = _
  rw [List.map_map]
  exact find?_map_of_distinct distinct member _ SourceBranch.variant fun _ => rfl

theorem conversion?_generation
    (distinct : (declaration.variants.map VariantDeclaration.name).Nodup)
    (member : declared ∈ declaration.variants) :
    (declaration.generation settings).conversion? declared.name =
      declared.conversion? settings := by
  have found := find?_of_distinct distinct member
    (fun other =>
      (other.conversion? settings).any fun conversion => conversion.variant == declared.name) (by
      intro other passes
      obtain ⟨conversion, made, named⟩ := (Option.any_eq_true _ _).mp passes
      rw [← VariantDeclaration.variant_of_conversion? made]
      exact beq_iff_eq.mp named)
  show (declaration.formConversions settings).find? _ = _
  rw [formConversions_eq_filterMap, List.find?_filterMap, found]
  cases made : declared.conversion? settings with
  | none =>
      simp
  | some conversion =>
      simp [made, VariantDeclaration.variant_of_conversion? made]

end TypeDeclaration

/-! ## Parts of a generation -/

/-- A generation that holds, of another one, what concerns the variants with the given names, in
the order of these names. -/
structure Generation.IsPart (names : List String) (whole part : Generation) : Prop where
  typeName : part.typeName = whole.typeName
  policies : part.policies.map some = names.map whole.policy?
  display : part.display.map some = names.map whole.displayBranch?
  source : part.source.map some = names.map whole.sourceBranch?
  conversions : part.conversions = names.filterMap whole.conversion?
  mem_conversions : ∀ conversion, conversion ∈ part.conversions ↔
    conversion ∈ whole.conversions ∧ conversion.variant ∈ names

theorem TypeDeclaration.isPart_generation
    {declaration : TypeDeclaration} (settings : Settings)
    (distinct : (declaration.variants.map VariantDeclaration.name).Nodup)
    {selected : List VariantDeclaration} (kept : selected ⊆ declaration.variants) :
    Generation.IsPart (selected.map VariantDeclaration.name) (declaration.generation settings)
      ((declaration.withVariants selected).generation settings) where
  typeName := rfl
  policies := by
    show (selected.map _).map some = _
    rw [List.map_map, List.map_map]
    apply List.map_congr_left
    intro declared member
    exact (policy?_generation distinct (kept member)).symm
  display := by
    show ((selected.map _).map _).map some = _
    rw [List.map_map, List.map_map, List.map_map]
    apply List.map_congr_left
    intro declared member
    exact (displayBranch?_generation distinct (kept member)).symm
  source := by
    show ((selected.map _).map _).map some = _
    rw [List.map_map, List.map_map, List.map_map]
    apply List.map_congr_left
    intro declared member
    exact (sourceBranch?_generation distinct (kept member)).symm
  conversions := by
    show formConversions settings _ = _
    rw [formConversions_eq_filterMap, List.filterMap_map]
    apply List.filterMap_congr
    intro declared member
    exact (conversion?_generation distinct (kept member)).symm
  mem_conversions := by
    intro conversion
    show conversion ∈ formConversions settings _ ↔ conversion ∈ formConversions settings _ ∧ _
    rw [formConversions_eq_filterMap, formConversions_eq_filterMap, List.mem_filterMap,
      List.mem_filterMap, List.mem_map]
    constructor
    · intro made
      obtain ⟨declared, member, made⟩ := made
      exact ⟨⟨declared, kept member, made⟩, declared, member,
        (VariantDeclaration.variant_of_conversion? made).symm⟩
    · intro made
      obtain ⟨⟨declared, isDeclared, made⟩, other, member, named⟩ := made
      rw [VariantDeclaration.variant_of_conversion? made] at named
      have same : other = declared :=
        List.inj_on_of_nodup_map distinct (kept member) isDeclared named
      exact ⟨declared, same ▸ member, made⟩

/-- Of a declaration that something is generated for, any selection of the variants can be
generated as well, and what concerns the selected variants is the same.  A reordering of the
variants can be generated exactly if the declaration can. -/
theorem generate_selection (settings : Settings) (declaration : TypeDeclaration)
    (selected : List VariantDeclaration) :
    (∀ whole, generate settings declaration = .ok whole →
      selected.Subperm declaration.variants →
      ∃ part, generate settings (declaration.withVariants selected) = .ok part ∧
        Generation.IsPart (selected.map VariantDeclaration.name) whole part) ∧
    (selected.Perm declaration.variants →
      ((∃ part, generate settings (declaration.withVariants selected) = .ok part) ↔
        ∃ whole, generate settings declaration = .ok whole)) := by
  constructor
  · intro whole generated selection
    obtain ⟨sound, rfl⟩ := generation_of_generate generated
    exact ⟨_, TypeDeclaration.generate_withVariants generated selection,
      declaration.isPart_generation settings sound.variants.distinct selection.subset⟩
  · intro reordered
    constructor
    · intro success
      obtain ⟨part, generated⟩ := success
      -- The declaration is in turn a selection of its reordering.
      exact ⟨_, TypeDeclaration.generate_withVariants generated reordered.symm.subperm⟩
    · intro success
      obtain ⟨whole, generated⟩ := success
      exact ⟨_, TypeDeclaration.generate_withVariants generated reordered.subperm⟩

def notFoundVariant : VariantDeclaration := ⟨"NotFound", none, [], []⟩

def ioVariant : VariantDeclaration := ⟨"Io", none, ["io::Error"], []⟩

def otherVariant : VariantDeclaration := ⟨"Other", none, ["String"], [[("make_from", .bool true)]]⟩

def threeWayType : TypeDeclaration :=
  ⟨"Fault", .enum, [notFoundVariant, ioVariant, otherVariant]⟩

/-- Without the second of three variants, and with the third in front of the first, the one
conversion that is left is the one into the third. -/
theorem generate_selection_threeWayType :
    [otherVariant, notFoundVariant].Subperm threeWayType.variants ∧
      [otherVariant, ioVariant, notFoundVariant].Perm threeWayType.variants ∧
      ∃ whole part, generate {} threeWayType = .ok whole ∧
        generate {} (threeWayType.withVariants [otherVariant, notFoundVariant]) = .ok part ∧
        Generation.IsPart ["Other", "NotFound"] whole part ∧
        whole.conversions = [⟨"io::Error", "Io"⟩, ⟨"String", "Other"⟩] ∧
        part.conversions = [⟨"String", "Other"⟩] ∧
        ∃ reordered, generate {} (threeWayType.withVariants
          [otherVariant, ioVariant, notFoundVariant]) = .ok reordered := by
  have generated : generate {} threeWayType = .ok (threeWayType.generation {}) := by
    rfl
  have selection : [otherVariant, notFoundVariant].Subperm threeWayType.variants :=
    ⟨[notFoundVariant, otherVariant], List.Perm.swap _ _ _, by simp [threeWayType]⟩
  have reordered : [otherVariant, ioVariant, notFoundVariant].Perm threeWayType.variants :=
    List.reverse_perm threeWayType.variants
  obtain ⟨part, partGenerated, isPart⟩ :=
    (generate_selection {} threeWayType _).1 _ generated selection
  have success := ((generate_selection {} threeWayType _).2 reordered).mpr ⟨_, generated⟩
  refine ⟨selection, reordered, _, part, generated, partGenerated, isPart, rfl, ?_, success⟩
  exact isPart.conversions

end ErrorDerive
