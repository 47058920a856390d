import ErrorDerive.Proofs.Generation.Grouping
import ErrorDerive.Proofs.Text.Stripping

/-!
# How source types are spelled

Blanks between two words of a type keep the words apart, and all other blanks in it are layout.
Source types are compared without any blanks, so two types that differ only in where their words
are kept apart count as one.

* `Text.tidy` is a text without its layout, and with one blank wherever words are kept apart;
* `conflict_iff_sameSpelling_or_merges` says which policies are refused for a conflict: those of
  which two have the same type, layout apart, or two types that become the same without blanks.
-/

namespace ErrorDerive

namespace Text

/-! ## Texts without layout -/

/-- A word without its layout.  `inWord` says whether the last letter so far that is no blank
belongs to a word, and `gap` whether blanks have followed it. -/
def tidyFrom (inWord gap : Bool) : List Char → List Char
  | [] => []
  | letter :: rest =>
    if isBlank letter then tidyFrom inWord true rest
    else if inWord && gap && continuesIdentifier letter then
      ' ' :: letter :: tidyFrom (continuesIdentifier letter) false rest
    else letter :: tidyFrom (continuesIdentifier letter) false rest

/-- A text in which each run of blanks between two letters of words is one blank, and which has no
other blanks. -/
def tidy (text : String) : String :=
  String.ofList (tidyFrom false false text.toList)

/-- Somewhere blanks stand between two letters of words. -/
def SeparatesWords (word : List Char) : Prop :=
  ∃ front left gap right back, word = front ++ left :: (gap ++ right :: back) ∧
    gap ≠ [] ∧ gap.all isBlank = true ∧
    continuesIdentifier left = true ∧ continuesIdentifier right = true

/-- Tidying changes nothing but blanks. -/
theorem filter_tidyFrom (inWord gap : Bool) (word : List Char) :
    (tidyFrom inWord gap word).filter (!isBlank ·) = word.filter (!isBlank ·) := by
  have blank : isBlank ' ' = true := by decide
  induction word generalizing inWord gap with
  | nil =>
      rfl
  | cons letter rest inductionHypothesis =>
      rw [tidyFrom]
      cases isBlank? : isBlank letter with
      | true =>
          simp [isBlank?, inductionHypothesis]
      | false =>
          by_cases separates : (inWord && gap && continuesIdentifier letter) = true
          · simp [separates, isBlank?, blank, inductionHypothesis]
          · simp [separates, isBlank?, inductionHypothesis]

theorem removeBlanks_tidy (text : String) : removeBlanks (tidy text) = removeBlanks text := by
  rw [removeBlanks, tidy, String.toList_ofList, filter_tidyFrom, removeBlanks]

theorem SeparatesWords.append {back : List Char} (separates : SeparatesWords back)
    (front : List Char) : SeparatesWords (front ++ back) := by
  obtain ⟨inner, left, gap, right, rest, rfl, conditions⟩ := separates
  exact ⟨front ++ inner, left, gap, right, rest, by rw [List.append_assoc], conditions⟩

/-- After a letter and a gap, no blank is left where no words are kept apart. -/
theorem tidyFrom_after (left : Char) (gap : List Char) {word : List Char}
    (blanks : gap.all isBlank = true) (alone : ¬ SeparatesWords (left :: (gap ++ word))) :
    tidyFrom (continuesIdentifier left) (!gap.isEmpty) word = word.filter (!isBlank ·) := by
  induction word generalizing left gap with
  | nil =>
      rfl
  | cons letter rest inductionHypothesis =>
      cases isBlank? : isBlank letter with
      | true =>
          have longer : (gap ++ [letter]).all isBlank = true := by
            simp [blanks, isBlank?]
          have later := inductionHypothesis left _ longer (by rwa [List.append_assoc])
          have nonempty : (gap ++ [letter]).isEmpty = false := by simp
          rw [nonempty] at later
          simpa [tidyFrom, isBlank?] using later
      | false =>
          have joined : (continuesIdentifier left && !gap.isEmpty &&
              continuesIdentifier letter) = false := by
            rw [Bool.eq_false_iff]
            intro separates
            simp only [Bool.and_eq_true, Bool.not_eq_true', List.isEmpty_eq_false_iff] at separates
            obtain ⟨⟨isLeft, nonempty⟩, isRight⟩ := separates
            exact alone ⟨[], left, gap, letter, rest, rfl, nonempty, blanks, isLeft, isRight⟩
          have later := inductionHypothesis letter [] rfl
            fun separates => alone (separates.append (left :: gap))
          rw [tidyFrom, if_neg (by simp [isBlank?]), if_neg (by simp [joined])]
          simpa [isBlank?] using later

/-- At the front of a text, blanks are layout. -/
theorem tidyFrom_front {word : List Char} (alone : ¬ SeparatesWords word) (gap : Bool) :
    tidyFrom false gap word = word.filter (!isBlank ·) := by
  induction word generalizing gap with
  | nil =>
      rfl
  | cons letter rest inductionHypothesis =>
      cases isBlank? : isBlank letter with
      | true =>
          have restAlone : ¬ SeparatesWords rest :=
            fun separates => alone (separates.append [letter])
          have later := inductionHypothesis restAlone true
          simpa [tidyFrom, isBlank?] using later
      | false =>
          have later := tidyFrom_after letter [] rfl alone
          simpa [tidyFrom, isBlank?] using later

/-- A text without words to be kept apart is tidy without any blank. -/
theorem tidy_eq_removeBlanks {text : String} (alone : ¬ SeparatesWords text.toList) :
    tidy text = removeBlanks text := by
  rw [tidy, removeBlanks, tidyFrom_front alone]

end Text

namespace Policy

/-- The type of the first field of a policy, without its layout. -/
def spelling (policy : Policy) : String :=
  Text.tidy policy.fromFirstField.sourceType

/-- Blanks keep words of the type apart. -/
def SeparatesWords (policy : Policy) : Prop :=
  Text.SeparatesWords policy.fromFirstField.sourceType.toList

/-- Two different types that are the same without any blanks. -/
structure Merges (first second : Policy) : Prop where
  differ : first.spelling ≠ second.spelling
  same : Text.removeBlanks first.spelling = Text.removeBlanks second.spelling

theorem removeBlanks_spelling (policy : Policy) :
    Text.removeBlanks policy.spelling = policy.source :=
  Text.removeBlanks_tidy _

theorem source_eq_iff (first second : Policy) :
    first.source = second.source ↔ first.spelling = second.spelling ∨ first.Merges second := by
  constructor
  · intro same
    rw [← removeBlanks_spelling, ← removeBlanks_spelling] at same
    by_cases differ : first.spelling = second.spelling
    · exact Or.inl differ
    · exact Or.inr ⟨differ, same⟩
  · intro alike
    rw [← removeBlanks_spelling, ← removeBlanks_spelling]
    rcases alike with sameSpelling | merges
    · rw [sameSpelling]
    · exact merges.same

theorem spelling_eq_source {policy : Policy} (alone : ¬ policy.SeparatesWords) :
    policy.spelling = policy.source :=
  Text.tidy_eq_removeBlanks alone

/-- Only a type in which words are kept apart becomes the same as a different one. -/
theorem Merges.separatesWords {first second : Policy} (merges : first.Merges second) :
    first.SeparatesWords ∨ second.SeparatesWords := by
  by_contra neither
  obtain ⟨firstAlone, secondAlone⟩ := not_or.mp neither
  apply merges.differ
  have same := merges.same
  rw [removeBlanks_spelling, removeBlanks_spelling] at same
  rw [spelling_eq_source firstAlone, spelling_eq_source secondAlone, same]

end Policy

/-! ## Conflicts -/

/-- The policies are refused because conversions start from one source type. -/
def Conflict (policies : List Policy) : Prop :=
  ∃ sourceType variants, conversions policies = .error (.conflictingConversion sourceType variants)

/-- Two of the policies that ask for a conversion are related. -/
def AnyTwo (policies : List Policy) (related : Policy → Policy → Prop) : Prop :=
  ∃ first second, [first, second].Sublist (policies.filter Policy.makeFrom) ∧ related first second

theorem conflict_iff_not_nodup {policies : List Policy}
    (sole : ∀ policy ∈ policies.filter Policy.makeFrom, policy.variant.fields.length = 1) :
    Conflict policies ↔ ¬ ((policies.filter Policy.makeFrom).map Policy.source).Nodup := by
  have ending := conversionEnd_conversions policies
  constructor
  · intro conflict distinct
    obtain ⟨sourceType, variants, refused⟩ := conflict
    rw [(ConversionEnd.derived sole distinct).conversions_eq] at refused
    cases refused
  · intro shared
    generalize outcome : conversions policies = result at ending
    cases ending with
    | malformed earlier later flawed split _ many =>
        have member : flawed ∈ policies.filter Policy.makeFrom := by
          rw [split]
          simp
        exact absurd (sole flawed member) many
    | conflicting earlier later first _ _ _ _ _ =>
        exact ⟨_, _, outcome⟩
    | derived _ distinct =>
        exact absurd distinct shared

theorem not_nodup_iff_anyTwo (policies : List Policy) :
    ¬ ((policies.filter Policy.makeFrom).map Policy.source).Nodup ↔
      AnyTwo policies fun first second => first.source = second.source := by
  rw [List.Nodup, List.pairwise_map, List.pairwise_iff_forall_sublist]
  simp only [AnyTwo, not_forall, not_not, exists_prop]

/-- Policies whose conversions each have one source are refused for a conflict exactly if two of
them have the same source type, layout apart, or different ones that are the same without blanks.
The latter takes words that are kept apart, so without such words only the same type conflicts. -/
theorem conflict_iff_sameSpelling_or_merges (policies : List Policy)
    (sole : ∀ policy ∈ policies.filter Policy.makeFrom, policy.variant.fields.length = 1) :
    (Conflict policies ↔
      AnyTwo policies (fun first second => first.spelling = second.spelling) ∨
        AnyTwo policies Policy.Merges) ∧
    (∀ first second : Policy, first.Merges second →
      first.SeparatesWords ∨ second.SeparatesWords) ∧
    ((∀ policy ∈ policies.filter Policy.makeFrom, ¬ policy.SeparatesWords) →
      (Conflict policies ↔
        AnyTwo policies fun first second => first.spelling = second.spelling)) := by
  have general : Conflict policies ↔
      AnyTwo policies (fun first second => first.spelling = second.spelling) ∨
        AnyTwo policies Policy.Merges := by
    rw [conflict_iff_not_nodup sole, not_nodup_iff_anyTwo]
    simp only [AnyTwo, Policy.source_eq_iff, and_or_left, exists_or]
  refine ⟨general, fun first second merges => merges.separatesWords, ?_⟩
  intro alone
  rw [general, or_iff_left]
  rintro ⟨first, second, pair, merges⟩
  rcases merges.separatesWords with separates | separates
  · exact alone first (pair.subset (by simp)) separates
  · exact alone second (pair.subset (by simp)) separates

/-- Policies that each ask for a conversion from one type. -/
def askingPolicies (types : List (String × String)) : List Policy :=
  types.map fun (name, typeRef) => askingPolicy name typeRef

theorem sole_askingPolicies (types : List (String × String)) :
    ∀ policy ∈ (askingPolicies types).filter Policy.makeFrom, policy.variant.fields.length = 1 := by
  intro policy member
  obtain ⟨entry, _, rfl⟩ := List.mem_map.mp (List.mem_of_mem_filter member)
  rfl

/-- A trait object, and a type whose name is spelled with the same letters. -/
def mergedPolicies : List Policy :=
  askingPolicies [("Boxed", "dyn E"), ("Named", "dynE")]

/-- Two types that differ by more than layout are refused for a conflict. -/
theorem different_types_conflict :
    (∀ policy ∈ mergedPolicies.filter Policy.makeFrom, policy.variant.fields.length = 1) ∧
      mergedPolicies.map Policy.makeFrom = [true, true] ∧
      mergedPolicies.map Policy.spelling = ["dyn E", "dynE"] ∧
      conversions mergedPolicies =
        .error (.conflictingConversion "dyn E" ["Boxed", "Named"]) :=
  ⟨sole_askingPolicies _, by decide, by decide, by decide⟩

/-- Policies two of which have the same type, in two layouts that keep the same words apart. -/
def twoLayouts : List Policy :=
  askingPolicies [("A", "Vec<&'a\tmut  u8>"), ("B", "E"), ("C", " Vec< & 'a mut u8 >")]

/-- One type in two layouts conflicts, and so do two types that are merged. -/
theorem conflict_twoLayouts_and_mergedPolicies :
    (∀ policy ∈ twoLayouts.filter Policy.makeFrom, policy.variant.fields.length = 1) ∧
      twoLayouts.map Policy.spelling = ["Vec<&'a mut u8>", "E", "Vec<&'a mut u8>"] ∧
      Conflict twoLayouts ∧ AnyTwo mergedPolicies Policy.Merges ∧ Conflict mergedPolicies := by
  have sameType : AnyTwo twoLayouts fun first second => first.spelling = second.spelling :=
    ⟨askingPolicy "A" "Vec<&'a\tmut  u8>", askingPolicy "C" " Vec< & 'a mut u8 >", by decide,
      by decide⟩
  have merged : AnyTwo mergedPolicies Policy.Merges :=
    ⟨askingPolicy "Boxed" "dyn E", askingPolicy "Named" "dynE", List.Sublist.refl _,
      ⟨by decide, by decide⟩⟩
  have layouts := conflict_iff_sameSpelling_or_merges twoLayouts (sole_askingPolicies _)
  have names := conflict_iff_sameSpelling_or_merges mergedPolicies (sole_askingPolicies _)
  exact ⟨sole_askingPolicies _, by decide, layouts.1.mpr (Or.inl sameType), merged,
    names.1.mpr (Or.inr merged)⟩

end ErrorDerive
