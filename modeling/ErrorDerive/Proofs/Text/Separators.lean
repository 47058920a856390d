import ErrorDerive.Text.Blank
import ErrorDerive.Text.Segment
import Mathlib.Data.List.Basic

/-!
# Separators

What stands behind the rightmost occurrence of a separator is an end of the word in which the
separator does not occur.  Nor does it occur in any part of that end, blanks taken off or not.
-/

namespace ErrorDerive.Text

/-- Looking for a word finds exactly the words whose letters stand next to each other. -/
theorem containsWord_iff_infix (needle word : List Char) :
    containsWord needle word = true ↔ needle <:+: word := by
  induction word with
  | nil =>
      rw [containsWord, List.isEmpty_iff, List.infix_nil]
  | cons letter rest inductionHypothesis =>
      rw [containsWord, Bool.or_eq_true, List.isPrefixOf_iff_prefix, inductionHypothesis,
        List.infix_cons_iff]

/-! ## The last segment -/

theorem isPrefixOf?_eq_none_iff {separator word : List Char} :
    separator.isPrefixOf? word = none ↔ ¬ separator <+: word := by
  rw [Option.eq_none_iff_forall_ne_some]
  constructor
  · rintro noRest ⟨segment, isWhole⟩
    exact noRest segment (List.isPrefixOf?_eq_some_iff_append_eq.mpr isWhole)
  · intro noPrefix segment found
    exact noPrefix ⟨segment, List.isPrefixOf?_eq_some_iff_append_eq.mp found⟩

/-- There is no last segment exactly if the separator does not occur. -/
theorem afterLast?_eq_none_iff {separator word : List Char} :
    afterLast? separator word = none ↔ ¬ separator <:+: word := by
  induction word with
  | nil =>
      rw [afterLast?, isPrefixOf?_eq_none_iff, List.prefix_nil, List.infix_nil]
  | cons letter rest inductionHypothesis =>
      rw [afterLast?, List.infix_cons_iff, not_or, ← isPrefixOf?_eq_none_iff,
        ← inductionHypothesis]
      cases afterLast? separator rest with
      | none =>
          simp
      | some segment =>
          simp

theorem suffix_of_afterLast? {separator word segment : List Char}
    (found : afterLast? separator word = some segment) : segment <:+ word := by
  induction word with
  | nil =>
      rw [afterLast?, List.isPrefixOf?_eq_some_iff_append_eq] at found
      exact ⟨separator, found⟩
  | cons letter rest inductionHypothesis =>
      rw [afterLast?] at found
      cases later : afterLast? separator rest with
      | none =>
          rw [later] at found
          exact ⟨separator, List.isPrefixOf?_eq_some_iff_append_eq.mp found⟩
      | some other =>
          rw [later] at found
          cases found
          exact (inductionHypothesis later).trans (List.suffix_cons letter rest)

/-- The separator occurs no more behind its rightmost occurrence. -/
theorem not_infix_of_afterLast? {separator word segment : List Char} (nonempty : separator ≠ [])
    (found : afterLast? separator word = some segment) : ¬ separator <:+: segment := by
  induction word with
  | nil =>
      rw [afterLast?, List.isPrefixOf?_eq_some_iff_append_eq] at found
      exact absurd (List.append_eq_nil_iff.mp found).1 nonempty
  | cons letter rest inductionHypothesis =>
      rw [afterLast?] at found
      cases later : afterLast? separator rest with
      | some other =>
          rw [later] at found
          cases found
          exact inductionHypothesis later
      | none =>
          rw [later] at found
          have whole := List.isPrefixOf?_eq_some_iff_append_eq.mp found
          obtain ⟨first, others, isCons⟩ := List.exists_cons_of_ne_nil nonempty
          rw [isCons, List.cons_append, List.cons.injEq] at whole
          -- What follows the occurrence is an end of the rest, where there is no other one.
          intro occurs
          refine afterLast?_eq_none_iff.mp later (occurs.trans ?_)
          rw [← whole.2]
          exact (List.suffix_append others segment).isInfix

theorem suffix_afterLast (separator word : List Char) : afterLast separator word <:+ word := by
  unfold afterLast
  cases found : afterLast? separator word with
  | none =>
      exact List.suffix_refl word
  | some segment =>
      exact suffix_of_afterLast? found

theorem not_infix_afterLast {separator : List Char} (nonempty : separator ≠ [])
    (word : List Char) : ¬ separator <:+: afterLast separator word := by
  unfold afterLast
  cases found : afterLast? separator word with
  | none =>
      exact afterLast?_eq_none_iff.mp found
  | some segment =>
      exact not_infix_of_afterLast? nonempty found

/-! ## Stripping -/

theorem prefix_dropEnd (test : Char → Bool) (word : List Char) : dropEnd test word <+: word := by
  unfold dropEnd
  have ends := List.dropWhile_suffix test (l := word.reverse)
  rwa [← List.reverse_prefix, List.reverse_reverse] at ends

/-- A stripped word is a part of the word. -/
theorem infix_stripWord (word : List Char) : stripWord word <:+: word :=
  (prefix_dropEnd isBlank _).isInfix.trans (List.dropWhile_suffix isBlank).isInfix

end ErrorDerive.Text
