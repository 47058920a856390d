import ErrorDerive.Text.Blank
import ErrorDerive.Text.Identifier
import Mathlib.Data.List.TakeWhile

/-!
# Stripping and removing blanks

Stripping leaves nothing of a text exactly if the text is blank, and it changes nothing about the
letters that are no blanks.  Removing blanks keeps just these letters.  A name among blanks is left
as it is, and so is what stands in front of the name, if that begins with no blank.
-/

namespace ErrorDerive.Text

theorem dropEnd_eq_nil_iff (test : Char → Bool) (word : List Char) :
    dropEnd test word = [] ↔ word.all test = true := by
  rw [dropEnd, List.reverse_eq_nil_iff, List.dropWhile_eq_nil_iff]
  simp

theorem stripWord_eq_nil_iff (word : List Char) :
    stripWord word = [] ↔ word.all isBlank = true := by
  rw [stripWord, dropEnd_eq_nil_iff]
  induction word with
  | nil =>
      simp
  | cons letter rest inductionHypothesis =>
      cases blank : isBlank letter with
      | true =>
          simpa [blank] using inductionHypothesis
      | false =>
          simp [blank]

theorem strip_eq_empty_iff (text : String) : strip text = "" ↔ isAllBlank text = true := by
  rw [isAllBlank, ← stripWord_eq_nil_iff, strip]
  constructor
  · intro empty
    simpa using congrArg String.toList empty
  · intro empty
    simp [empty]

theorem filter_dropWhile (test : Char → Bool) (word : List Char) :
    (word.dropWhile test).filter (!test ·) = word.filter (!test ·) := by
  induction word with
  | nil =>
      rfl
  | cons letter rest inductionHypothesis =>
      cases holds : test letter with
      | true =>
          simp [holds, inductionHypothesis]
      | false =>
          simp [holds]

theorem filter_dropEnd (test : Char → Bool) (word : List Char) :
    (dropEnd test word).filter (!test ·) = word.filter (!test ·) := by
  rw [dropEnd, List.filter_reverse, filter_dropWhile, List.filter_reverse, List.reverse_reverse]

@[simp]
theorem removeBlanks_strip (text : String) : removeBlanks (strip text) = removeBlanks text := by
  simp only [removeBlanks, strip, stripWord, String.toList_ofList, filter_dropEnd,
    filter_dropWhile]

/-- Removing the blanks of a text takes out all of them and nothing else, and keeps the order of the
other letters. -/
theorem removeBlanks_eq_iff (text rest : String) :
    removeBlanks text = rest ↔ rest.toList.Sublist text.toList ∧
      (∀ letter ∈ rest.toList, isBlank letter = false) ∧
      ∀ letter, isBlank letter = false → rest.toList.count letter = text.toList.count letter := by
  constructor
  · intro same
    subst same
    rw [removeBlanks, String.toList_ofList]
    refine ⟨List.filter_sublist, ?_, ?_⟩
    · intro letter member
      simpa using (List.mem_filter.mp member).2
    · intro letter solid
      exact List.count_filter (by simp [solid])
  · intro conditions
    obtain ⟨inside, solid, sameCount⟩ := conditions
    have solidInside : rest.toList.Sublist (text.toList.filter (!isBlank ·)) := by
      have filtered := inside.filter (!isBlank ·)
      rwa [List.filter_eq_self.mpr fun letter member => by simp [solid letter member]] at filtered
    have rearranged : rest.toList.Perm (text.toList.filter (!isBlank ·)) := by
      rw [List.perm_iff_count]
      intro letter
      cases blank : isBlank letter with
      | false =>
          rw [sameCount letter blank, List.count_filter (by simp [blank])]
      | true =>
          have absent : letter ∉ rest.toList := by
            intro member
            rw [solid letter member] at blank
            cases blank
          rw [List.count_eq_zero.mpr absent, List.count_eq_zero.mpr]
          simp [blank]
    rw [removeBlanks, ← solidInside.eq_of_length rearranged.length_eq, String.ofList_toList]

/-! ## Letters among blanks -/

theorem dropWhile_append_cons
    {test : Char → Bool} {mark : Char} (fails : test mark = false) (front rest : List Char) :
    (front ++ mark :: rest).dropWhile test = front.dropWhile test ++ mark :: rest := by
  induction front with
  | nil =>
      rw [List.nil_append, List.dropWhile_cons_of_neg (by simp [fails]), List.dropWhile_nil,
        List.nil_append]
  | cons letter others inductionHypothesis =>
      cases holds : test letter with
      | true =>
          simpa [holds] using inductionHypothesis
      | false =>
          simp [holds]

theorem dropEnd_append_of_all
    {test : Char → Bool} {after : List Char} (dropped : ∀ letter ∈ after, test letter = true)
    (word : List Char) : dropEnd test (word ++ after) = dropEnd test word := by
  have reversed : ∀ letter ∈ after.reverse, test letter = true := by
    simpa using dropped
  rw [dropEnd, List.reverse_append, List.dropWhile_append_of_pos reversed]
  rfl

theorem dropEnd_append_of_kept
    {test : Char → Bool} {kept : List Char} (nonempty : kept ≠ [])
    (fails : ∀ letter ∈ kept, test letter = false) (word : List Char) :
    dropEnd test (word ++ kept) = word ++ kept := by
  rw [dropEnd, List.reverse_append]
  cases reversed : kept.reverse with
  | nil =>
      exact absurd (List.reverse_eq_nil_iff.mp reversed) nonempty
  | cons letter others =>
      have isKept : letter ∈ kept := by
        rw [← List.mem_reverse, reversed]
        exact List.mem_cons_self
      rw [List.cons_append, List.dropWhile_cons_of_neg (by simp [fails letter isKept]),
        ← List.cons_append, ← reversed, ← List.reverse_append, List.reverse_reverse]

/-- Stripping takes off the blanks around letters that are no blanks. -/
theorem stripWord_of_kept
    {before kept after : List Char} (blankBefore : ∀ letter ∈ before, isBlank letter = true)
    (blankAfter : ∀ letter ∈ after, isBlank letter = true) (nonempty : kept ≠ [])
    (inked : ∀ letter ∈ kept, isBlank letter = false) :
    stripWord (before ++ kept ++ after) = kept := by
  cases kept with
  | nil =>
      exact absurd rfl nonempty
  | cons letter others =>
      have whole := dropEnd_append_of_kept nonempty inked []
      rw [stripWord, List.append_assoc, List.dropWhile_append_of_pos blankBefore, List.cons_append,
        List.dropWhile_cons_of_neg (by simp [inked letter List.mem_cons_self]),
        ← List.cons_append, dropEnd_append_of_all blankAfter]
      exact whole

/-- Behind a mark that is no blank, stripping takes off only the blanks at the end. -/
theorem stripWord_append_cons
    {mark : Char} (markInked : isBlank mark = false) (front middle : List Char)
    {kept after : List Char} (blankAfter : ∀ letter ∈ after, isBlank letter = true)
    (nonempty : kept ≠ []) (inked : ∀ letter ∈ kept, isBlank letter = false) :
    stripWord (front ++ mark :: (middle ++ kept ++ after)) =
      front.dropWhile isBlank ++ mark :: (middle ++ kept) := by
  have regrouped : front.dropWhile isBlank ++ mark :: (middle ++ kept ++ after) =
      (front.dropWhile isBlank ++ mark :: middle) ++ kept ++ after := by
    simp
  rw [stripWord, dropWhile_append_cons markInked, regrouped, dropEnd_append_of_all blankAfter,
    dropEnd_append_of_kept nonempty inked, List.append_assoc, List.cons_append]

/-! ## Names -/

/-- The code points of the blanks. -/
private def blankCodes : List Nat :=
  List.range' 9 5 ++ List.range' 28 5 ++ [0x85, 0xA0, 0x1680] ++ List.range' 0x2000 11 ++
    [0x2028, 0x2029, 0x202F, 0x205F, 0x3000]

theorem not_continuesIdentifier_of_isBlank
    {letter : Char} (blank : isBlank letter = true) : continuesIdentifier letter = false := by
  have listed : letter.toNat ∈ blankCodes := by
    simp only [isBlank, Bool.or_eq_true, Bool.and_eq_true, decide_eq_true_eq, beq_iff_eq] at blank
    simp only [blankCodes, List.mem_append, List.mem_range'_1, List.mem_cons, List.not_mem_nil,
      or_false]
    omega
  have checked : (blankCodes.all fun code => !continuesIdentifier (Char.ofNat code)) = true := by
    decide +kernel
  have stops := List.all_eq_true.mp checked letter.toNat listed
  simpa using stops

/-- No blank stands in an identifier. -/
theorem not_isBlank_of_mem_identifier
    {word : List Char} (identifier : isIdentifierWord word = true) :
    ∀ letter ∈ word, isBlank letter = false := by
  intro letter member
  cases blank : isBlank letter with
  | false =>
      rfl
  | true =>
      have stops := not_continuesIdentifier_of_isBlank blank
      exact absurd member (not_mem_of_isIdentifierWord identifier stops)

end ErrorDerive.Text
