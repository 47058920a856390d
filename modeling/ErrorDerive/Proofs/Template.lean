import ErrorDerive.Display
import ErrorDerive.Proofs.Text.Separators
import ErrorDerive.Settings

/-!
# Templates piece by piece

A word without placeholder, followed by a placeholder, is the first piece of a template.  This
holds even if the word ends or begins with a brace, because the leftmost placeholder wins.  The
template of a default display has a placeholder for each field and the delimiter between any two.

* `pieces_eq_iff` says which words the pieces are, without saying how they are found.
-/

namespace ErrorDerive.Template

open Text

theorem containsWord_cons_eq_false
    {needle rest : List Char} {letter : Char}
    (absent : containsWord needle (letter :: rest) = false) :
    needle.isPrefixOf (letter :: rest) = false ∧ containsWord needle rest = false := by
  simpa [containsWord] using absent

theorem containsWord_of_noBrace
    {word : List Char} (noBrace : '\x7b' ∉ word) :
    containsWord ['\x7b', '\x7d'] word = false := by
  induction word with
  | nil =>
      rfl
  | cons letter rest inductionHypothesis =>
      rw [List.mem_cons, not_or] at noBrace
      simp [containsWord, List.isPrefixOf, noBrace.1, inductionHypothesis noBrace.2]

/-- Where no placeholder begins, the first letter belongs to the first piece. -/
theorem pieces_cons
    {letter : Char} {rest : List Char}
    (elsewhere : List.isPrefixOf ['\x7b', '\x7d'] (letter :: rest) = false) :
    pieces (letter :: rest) = (pieces rest).modifyHead (letter :: ·) := by
  rw [pieces]
  intro others isOpen split
  subst isOpen split
  simp at elsewhere

theorem pieces_of_absent
    {word : List Char} (absent : containsWord ['\x7b', '\x7d'] word = false) :
    pieces word = [word] := by
  induction word with
  | nil =>
      rfl
  | cons letter others inductionHypothesis =>
      obtain ⟨elsewhere, absentLater⟩ := containsWord_cons_eq_false absent
      rw [pieces_cons elsewhere, inductionHypothesis absentLater]
      rfl

theorem pieces_append_placeholder
    {word : List Char} (absent : containsWord ['\x7b', '\x7d'] word = false) (rest : List Char) :
    pieces (word ++ '\x7b' :: '\x7d' :: rest) = word :: pieces rest := by
  induction word with
  | nil =>
      rfl
  | cons letter others inductionHypothesis =>
      obtain ⟨elsewhere, absentLater⟩ := containsWord_cons_eq_false absent
      -- A brace at the end of the word must not join with the placeholder behind it.
      have stillElsewhere : List.isPrefixOf ['\x7b', '\x7d']
          (letter :: (others ++ '\x7b' :: '\x7d' :: rest)) = false := by
        cases others with
        | nil =>
            simp [List.isPrefixOf]
        | cons second more =>
            simpa [List.isPrefixOf] using elsewhere
      rw [List.cons_append, pieces_cons stillElsewhere, inductionHypothesis absentLater]
      rfl

/-- A template is its pieces with placeholders between them. -/
theorem intercalate_pieces (template : List Char) :
    List.intercalate ['\x7b', '\x7d'] (pieces template) = template := by
  fun_induction pieces template with
  | case1 =>
      rfl
  | case2 rest inductionHypothesis =>
      rw [List.intercalate_cons_of_ne_nil (pieces_ne_nil rest), inductionHypothesis]
      rfl
  | case3 letter rest different inductionHypothesis =>
      obtain ⟨front, others, split⟩ := List.exists_cons_of_ne_nil (pieces_ne_nil rest)
      rw [split] at inductionHypothesis ⊢
      rw [List.modifyHead_cons, ← inductionHypothesis]
      cases others with
      | nil =>
          rw [List.intercalate_singleton, List.intercalate_singleton]
      | cons second more =>
          rw [List.intercalate_cons_cons, List.intercalate_cons_cons]
          rfl

/-- What a first piece begins with, the template begins with. -/
theorem prefix_of_pieces {template front : List Char} {others : List (List Char)}
    (split : pieces template = front :: others) : front <+: template := by
  have whole := intercalate_pieces template
  rw [split] at whole
  rw [← whole]
  cases others with
  | nil =>
      exact ⟨[], by rw [List.append_nil, List.intercalate_singleton]⟩
  | cons second more =>
      rw [List.intercalate_cons_cons, List.append_assoc]
      exact List.prefix_append _ _

theorem not_infix_of_mem_pieces (template : List Char) :
    ∀ piece ∈ pieces template, ¬ ['\x7b', '\x7d'] <:+: piece := by
  fun_induction pieces template with
  | case1 =>
      simp
  | case2 rest inductionHypothesis =>
      exact List.forall_mem_cons.mpr ⟨by simp, inductionHypothesis⟩
  | case3 letter rest different inductionHypothesis =>
      obtain ⟨front, others, split⟩ := List.exists_cons_of_ne_nil (pieces_ne_nil rest)
      rw [split, List.modifyHead_cons]
      rw [split] at inductionHypothesis
      obtain ⟨frontClear, othersClear⟩ := List.forall_mem_cons.mp inductionHypothesis
      refine List.forall_mem_cons.mpr ⟨?_, othersClear⟩
      rw [List.infix_cons_iff]
      rintro (begins | later)
      · -- A placeholder that begins with the letter would have been taken for one.
        have beginsTemplate : ['\x7b', '\x7d'] <+: letter :: rest :=
          begins.trans (List.cons_prefix_cons.mpr ⟨rfl, prefix_of_pieces split⟩)
        obtain ⟨after, isTemplate⟩ := beginsTemplate
        cases isTemplate
        exact different after rfl rfl
      · exact frontClear later

theorem pieces_intercalate_of_clear {parts : List (List Char)} (someParts : parts ≠ [])
    (clear : ∀ part ∈ parts, ¬ ['\x7b', '\x7d'] <:+: part) :
    pieces (List.intercalate ['\x7b', '\x7d'] parts) = parts := by
  induction parts with
  | nil =>
      exact absurd rfl someParts
  | cons part others inductionHypothesis =>
      obtain ⟨partClear, othersClear⟩ := List.forall_mem_cons.mp clear
      have absent : containsWord ['\x7b', '\x7d'] part = false := by
        rw [← Bool.not_eq_true, containsWord_iff_infix]
        exact partClear
      cases others with
      | nil =>
          rw [List.intercalate_singleton, pieces_of_absent absent]
      | cons second more =>
          rw [List.intercalate_cons_cons, List.append_assoc]
          have onward := inductionHypothesis (List.cons_ne_nil second more) othersClear
          exact (pieces_append_placeholder absent _).trans (congrArg (part :: ·) onward)

/-- The pieces of a template are the words without placeholder that stand between its placeholders,
and there is only one way to cut a template like this. -/
theorem pieces_eq_iff (template : List Char) (parts : List (List Char)) :
    pieces template = parts ↔ parts ≠ [] ∧ List.intercalate ['\x7b', '\x7d'] parts = template ∧
      ∀ part ∈ parts, ¬ ['\x7b', '\x7d'] <:+: part := by
  constructor
  · intro same
    subst same
    exact ⟨pieces_ne_nil template, intercalate_pieces template, not_infix_of_mem_pieces template⟩
  · intro cut
    obtain ⟨someParts, rfl, clear⟩ := cut
    exact pieces_intercalate_of_clear someParts clear

/-- The pieces around placeholders that a delimiter separates. -/
theorem pieces_intercalate
    {front delimiter : List Char}
    (frontClear : containsWord ['\x7b', '\x7d'] front = false)
    (delimiterClear : containsWord ['\x7b', '\x7d'] delimiter = false) (count : Nat) :
    pieces (front ++ delimiter.intercalate (List.replicate (count + 1) ['\x7b', '\x7d'])) =
      front :: (List.replicate count delimiter ++ [[]]) := by
  induction count generalizing front with
  | zero =>
      rw [List.replicate_one, List.intercalate_singleton, pieces_append_placeholder frontClear]
      rfl
  | succ count inductionHypothesis =>
      have unrolled : front ++ delimiter.intercalate
            (List.replicate (count + 1 + 1) ['\x7b', '\x7d']) =
          front ++ '\x7b' :: '\x7d' :: (delimiter ++ delimiter.intercalate
            (List.replicate (count + 1) ['\x7b', '\x7d'])) := by
        rw [List.replicate_succ, List.intercalate_cons_of_ne_nil (by simp), List.append_assoc]
        rfl
      rw [unrolled, pieces_append_placeholder frontClear, inductionHypothesis delimiterClear]
      rfl

/-- Values between pieces that are a front and the same delimiter again and again. -/
theorem interleave_replicate
    (front delimiter first : List Char) (others : List (List Char)) :
    interleave (front :: (List.replicate others.length delimiter ++ [[]])) (first :: others) =
      front ++ delimiter.intercalate (first :: others) := by
  induction others generalizing front first with
  | nil =>
      simp [interleave]
  | cons second rest inductionHypothesis =>
      rw [interleave, List.length_cons, List.replicate_succ, List.cons_append,
        inductionHypothesis delimiter second, List.intercalate_cons_cons, List.append_assoc]
      simp

end ErrorDerive.Template

/-! ## Rendered templates -/

namespace ErrorDerive.Display

theorem render_template_eq_error_iff
    (template : String) (values : List String) (fault : ArityFault) :
    (Display.template template).render values = .error fault ↔
      values.length ≠ Template.arity template.toList ∧
        fault = ⟨template, Template.arity template.toList, values.length⟩ := by
  rw [Display.render, Template.fill?, List.length_map]
  by_cases enough : values.length = Template.arity template.toList
  · simp [enough]
  · simp [enough, eq_comm]

theorem render_template_eq_ok_iff (template : String) (values : List String) (text : String) :
    (Display.template template).render values = .ok text ↔
      Template.fill? template.toList (values.map String.toList) = some text.toList := by
  rw [Display.render]
  cases filled : Template.fill? template.toList (values.map String.toList) with
  | none =>
      simp
  | some written =>
      constructor
      · intro rendered
        rw [← Except.ok.inj rendered, String.toList_ofList]
      · intro same
        rw [Option.some.inj same]
        exact congrArg Except.ok String.ofList_toList

end ErrorDerive.Display
