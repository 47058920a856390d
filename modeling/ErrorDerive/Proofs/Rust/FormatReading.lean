import ErrorDerive.Proofs.Rust.LiteralReading
import ErrorDerive.Proofs.Template
import ErrorDerive.Rust.FormatString

/-!
# Reading format strings back

A format string written for a template is read as the pieces of the template with an argument
between any two.  Filling in arguments then gives what filling the template gives, and fails for
every other number of arguments.  `quote_renders` puts this together for the literals that stand in
the generated code.
-/

namespace ErrorDerive.Rust.FormatString

/-- The parts for the pieces of a template. -/
def partsOf : List (List Char) → List Part
  | [] => []
  | [piece] => piece.map .letter
  | piece :: rest => piece.map .letter ++ .argument :: partsOf rest

theorem partsOf_cons_cons (piece second : List Char) (others : List (List Char)) :
    partsOf (piece :: second :: others) =
      piece.map .letter ++ .argument :: partsOf (second :: others) :=
  rfl

theorem parse?_doubleBrace (letter : Char) (rest : List Char) :
    parse? (doubleBrace letter ++ rest) = (parse? rest).map (.letter letter :: ·) := by
  by_cases isOpen : letter = '\x7b'
  · subst isOpen
    rfl
  by_cases isClose : letter = '\x7d'
  · subst isClose
    rfl
  simp [doubleBrace, parse?, isOpen, isClose]

theorem parse?_flatMap_doubleBrace (piece rest : List Char) :
    parse? (piece.flatMap doubleBrace ++ rest) =
      (parse? rest).map (piece.map Part.letter ++ ·) := by
  induction piece with
  | nil =>
      simp
  | cons letter others inductionHypothesis =>
      rw [List.flatMap_cons, List.append_assoc, parse?_doubleBrace, inductionHypothesis,
        Option.map_map]
      rfl

theorem parse?_intercalate (pieces : List (List Char)) :
    parse? (ofTemplate.placeholder.intercalate (pieces.map (List.flatMap doubleBrace))) =
      some (partsOf pieces) := by
  induction pieces with
  | nil =>
      rfl
  | cons piece rest inductionHypothesis =>
      cases rest with
      | nil =>
          have alone := parse?_flatMap_doubleBrace piece []
          simpa [partsOf, parse?] using alone
      | cons second others =>
          have separated : parse? (ofTemplate.placeholder ++ ofTemplate.placeholder.intercalate
              ((second :: others).map (List.flatMap doubleBrace))) =
              some (.argument :: partsOf (second :: others)) := by
            rw [ofTemplate.placeholder, List.cons_append, List.singleton_append, parse?,
              ← ofTemplate.placeholder, inductionHypothesis]
            rfl
          rw [List.map_cons, List.intercalate_cons_of_ne_nil (by simp), List.append_assoc,
            parse?_flatMap_doubleBrace, separated]
          rfl

/-- A template's format string has the template's pieces as its parts. -/
theorem parse?_ofTemplate (template : List Char) :
    parse? (ofTemplate template) = some (partsOf (Template.pieces template)) :=
  parse?_intercalate (Template.pieces template)

/-! ## Arguments -/

/-- The number of places for arguments. -/
def places (parts : List Part) : Nat :=
  parts.count .argument

@[simp]
theorem places_map_letter (piece : List Char) : places (piece.map Part.letter) = 0 := by
  rw [places, List.count_eq_zero]
  simp

theorem places_partsOf (pieces : List (List Char)) :
    places (partsOf pieces) = pieces.length - 1 := by
  induction pieces with
  | nil =>
      rfl
  | cons piece rest inductionHypothesis =>
      cases rest with
      | nil =>
          exact places_map_letter piece
      | cons second others =>
          have letters := places_map_letter piece
          simp only [places] at letters inductionHypothesis
          simp only [places, partsOf_cons_cons, List.count_append, List.count_cons_self, letters,
            inductionHypothesis, List.length_cons]
          omega

theorem fill?_map_letter (piece : List Char) (parts : List Part) (values : List (List Char)) :
    fill? (piece.map Part.letter ++ parts) values = (fill? parts values).map (piece ++ ·) := by
  induction piece with
  | nil =>
      simp
  | cons letter others inductionHypothesis =>
      rw [List.map_cons, List.cons_append, fill?, inductionHypothesis, Option.map_map]
      rfl

theorem fill?_partsOf
    (pieces : List (List Char)) (nonempty : pieces ≠ []) (values : List (List Char)) :
    fill? (partsOf pieces) values =
      if values.length = pieces.length - 1 then some (Template.interleave pieces values)
      else none := by
  induction pieces generalizing values with
  | nil =>
      exact absurd rfl nonempty
  | cons piece rest inductionHypothesis =>
      cases rest with
      | nil =>
          have alone := fill?_map_letter piece [] values
          rw [List.append_nil] at alone
          rw [partsOf, alone]
          cases values with
          | nil =>
              simp [fill?, Template.interleave]
          | cons value others =>
              simp [fill?]
      | cons second others =>
          rw [partsOf_cons_cons, fill?_map_letter]
          cases values with
          | nil =>
              simp [fill?]
          | cons value more =>
              rw [fill?, inductionHypothesis (by simp) more]
              by_cases enough : more.length = others.length
              · simp [enough, Template.interleave]
              · simp [enough]

/-- Filling a template's format string is filling the template. -/
theorem fill?_ofTemplate (template : List Char) (values : List (List Char)) :
    fill? (partsOf (Template.pieces template)) values = Template.fill? template values :=
  fill?_partsOf _ (Template.pieces_ne_nil template) values

/-! ## Format strings and rendered displays -/

theorem places_ofTemplate (template : List Char) :
    places (partsOf (Template.pieces template)) = Template.arity template :=
  places_partsOf (Template.pieces template)

/-- The literal of a template's format string is read as a format string whatever source follows.
It parses, with a place for each value that rendering the template asks for: another number of
values is refused when rendering.  Otherwise what it writes for the values is the rendered text. -/
theorem quote_renders (template : String) :
    ∃ format parts,
      (∀ after, Literal.read? ((quote template).toList ++ after) = some (format, after)) ∧
        parse? format = some parts ∧
        ∀ values : List String,
          (∀ fault, (Display.template template).render values = .error fault ↔
            values.length ≠ places parts ∧ fault = ⟨template, places parts, values.length⟩) ∧
          ∀ text, (Display.template template).render values = .ok text ↔
            fill? parts (values.map String.toList) = some text.toList := by
  refine ⟨ofTemplate template.toList, partsOf (Template.pieces template.toList), ?_,
    parse?_ofTemplate template.toList, ?_⟩
  · intro after
    rw [quote, String.toList_ofList]
    exact Literal.read?_quoteWord (ofTemplate template.toList) after
  · intro values
    constructor
    · intro fault
      rw [places_ofTemplate]
      exact Display.render_template_eq_error_iff template values fault
    · intro text
      rw [fill?_ofTemplate]
      exact Display.render_template_eq_ok_iff template values text

/-- Braces that touch a placeholder are written, and the placeholder stays. -/
example : parse? (ofTemplate ['\x7b', '\x7b', '\x7d', '\x7d']) =
    some [.letter '\x7b', .argument, .letter '\x7d'] := by
  decide

end ErrorDerive.Rust.FormatString
