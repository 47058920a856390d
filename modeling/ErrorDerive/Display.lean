/-!
# Display texts

What the display of a variant writes: a fixed text, or a template in which each placeholder `{}`
takes the text of one field.

* `Template.pieces` are the parts of a template between its placeholders;
* `Template.fill` puts texts between the pieces;
* `Display.render` is the displayed text for given field texts.
-/

namespace ErrorDerive

/-- What the display of a variant writes. -/
inductive Display where
  /-- The text itself; the fields are ignored. -/
  | literal (text : String)
  /-- The text with its placeholders filled in field order. -/
  | template (text : String)
  deriving DecidableEq, Repr, Inhabited

namespace Template

/-- The parts of a template between its placeholders, always at least one. -/
def pieces : List Char → List (List Char)
  | [] => [[]]
  | '\x7b' :: '\x7d' :: rest => [] :: pieces rest
  | letter :: rest => (pieces rest).modifyHead (letter :: ·)

/-- Pieces with a text after each but the last. -/
def interleave : List (List Char) → List (List Char) → List Char
  | piece :: rest, value :: values => piece ++ value ++ interleave rest values
  | pieces, _ => pieces.flatten

/-- The number of placeholders of a template. -/
def arity (template : List Char) : Nat :=
  (pieces template).length - 1

/-- A template with its placeholders filled, if there are as many values as placeholders. -/
def fill? (template : List Char) (values : List (List Char)) : Option (List Char) :=
  if values.length = arity template then some (interleave (pieces template) values) else none

theorem pieces_ne_nil (template : List Char) : pieces template ≠ [] := by
  fun_induction pieces template with
  | case1 => simp
  | case2 rest inductionHypothesis => simp
  | case3 letter rest different inductionHypothesis => simpa using inductionHypothesis

end Template

/-- A template that was given another number of values than it has placeholders. -/
structure ArityFault where
  template : String
  expected : Nat
  given : Nat
  deriving DecidableEq, Repr, Inhabited

def ArityFault.message (fault : ArityFault) : String :=
  "Template '" ++ fault.template ++ "' expects " ++ toString fault.expected ++ " values, got " ++
    toString fault.given

namespace Display

/-- The text of a display, whether fixed or a template. -/
def text : Display → String
  | literal text => text
  | template text => text

def kind : Display → String
  | literal _ => "literal"
  | template _ => "template"

/-- The displayed text for the texts of the fields. -/
def render (display : Display) (values : List String) : Except ArityFault String :=
  match display with
  | literal text => .ok text
  | template text =>
    match Template.fill? text.toList (values.map String.toList) with
    | some filled => .ok (String.ofList filled)
    | none => .error ⟨text, Template.arity text.toList, values.length⟩

end Display

end ErrorDerive
