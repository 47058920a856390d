import ErrorDerive.Text.IdentifierTable

/-!
# Identifiers

An identifier is a start character followed by continue characters, both by the Unicode
properties for identifiers, with the low line as a start character too.
-/

namespace ErrorDerive.Text

/-- Whether a character may begin an identifier. -/
def startsIdentifier (letter : Char) : Bool :=
  identifierStartLow.holds letter.toNat || identifierStartBasic.holds letter.toNat ||
    identifierStartHigh.holds letter.toNat

/-- Whether a character may stand in an identifier after its first character. -/
def continuesIdentifier (letter : Char) : Bool :=
  startsIdentifier letter || identifierContinueLow.holds letter.toNat ||
    identifierContinueBasic.holds letter.toNat || identifierContinueHigh.holds letter.toNat

/-- Whether a word is an identifier. -/
def isIdentifierWord : List Char → Bool
  | [] => false
  | letter :: rest => startsIdentifier letter && rest.all continuesIdentifier

/-- Whether a text is an identifier. -/
def isIdentifier (text : String) : Bool :=
  isIdentifierWord text.toList

/-- Every character of an identifier may continue one. -/
theorem continues_of_isIdentifierWord {word : List Char} (identifier : isIdentifierWord word = true)
    {letter : Char} (member : letter ∈ word) : continuesIdentifier letter = true := by
  cases word with
  | nil => cases member
  | cons first rest =>
    simp only [isIdentifierWord, Bool.and_eq_true, List.all_eq_true] at identifier
    cases member with
    | head => simp [continuesIdentifier, identifier.1]
    | tail _ later => exact identifier.2 letter later

/-- A character that continues no identifier stands in none. -/
theorem not_mem_of_isIdentifierWord {word : List Char} (identifier : isIdentifierWord word = true)
    {mark : Char} (stops : continuesIdentifier mark = false) : mark ∉ word := by
  intro member
  have continues := continues_of_isIdentifierWord identifier member
  rw [stops] at continues
  cases continues

end ErrorDerive.Text
