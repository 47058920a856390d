/-!
# Styling sequences

Terminals take certain sequences of characters as orders to change the style of what follows. They
have no place in an output that is not shown on a terminal.
-/

namespace ErrorDerive.Text

/-- The character that begins a styling sequence. -/
def escapeLetter : Char := Char.ofNat 0x1B

/-- Whether a character may be a parameter of a styling sequence. -/
def isStyleParameter (letter : Char) : Bool :=
  letter = ';' || letter = '?' || letter.isDigit

/-- The number of letters up to and with the one that ends a styling sequence, counted after its
opening. -/
def styleEnd? : List Char → Option Nat
  | [] => none
  | letter :: rest =>
    if isStyleParameter letter then (styleEnd? rest).map (· + 1)
    else if letter.isAlpha then some 1 else none

/-- The number of letters after the first of the styling sequence that a word begins with. -/
def styleLength? : List Char → Option Nat
  | first :: '[' :: rest => if first = escapeLetter then (styleEnd? rest).map (· + 1) else none
  | _ => none

/-- Drops the styling sequences of a word after skipping the given number of letters. -/
private def plainFrom : Nat → List Char → List Char
  | _, [] => []
  | skipped + 1, _ :: rest => plainFrom skipped rest
  | 0, letter :: rest =>
    match styleLength? (letter :: rest) with
    | some length => plainFrom length rest
    | none => letter :: plainFrom 0 rest

/-- A text without styling sequences. -/
def withoutStyling (text : String) : String :=
  String.ofList (plainFrom 0 text.toList)

private theorem plainFrom_append_of_absent {word : List Char} (absent : escapeLetter ∉ word)
    (rest : List Char) : plainFrom 0 (word ++ rest) = word ++ plainFrom 0 rest := by
  induction word with
  | nil => rfl
  | cons letter others inductionHypothesis =>
    simp only [List.mem_cons, not_or] at absent
    have noStyle : styleLength? (letter :: (others ++ rest)) = none := by
      unfold styleLength?
      split
      · next first after same =>
        rw [List.cons.injEq] at same
        rw [if_neg (same.1 ▸ Ne.symm absent.1)]
      · rfl
    simp only [List.cons_append, plainFrom, noStyle, inductionHypothesis absent.2]

/-- What comes before the first character that begins a styling sequence stays as it is. -/
theorem withoutStyling_append_of_absent {text : String} (absent : escapeLetter ∉ text.toList)
    (rest : String) : withoutStyling (text ++ rest) = text ++ withoutStyling rest := by
  rw [withoutStyling, String.toList_append, plainFrom_append_of_absent absent,
    String.ofList_append, String.ofList_toList, withoutStyling]

/-- A text without the character that begins a styling sequence stays as it is. -/
theorem withoutStyling_of_absent {text : String} (absent : escapeLetter ∉ text.toList) :
    withoutStyling text = text := by
  have whole := withoutStyling_append_of_absent absent ""
  rwa [show withoutStyling "" = "" from rfl, String.append_empty] at whole

end ErrorDerive.Text
