import ErrorDerive.Display
import ErrorDerive.Rust.Literal

/-!
# Rust format strings

* `FormatString.ofTemplate` writes a template as a format string: its placeholders stay, and every
  other brace is doubled;
* `FormatString.parse?` reads a format string by Rust's rules, as far as positional placeholders
  go, and `FormatString.fill?` gives the text that is written for given arguments.
-/

namespace ErrorDerive.Rust.FormatString

/-- Doubles a brace and keeps any other letter. -/
def doubleBrace (letter : Char) : List Char :=
  if letter = '\x7b' || letter = '\x7d' then [letter, letter] else [letter]

/-- A template as a format string. -/
def ofTemplate (template : List Char) : List Char :=
  placeholder.intercalate ((Template.pieces template).map (List.flatMap doubleBrace))
where
  /-- The placeholder of a format string. -/
  placeholder : List Char := ['\x7b', '\x7d']

/-- A template as a literal that holds its format string. -/
def quote (template : String) : String :=
  String.ofList (quoteWord (ofTemplate template.toList))

/-- A part of a format string: a letter to write, or the place of the next argument. -/
inductive Part where
  | letter (letter : Char)
  | argument
  deriving DecidableEq, Repr, Inhabited

/-- The parts of a format string. A brace must be doubled or belong to a placeholder. -/
def parse? : List Char → Option (List Part)
  | [] => some []
  | '\x7b' :: '\x7b' :: rest => (parse? rest).map (.letter '\x7b' :: ·)
  | '\x7d' :: '\x7d' :: rest => (parse? rest).map (.letter '\x7d' :: ·)
  | '\x7b' :: '\x7d' :: rest => (parse? rest).map (.argument :: ·)
  | letter :: rest =>
    if letter = '\x7b' || letter = '\x7d' then none else (parse? rest).map (.letter letter :: ·)

/-- The text that parts write, if there are exactly as many arguments as places for them. -/
def fill? : List Part → List (List Char) → Option (List Char)
  | [], [] => some []
  | .letter letter :: parts, arguments => (fill? parts arguments).map (letter :: ·)
  | .argument :: parts, argument :: arguments => (fill? parts arguments).map (argument ++ ·)
  | _, _ => none

end ErrorDerive.Rust.FormatString
