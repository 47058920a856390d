import ErrorDerive.Number.Numeral

/-!
# Rust string literals

* `quote` writes a text as a literal: backslash, double quote and control characters are escaped;
* `Literal.read?` reads a literal at the front of a source text, by Rust's escapes, and returns the
  text it stands for together with what follows it.
-/

namespace ErrorDerive.Rust

/-- How one character stands in a literal. -/
def escapedLetter (letter : Char) : List Char :=
  if letter = '\\' then ['\\', '\\']
  else if letter = '"' then ['\\', '"']
  else if letter = '\n' then ['\\', 'n']
  else if letter = '\r' then ['\\', 'r']
  else if letter = '\t' then ['\\', 't']
  else if letter.toNat < 0x20 || letter.toNat = 0x7F then
    '\\' :: 'u' :: '\x7b' :: (Nat.toDigits 16 letter.toNat ++ ['\x7d'])
  else [letter]

def quoteWord (word : List Char) : List Char :=
  '"' :: (word.flatMap escapedLetter ++ ['"'])

def quote (text : String) : String :=
  String.ofList (quoteWord text.toList)

namespace Literal

/-- Where a reader stands inside a literal: between characters, perhaps among the blanks after an
escaped line feed, or among the digits of a code point, with their value and number so far. -/
inductive Place where
  | between (afterBreak : Bool)
  | inCode (value digits : Nat)

/-- The character of a code point, if there is one. -/
def characterOf? (code : Nat) : Option Char :=
  if code < 0xD800 || (0xE000 ≤ code && code < 0x110000) then some (Char.ofNat code) else none

/-- The character that a single letter after a backslash stands for. -/
def simpleEscape? (letter : Char) : Option Char :=
  if letter = 'n' then some '\n'
  else if letter = 'r' then some '\r'
  else if letter = 't' then some '\t'
  else if letter = '0' then some (Char.ofNat 0)
  else if letter = '\\' || letter = '"' || letter = '\'' then some letter
  else none

/-- Puts a character in front of the text that was read. -/
def prepend (letter : Char) (read? : Option (List Char × List Char)) :
    Option (List Char × List Char) :=
  read?.map fun (text, after) => (letter :: text, after)

/-- Whether a letter is dropped after an escaped line feed. -/
def isSkipped (letter : Char) : Bool :=
  letter = ' ' || letter = '\t' || letter = '\n' || letter = '\r'

/-- Reads the rest of a literal: the text up to the closing quote, and what follows the quote. -/
def readRest? : Place → List Char → Option (List Char × List Char)
  | _, [] => none
  | .between _, '"' :: rest => some ([], rest)
  | .between _, '\\' :: 'u' :: '\x7b' :: rest => readRest? (.inCode 0 0) rest
  | .between _, '\\' :: 'x' :: high :: low :: rest =>
    match Numeral.digitValue? high, Numeral.digitValue? low with
    | some highValue, some lowValue =>
      if highValue < 8 then
        prepend (Char.ofNat (highValue * 16 + lowValue)) (readRest? (.between false) rest)
      else none
    | _, _ => none
  | .between _, '\\' :: '\n' :: rest => readRest? (.between true) rest
  | .between _, '\\' :: letter :: rest =>
    match simpleEscape? letter with
    | some escaped => prepend escaped (readRest? (.between false) rest)
    | none => none
  | .between afterBreak, letter :: rest =>
    if afterBreak && isSkipped letter then readRest? (.between true) rest
    else if letter = '\\' || letter = '\r' then none
    else prepend letter (readRest? (.between false) rest)
  | .inCode value digits, letter :: rest =>
    if letter = '\x7d' then
      match digits, characterOf? value with
      | _ + 1, some read => prepend read (readRest? (.between false) rest)
      | _, _ => none
    else if letter = '_' && 0 < digits then readRest? (.inCode value digits) rest
    else match Numeral.digitValue? letter with
      | some digit =>
        if digits < 6 then readRest? (.inCode (value * 16 + digit) (digits + 1)) rest else none
      | none => none

/-- Reads the literal at the front of a source text. -/
def read? : List Char → Option (List Char × List Char)
  | '"' :: rest => readRest? (.between false) rest
  | _ => none

end Literal

end ErrorDerive.Rust
