/-!
# Cursors

A place in a YAML text: the letters that follow it, and its index, line and column. The classes of
characters that the reader asks about stand here too.
-/

namespace ErrorDerive.Yaml

/-- Whether a character ends a line. -/
def isBreak (letter : Char) : Bool :=
  letter = '\n' || letter = '\r' || letter.toNat = 0x85 || letter.toNat = 0x2028 ||
    letter.toNat = 0x2029

/-- Whether a word ends before a character, or before the end of the text. -/
def endsWord : Option Char → Bool
  | none => true
  | some letter => letter = ' ' || letter = '\t' || isBreak letter

/-- Whether a blank that is no tab, a line break or the end of the text comes next. -/
def endsField : Option Char → Bool
  | none => true
  | some letter => letter = ' ' || isBreak letter

/-- Whether the line ends before a character. -/
def endsLine : Option Char → Bool
  | none => true
  | some letter => isBreak letter

/-- Whether a character may stand in a YAML text. -/
def isAllowed (letter : Char) : Bool :=
  let code := letter.toNat
  code = 9 || code = 10 || code = 13 || (0x20 ≤ code && code ≤ 0x7E) || code = 0x85 ||
    (0xA0 ≤ code && code ≤ 0xFFFD) || 0x10000 ≤ code

/-- Whether a character may stand in the name of an anchor or a directive. -/
def isNameLetter (letter : Char) : Bool :=
  ('0' ≤ letter && letter ≤ '9') || ('A' ≤ letter && letter ≤ 'Z') ||
    ('a' ≤ letter && letter ≤ 'z') || letter = '-' || letter = '_'

/-- The mark that may stand at the very start of a text and has no width. -/
def byteOrderMark : Char := Char.ofNat 0xFEFF

/-- A place in a text, with the length of the whole text. -/
structure Cursor where
  rest : List Char
  textLength : Nat
  index : Nat := 0
  line : Nat := 0
  column : Nat := 0
  deriving Inhabited

namespace Cursor

def start (text : List Char) : Cursor :=
  { rest := text, textLength := text.length }

/-- How many rounds suffice for a loop that consumes a letter in each: no more letters can follow
than the text has. -/
def rounds (cursor : Cursor) : Nat := cursor.textLength + 1

/-- The next letter. -/
def peek? (cursor : Cursor) : Option Char := cursor.rest.head?

/-- The letter after the given number of letters. -/
def peekAt? (cursor : Cursor) (distance : Nat) : Option Char := cursor.rest[distance]?

/-- The next letter is a given one. -/
def isAt (cursor : Cursor) (letter : Char) : Bool := cursor.peek? == some letter

def next (cursor : Cursor) : Cursor :=
  match cursor.rest with
  | [] => cursor
  | letter :: rest =>
    let breaks := isBreak letter && !(letter = '\r' && rest.head? == some '\n')
    { cursor with
      rest := rest
      index := cursor.index + 1
      line := if breaks then cursor.line + 1 else cursor.line
      column :=
        if breaks then 0 else if letter = byteOrderMark then cursor.column else cursor.column + 1 }

def skip : Nat → Cursor → Cursor
  | 0, cursor => cursor
  | count + 1, cursor => skip count cursor.next

/-- The longest run of letters that satisfy a test, and the place after it. -/
def takeRun (cursor : Cursor) (test : Char → Bool) : List Char × Cursor :=
  let run := cursor.rest.takeWhile test
  (run, cursor.skip run.length)

/-- The place after a run of letters that satisfy a test. -/
def dropRun (cursor : Cursor) (test : Char → Bool) : Cursor :=
  (cursor.takeRun test).2

def dropBlanks (cursor : Cursor) : Cursor := cursor.dropRun (· = ' ')

/-- The place at the end of the line. -/
def dropLine (cursor : Cursor) : Cursor := cursor.dropRun (!isBreak ·)

/-- The line break that comes next, in its normal form, and the place after it. -/
def takeBreak? (cursor : Cursor) : Option (Char × Cursor) :=
  match cursor.rest with
  | '\r' :: '\n' :: _ => some ('\n', cursor.skip 2)
  | letter :: _ =>
    if !isBreak letter then none
    else if letter = '\r' || letter.toNat = 0x85 then some ('\n', cursor.next)
    else some (letter, cursor.next)
  | [] => none

/-- Whether a given mark of three letters comes next as a word of its own. -/
def isAtMark (cursor : Cursor) (mark : Char) : Bool :=
  cursor.rest.take 3 == [mark, mark, mark] && endsWord (cursor.peekAt? 3)

/-- Whether a mark between documents comes next. -/
def isAtDocumentMark (cursor : Cursor) : Bool :=
  cursor.isAtMark '-' || cursor.isAtMark '.'

end Cursor

end ErrorDerive.Yaml
