import ErrorDerive.Number.Numeral
import ErrorDerive.Text.Utf8
import ErrorDerive.Yaml.Cursor
import ErrorDerive.Yaml.Token

/-!
# Scalars, tags and directives

Reading the tokens that carry text. Every function starts at a cursor and returns what it read
with the cursor after it. Loops count down from the number of letters of the text, since each round
consumes at least one. Letters that are collected on the way stand in reverse order.

* `scanPlain`, `scanQuoted` and `scanBlock` read the three styles of scalars;
* `scanName`, `scanTag` and `scanDirective` read the other tokens with text.
-/

namespace ErrorDerive.Yaml

/-- A fallback for loops that have run out of rounds, which does not happen. -/
private def exhausted {α : Type} : Except Fault α := .error .malformed

/-! ## Plain scalars -/

/-- The letters of a plain scalar up to a blank or a mark that ends it. -/
def plainRun (inFlow : Bool) : List Char → List Char
  | [] => []
  | letter :: rest =>
    let isMark (other : Char) : Bool := [',', '[', ']', '\x7b', '\x7d'].contains other
    if endsWord (some letter) then []
    else if letter = ':' && (endsWord rest.head? || (inFlow && rest.head?.any isMark)) then []
    else if inFlow && (letter = '?' || isMark letter) then []
    else letter :: plainRun inFlow rest

/-- The gap that a line break inside a plain scalar leaves: the first break counts as a blank,
unless it is a separator of lines or paragraphs. -/
def foldBreaks (first : Char) (later : List Char) : List Char :=
  if first ≠ '\n' then first :: later else if later.isEmpty then [' '] else later

/-- Empty lines inside a plain scalar; `none` where a mark between documents follows one. -/
def plainBreaks : Nat → Cursor → List Char → Option (List Char) × Cursor
  | 0, cursor, seen => (some seen.reverse, cursor)
  | rounds + 1, cursor, seen =>
    if cursor.isAt ' ' then plainBreaks rounds cursor.next seen
    else match cursor.takeBreak? with
      | some (letter, after) =>
        if after.isAtDocumentMark then (none, after)
        else plainBreaks rounds after (letter :: seen)
      | none => (some seen.reverse, cursor)

/-- A gap inside a plain scalar. -/
structure PlainGap where
  /-- What the gap leaves between the words; nothing ends the scalar. -/
  letters : List Char
  after : Cursor
  crossesLine : Bool

/-- The gap after a word of a plain scalar. -/
def plainGap (cursor : Cursor) : PlainGap :=
  let (blanks, afterBlanks) := cursor.takeRun (· = ' ')
  match afterBlanks.takeBreak? with
  | none => ⟨blanks, afterBlanks, false⟩
  | some (first, after) =>
    if after.isAtDocumentMark then ⟨[], after, true⟩
    else match plainBreaks after.rounds after [] with
      | (some later, afterBreaks) => ⟨foldBreaks first later, afterBreaks, true⟩
      | (none, afterBreaks) => ⟨[], afterBreaks, true⟩

/-- The rest of a plain scalar: its letters in reverse order, the place after it, and whether a line
was crossed after its last word. -/
def plainWords (inFlow : Bool) (indent : Int) :
    Nat → Cursor → List Char → List Char → Bool → List Char × Cursor × Bool
  | 0, cursor, seen, _, crossed => (seen, cursor, crossed)
  | rounds + 1, cursor, seen, gap, crossed =>
    let run := plainRun inFlow cursor.rest
    if cursor.isAt '#' || run.isEmpty then (seen, cursor, crossed)
    else
      let next := plainGap (cursor.skip run.length)
      let extended := run.reverse ++ (gap.reverse ++ seen)
      if next.letters.isEmpty || next.after.isAt '#' ||
          (!inFlow && (next.after.column : Int) < indent) then
        (extended, next.after, next.crossesLine)
      else plainWords inFlow indent rounds next.after extended next.letters next.crossesLine

/-- A plain scalar, whose lines after the first are indented at least as given. -/
def scanPlain (inFlow : Bool) (indent : Int) (cursor : Cursor) : String × Cursor × Bool :=
  let (letters, after, crossed) :=
    plainWords inFlow indent cursor.rounds cursor [] [] false
  (String.ofList letters.reverse, after, crossed)

/-! ## Quoted scalars -/

/-- Empty lines inside a quoted scalar and the blanks before its next word. -/
def quotedBreaks : Nat → Cursor → List Char → Except Fault (List Char × Cursor)
  | 0, _, _ => exhausted
  | rounds + 1, cursor, seen =>
    if cursor.isAtDocumentMark then .error .malformed
    else
      let atWord := cursor.dropRun fun letter => letter = ' ' || letter = '\t'
      match atWord.takeBreak? with
      | some (letter, after) => quotedBreaks rounds after (letter :: seen)
      | none => .ok (seen.reverse, atWord)

/-- The gap between two words of a quoted scalar. -/
def quotedGap (cursor : Cursor) : Except Fault (List Char × Cursor) :=
  let (blanks, afterBlanks) := cursor.takeRun fun letter => letter = ' ' || letter = '\t'
  match afterBlanks.takeBreak? with
  | none =>
    if afterBlanks.rest.isEmpty then .error .malformed else .ok (blanks, afterBlanks)
  | some (first, after) => do
    let (later, afterBreaks) ← quotedBreaks after.rounds after []
    return (foldBreaks first later, afterBreaks)

/-- The character that a letter after a backslash stands for. -/
def escapedCharacter? (letter : Char) : Option Char :=
  let table : List (Char × Nat) := [('0', 0), ('a', 7), ('b', 8), ('t', 9), ('\t', 9), ('n', 10),
    ('v', 11), ('f', 12), ('r', 13), ('e', 27), (' ', 32), ('"', 34), ('\\', 92), ('/', 47),
    ('N', 0x85), ('_', 0xA0), ('L', 0x2028), ('P', 0x2029)]
  (table.lookup letter).map Char.ofNat

/-- The number of hexadecimal digits after a letter that begins a numbered escape. -/
def codeWidth? (letter : Char) : Option Nat :=
  [('x', 2), ('u', 4), ('U', 8)].lookup letter

/-- What a numbered escape stands for. It may be a surrogate. -/
def numberedLetters (digits : List Char) : Except Fault (List Char) :=
  match Numeral.digitsIn? 16 digits with
  | none => .error .malformed
  | some code =>
    if code < 0x110000 then .ok (Text.kept code)
    else if code < 0x80000000 then .error (.broken .impossibleValue)
    else .error (.broken .oversizedNumber)

/-- What a numbered escape stands for, whose code has the given width. -/
def scanNumbered (width : Nat) (cursor : Cursor) : Except Fault (List Char × Cursor) :=
  let digits := cursor.rest.tail.take width
  if digits.length < width || !digits.all Numeral.isHexDigit then .error .malformed
  else do
    let letters ← numberedLetters digits
    return (letters, cursor.skip (width + 1))

/-- What an escape stands for, after its backslash. -/
def scanEscape (cursor : Cursor) : Except Fault (List Char × Cursor) :=
  match cursor.peek? with
  | none => .error .malformed
  | some letter =>
    match escapedCharacter? letter, codeWidth? letter with
    | some character, _ => .ok ([character], cursor.next)
    | none, some width => scanNumbered width cursor
    | none, none =>
      match cursor.takeBreak? with
      | some (_, after) => quotedBreaks after.rounds after []
      | none => .error .malformed

/-- The rest of a quoted scalar after its opening quote; the letters seen are in reverse order. -/
def quotedRest (isDouble : Bool) : Nat → Cursor → List Char → Except Fault (List Char × Cursor)
  | 0, _, _ => exhausted
  | rounds + 1, cursor, seen =>
    let quote := if isDouble then '"' else '\''
    match cursor.rest with
    | [] => .error .malformed
    | letter :: rest =>
      if letter = quote then
        if !isDouble && rest.head? == some '\'' then
          quotedRest isDouble rounds (cursor.skip 2) ('\'' :: seen)
        else .ok (seen.reverse, cursor.next)
      else if isDouble && letter = '\\' then do
        let (letters, after) ← scanEscape cursor.next
        quotedRest isDouble rounds after (letters.reverse ++ seen)
      else if endsWord (some letter) then do
        let (letters, after) ← quotedGap cursor
        quotedRest isDouble rounds after (letters.reverse ++ seen)
      else quotedRest isDouble rounds cursor.next (letter :: seen)

def scanQuoted (isDouble : Bool) (cursor : Cursor) : Except Fault (String × Cursor) := do
  let (letters, after) ← quotedRest isDouble cursor.rounds cursor.next []
  return (String.ofList letters, after)

/-! ## Block scalars -/

/-- What becomes of the line breaks at the end of a block scalar. -/
inductive Chomping where
  | strip
  | clip
  | keep
  deriving DecidableEq, Repr, Inhabited

/-- The sign that chooses a chomping. -/
def chomping? : Option Char → Option Chomping
  | some '+' => some .keep
  | some '-' => some .strip
  | _ => none

/-- The head of a block scalar: its chomping and its indentation, in either order. -/
def scanBlockHead (cursor : Cursor) : Except Fault ((Chomping × Option Nat) × Cursor) := do
  let digit? (place : Cursor) : Option Nat :=
    (place.peek?.filter Numeral.isDigit).bind Numeral.digitValue?
  let (chomping?, afterSign) := match chomping? cursor.peek? with
    | some chomping => (some chomping, cursor.next)
    | none => (none, cursor)
  let (indent?, afterDigit) := match digit? afterSign with
    | some digit => (some digit, afterSign.next)
    | none => (none, afterSign)
  let (chomping, after) := match chomping?, indent? with
    | some chomping, _ => (chomping, afterDigit)
    | none, none => (.clip, afterDigit)
    | none, some _ =>
      match Yaml.chomping? afterDigit.peek? with
      | some chomping => (chomping, afterDigit.next)
      | none => (.clip, afterDigit)
  if indent? == some 0 || !endsField after.peek? then throw .malformed
  let afterBlanks := after.dropBlanks
  let atEnd := if afterBlanks.isAt '#' then afterBlanks.dropLine else afterBlanks
  if !endsLine atEnd.peek? then throw .malformed
  return ((chomping, indent?), (atEnd.takeBreak?.map Prod.snd).getD atEnd)

/-- The line breaks before the first line of a block scalar, and the deepest column reached by
blanks on the way. -/
def blockIndentation : Nat → Cursor → List Char → Nat → List Char × Nat × Cursor
  | 0, cursor, seen, deepest => (seen.reverse, deepest, cursor)
  | rounds + 1, cursor, seen, deepest =>
    if cursor.isAt ' ' then
      blockIndentation rounds cursor.next seen (max deepest cursor.next.column)
    else match cursor.takeBreak? with
      | some (letter, after) => blockIndentation rounds after (letter :: seen) deepest
      | none => (seen.reverse, deepest, cursor)

/-- The place after the blanks that come next, but no further than a column. -/
def dropIndent (indent : Nat) (cursor : Cursor) : Cursor :=
  cursor.skip ((cursor.rest.takeWhile (· = ' ')).length.min (indent - cursor.column))

/-- The line breaks between two lines of a block scalar. -/
def blockBreaks (indent : Nat) : Nat → Cursor → List Char → List Char × Cursor
  | 0, cursor, seen => (seen.reverse, cursor)
  | rounds + 1, cursor, seen =>
    match cursor.takeBreak? with
    | some (letter, after) => blockBreaks indent rounds (dropIndent indent after) (letter :: seen)
    | none => (seen.reverse, cursor)

/-- Whether a blank or tab comes next. -/
def isAtSpace (cursor : Cursor) : Bool :=
  cursor.isAt ' ' || cursor.isAt '\t'

/-- The lines of a block scalar: its letters in reverse order, the last line break, and the breaks
after it. -/
def blockLines (folded : Bool) (indent : Nat) :
    Nat → Cursor → List Char → List Char → List Char →
      List Char × List Char × List Char × Cursor
  | 0, cursor, seen, lineBreak, breaks => (seen, lineBreak, breaks, cursor)
  | rounds + 1, cursor, seen, lineBreak, breaks =>
    if cursor.column ≠ indent || cursor.rest.isEmpty then (seen, lineBreak, breaks, cursor)
    else
      let startsWithSpace := isAtSpace cursor
      let (line, atEnd) := cursor.takeRun (!isBreak ·)
      let (thisBreak, afterBreak) := match atEnd.takeBreak? with
        | some (letter, after) => ([letter], after)
        | none => ([], atEnd)
      let (laterBreaks, after) :=
        blockBreaks indent afterBreak.rounds (dropIndent indent afterBreak) []
      let extended := line.reverse ++ (breaks.reverse ++ seen)
      if after.column ≠ indent || after.rest.isEmpty then
        (extended, thisBreak, laterBreaks, after)
      else
        let joint :=
          if folded && thisBreak == ['\n'] && !startsWithSpace && !isAtSpace after then
            if laterBreaks.isEmpty then [' '] else []
          else thisBreak
        blockLines folded indent rounds after (joint ++ extended) thisBreak laterBreaks

/-- A block scalar inside a block of the given indentation. -/
def scanBlock (folded : Bool) (outer : Int) (cursor : Cursor) : Except Fault (String × Cursor) := do
  let ((chomping, indent?), body) ← scanBlockHead cursor.next
  let least := (max (outer + 1) 1).toNat
  let rounds := body.rounds
  let (breaks, indent, start) := match indent? with
    | some increment =>
      let indent := least + increment - 1
      let (breaks, start) := blockBreaks indent rounds (dropIndent indent body) []
      (breaks, indent, start)
    | none =>
      let (breaks, deepest, start) := blockIndentation rounds body [] 0
      (breaks, max least deepest, start)
  let (letters, lineBreak, trailing, after) := blockLines folded indent rounds start [] [] breaks
  let tail := match chomping with
    | .strip => []
    | .clip => lineBreak
    | .keep => lineBreak ++ trailing
  return (String.ofList (letters.reverse ++ tail), after)

/-! ## Names, tags and directives -/

/-- Whether a character may follow the name of an anchor. -/
def endsName (next? : Option Char) : Bool :=
  endsWord next? || next?.any fun letter =>
    ['?', ':', ',', ']', '\x7d', '%', '@', '`'].contains letter

/-- The name of an anchor or alias after its mark. -/
def scanName (cursor : Cursor) : Except Fault (String × Cursor) :=
  let (name, after) := cursor.next.takeRun isNameLetter
  if name.isEmpty || !endsName after.peek? then .error .malformed
  else .ok (String.ofList name, after)

/-- The bytes of a row of escapes made of a percent sign and two digits. -/
def uriBytes : Nat → Cursor → List UInt8 → Except Fault (List UInt8 × Cursor)
  | 0, _, _ => exhausted
  | rounds + 1, cursor, seen =>
    match cursor.rest with
    | '%' :: high :: low :: _ =>
      match Numeral.digitsIn? 16 [high, low] with
      | some code => uriBytes rounds (cursor.skip 3) (UInt8.ofNat code :: seen)
      | none => .error .malformed
    | '%' :: _ => .error .malformed
    | _ => .ok (seen.reverse, cursor)

/-- Whether a character may stand in the address that names a tag. -/
def isUriLetter (letter : Char) : Bool :=
  isNameLetter letter || "-;/?:@&=+$,_.!~*'()[]".toList.contains letter

/-- The address that names a tag, at least one character long. -/
def scanUri : Nat → Cursor → List Char → Except Fault (List Char × Cursor)
  | 0, _, _ => exhausted
  | rounds + 1, cursor, seen =>
    match cursor.rest with
    | [] => if seen.isEmpty then .error .malformed else .ok (seen.reverse, cursor)
    | letter :: _ =>
      if letter = '%' then do
        let (bytes, after) ← uriBytes cursor.rounds cursor []
        match Text.decode? bytes with
        | some text => scanUri rounds after (text.toList.reverse ++ seen)
        | none => throw .malformed
      else if isUriLetter letter then scanUri rounds cursor.next (letter :: seen)
      else if seen.isEmpty then .error .malformed
      else .ok (seen.reverse, cursor)

def scanAddress (cursor : Cursor) : Except Fault (String × Cursor) := do
  let (letters, after) ← scanUri cursor.rounds cursor []
  return (String.ofList letters, after)

/-- The handle of a tag: an exclamation mark, or a name between two of them. -/
def scanHandle (cursor : Cursor) : Except Fault (String × Cursor) :=
  match cursor.rest with
  | '!' :: ' ' :: _ => .ok ("!", cursor.next)
  | '!' :: rest =>
    let name := rest.takeWhile isNameLetter
    match rest.drop name.length with
    | '!' :: _ => .ok (String.ofList ('!' :: (name ++ ['!'])), cursor.skip (name.length + 2))
    | _ => .error .malformed
  | _ => .error .malformed

/-- A tag: its handle, if it has one, and what follows the handle. -/
def scanTag (cursor : Cursor) : Except Fault ((Option String × String) × Cursor) := do
  let ((handle, suffix), after) ← match cursor.peekAt? 1 with
    | some '<' => do
      let (suffix, after) ← scanAddress (cursor.skip 2)
      if !after.isAt '>' then throw .malformed
      pure ((none, suffix), after.next)
    | next? =>
      if endsWord next? then pure ((none, "!"), cursor.next)
      else do
        let word := cursor.rest.tail.takeWhile fun letter => !endsField (some letter)
        let (handle, afterHandle) ←
          if word.contains '!' then scanHandle cursor else pure ("!", cursor.next)
        let (suffix, after) ← scanAddress afterHandle
        pure ((some handle, suffix), after)
  if !endsField after.peek? then throw .malformed
  return ((handle, suffix), after)

/-- A number of a version. -/
def scanVersionNumber (cursor : Cursor) : Except Fault (Nat × Cursor) :=
  let (digits, after) := cursor.takeRun Numeral.isDigit
  if Numeral.longestDecimal < digits.length then .error (.broken .impossibleValue)
  else match Numeral.digitsIn? 10 digits with
    | some number => .ok (number, after)
    | none => .error .malformed

/-- What a directive of a known name sets. -/
def scanDirectiveValue (name : List Char) (cursor : Cursor) : Except Fault (Directive × Cursor) :=
  if name = "YAML".toList then do
    let (major, afterMajor) ← scanVersionNumber cursor.dropBlanks
    if !afterMajor.isAt '.' then throw .malformed
    let (_, after) ← scanVersionNumber afterMajor.next
    if !endsField after.peek? then throw .malformed
    return (.version major, after)
  else if name = "TAG".toList then do
    let (handle, afterHandle) ← scanHandle cursor.dropBlanks
    if !afterHandle.isAt ' ' then throw .malformed
    let (meaning, after) ← scanAddress afterHandle.dropBlanks
    if !endsField after.peek? then throw .malformed
    return (.tagHandle handle meaning, after)
  else .ok (.unknown, cursor.dropLine)

def scanDirective (cursor : Cursor) : Except Fault (Directive × Cursor) := do
  let (name, afterName) := cursor.next.takeRun isNameLetter
  if name.isEmpty || !endsField afterName.peek? then throw .malformed
  let (directive, afterValue) ← scanDirectiveValue name afterName
  let afterBlanks := afterValue.dropBlanks
  let atEnd := if afterBlanks.isAt '#' then afterBlanks.dropLine else afterBlanks
  if !endsLine atEnd.peek? then throw .malformed
  return (directive, (atEnd.takeBreak?.map Prod.snd).getD atEnd)

end ErrorDerive.Yaml
