import ErrorDerive.Yaml.Scalar

/-!
# Token sequences

Turning a text into tokens. Indentation opens and closes blocks, and a scalar that a colon follows
on the same line turns out to have been a key: the mark of the key is put in front of it then.

* `Layout` is the state of this: the tokens so far, the open blocks, and the places where a key
  may have begun;
* `tokens` is the whole sequence, together with the fault that cut it short, if there is one.
-/

namespace ErrorDerive.Yaml

/-- A place where a key may have begun. -/
structure PossibleKey where
  /-- The number of tokens in front of it. -/
  position : Nat
  /-- Whether nothing but a key may stand there. -/
  required : Bool
  index : Nat
  line : Nat
  column : Nat
  deriving Inhabited

/-- The state of reading tokens. -/
structure Layout where
  cursor : Cursor
  /-- The tokens so far, the last one first. -/
  tokens : List Token := []
  count : Nat := 0
  /-- The number of open brackets. -/
  flowDepth : Nat := 0
  /-- The column of the innermost block, and those of the blocks around it. -/
  indent : Int := -1
  outerIndents : List Int := []
  /-- Whether a key may begin here. -/
  keyAllowed : Bool := true
  /-- The possible keys, by the number of brackets around them. -/
  possibleKeys : List (Nat × PossibleKey) := []
  deriving Inhabited

namespace Layout

def push (layout : Layout) (token : Token) : Layout :=
  { layout with tokens := token :: layout.tokens, count := layout.count + 1 }

/-- Puts a token in front of the one at a position. -/
def insertAt (layout : Layout) (position : Nat) (token : Token) : Layout :=
  let later := layout.count - position
  { layout with
    tokens := layout.tokens.take later ++ token :: layout.tokens.drop later
    count := layout.count + 1 }

def moveTo (layout : Layout) (cursor : Cursor) : Layout :=
  { layout with cursor := cursor }

/-- Appends a token of the given width and moves past it. -/
def pushWide (layout : Layout) (token : Token) (width : Nat) : Layout :=
  (layout.push token).moveTo (layout.cursor.skip width)

/-- Says whether a key may begin next. -/
def allowKey (layout : Layout) (allowed : Bool) : Layout :=
  { layout with keyAllowed := allowed }

/-- Whether a possible key is out of reach: on an earlier line, or too far back. -/
def isStale (layout : Layout) (key : PossibleKey) : Bool :=
  key.line ≠ layout.cursor.line || 1024 < layout.cursor.index - key.index

/-- Forgets the possible keys that are out of reach; none of them may have been required. -/
def dropStaleKeys (layout : Layout) : Except Fault Layout :=
  let (stale, live) := layout.possibleKeys.partition fun entry => layout.isStale entry.2
  if stale.any fun entry => entry.2.required then .error .malformed
  else .ok { layout with possibleKeys := live }

/-- Forgets the possible key between the present brackets, which must not have been required. -/
def dropKey (layout : Layout) : Except Fault Layout :=
  let (here, elsewhere) := layout.possibleKeys.partition fun entry => entry.1 == layout.flowDepth
  if here.any fun entry => entry.2.required then .error .malformed
  else .ok { layout with possibleKeys := elsewhere }

/-- Notes that a key may begin here. -/
def noteKey (layout : Layout) : Except Fault Layout :=
  if layout.keyAllowed then do
    let cleared ← layout.dropKey
    let cursor := layout.cursor
    let required := layout.flowDepth = 0 && layout.indent = cursor.column
    let key : PossibleKey := ⟨layout.count, required, cursor.index, cursor.line, cursor.column⟩
    return { cleared with possibleKeys := (layout.flowDepth, key) :: cleared.possibleKeys }
  else .ok layout

/-- Closes blocks from the inside outwards: the column and outer columns that remain, and the
number of blocks closed. -/
def closedBlocks (column : Int) (indent : Int) : List Int → Int × List Int × Nat
  | [] => (indent, [], 0)
  | outer :: rest =>
    if column < indent then
      let (remaining, outerIndents, closed) := closedBlocks column outer rest
      (remaining, outerIndents, closed + 1)
    else (indent, outer :: rest, 0)

/-- Closes the blocks that are indented deeper than a column; between brackets none is. -/
def closeBlocks (layout : Layout) (column : Int) : Layout :=
  if layout.flowDepth ≠ 0 then layout
  else
    let (indent, outerIndents, closed) :=
      closedBlocks column layout.indent layout.outerIndents
    { layout with
      indent := indent
      outerIndents := outerIndents
      tokens := List.replicate closed .blockEnd ++ layout.tokens
      count := layout.count + closed }

/-- Opens a block at a column that is deeper than the innermost block; says whether it did. -/
def openBlock (layout : Layout) (column : Nat) : Bool × Layout :=
  if layout.indent < column then
    (true, { layout with
      indent := column
      outerIndents := layout.indent :: layout.outerIndents })
  else (false, layout)

def openBlockHere (layout : Layout) (token : Token) : Layout :=
  let (opened, inside) := layout.openBlock layout.cursor.column
  if opened then inside.push token else inside

/-- Moves to the next token; a line break between brackets does not allow a key. -/
def skipToToken : Nat → Layout → Layout
  | 0, layout => layout
  | rounds + 1, layout =>
    let afterBlanks := layout.cursor.dropBlanks
    let atEnd := if afterBlanks.isAt '#' then afterBlanks.dropLine else afterBlanks
    match atEnd.takeBreak? with
    | some (_, after) =>
      let moved := layout.moveTo after
      skipToToken rounds (if layout.flowDepth = 0 then moved.allowKey true else moved)
    | none => layout.moveTo atEnd

/-- Skips the byte order mark at the start of a text. -/
def skipByteOrderMark (layout : Layout) : Layout :=
  if layout.cursor.index = 0 && layout.cursor.isAt byteOrderMark then
    layout.moveTo layout.cursor.next
  else layout

def finish (layout : Layout) : Except Fault Layout := do
  let cleared ← (layout.closeBlocks (-1)).dropKey
  return (cleared.push .streamEnd).allowKey false

def pushDirective (layout : Layout) : Except Fault Layout := do
  let cleared ← (layout.closeBlocks (-1)).dropKey
  let (directive, after) ← scanDirective layout.cursor
  return ((cleared.allowKey false).push (.directive directive)).moveTo after

/-- Reads a mark between documents. -/
def pushDocumentMark (layout : Layout) (token : Token) : Except Fault Layout := do
  let cleared ← (layout.closeBlocks (-1)).dropKey
  return (cleared.allowKey false).pushWide token 3

def pushOpening (layout : Layout) (token : Token) : Except Fault Layout := do
  let noted ← layout.noteKey
  return ({ noted with flowDepth := noted.flowDepth + 1 }.allowKey true).pushWide token 1

/-- Reads a closing bracket. One that closes nothing is refused. -/
def pushClosing (layout : Layout) (token : Token) : Except Fault Layout := do
  let cleared ← layout.dropKey
  if cleared.flowDepth = 0 then throw .malformed
  return ({ cleared with flowDepth := cleared.flowDepth - 1 }.allowKey false).pushWide token 1

def pushComma (layout : Layout) : Except Fault Layout := do
  let cleared ← (layout.allowKey true).dropKey
  return cleared.pushWide .flowEntry 1

/-- Reads the hyphen of a block sequence. -/
def pushHyphen (layout : Layout) : Except Fault Layout := do
  if layout.flowDepth = 0 && !layout.keyAllowed then throw .malformed
  let opened := if layout.flowDepth = 0 then layout.openBlockHere .blockSequenceStart else layout
  let cleared ← (opened.allowKey true).dropKey
  return cleared.pushWide .blockEntry 1

/-- Reads the question mark of a key. -/
def pushQuestion (layout : Layout) : Except Fault Layout := do
  if layout.flowDepth = 0 && !layout.keyAllowed then throw .malformed
  let opened := if layout.flowDepth = 0 then layout.openBlockHere .blockMappingStart else layout
  let cleared ← (opened.allowKey (layout.flowDepth = 0)).dropKey
  return cleared.pushWide .key 1

/-- Turns the possible key between the present brackets into a key. -/
def settleKey (layout : Layout) (key : PossibleKey) : Layout :=
  let remaining := layout.possibleKeys.filter fun entry => entry.1 ≠ layout.flowDepth
  let marked := { layout with possibleKeys := remaining }.insertAt key.position .key
  let (opened, inside) :=
    if layout.flowDepth = 0 then marked.openBlock key.column else (false, marked)
  (if opened then inside.insertAt key.position .blockMappingStart else inside).allowKey false

/-- Reads the colon of a value. -/
def pushColon (layout : Layout) : Except Fault Layout :=
  match layout.possibleKeys.lookup layout.flowDepth with
  | some key => .ok ((layout.settleKey key).pushWide .value 1)
  | none => do
    if layout.flowDepth = 0 && !layout.keyAllowed then throw .malformed
    let opened :=
      if layout.flowDepth = 0 then layout.openBlockHere .blockMappingStart else layout
    let cleared ← (opened.allowKey (layout.flowDepth = 0)).dropKey
    return cleared.pushWide .value 1

/-- Reads a token with a name or a tag, which may begin a key. -/
def pushNamed {α : Type} (layout : Layout) (scan : Cursor → Except Fault (α × Cursor))
    (token : α → Token) : Except Fault Layout := do
  let noted ← layout.noteKey
  let (content, after) ← scan layout.cursor
  return ((noted.allowKey false).push (token content)).moveTo after

def pushBlockScalar (layout : Layout) (folded : Bool) : Except Fault Layout := do
  let cleared ← (layout.allowKey true).dropKey
  let (content, after) ← scanBlock folded layout.indent layout.cursor
  return (cleared.push (.scalar content false)).moveTo after

/-- Reads a plain scalar; a key may begin after it only on a new line. -/
def pushPlain (layout : Layout) : Except Fault Layout := do
  let noted ← layout.noteKey
  let (content, after, crossed) :=
    scanPlain (layout.flowDepth ≠ 0) (layout.indent + 1) layout.cursor
  return ((noted.allowKey crossed).push (.scalar content true)).moveTo after

/-- Whether a plain scalar may begin with the next letter. -/
def beginsPlain (layout : Layout) (letter : Char) : Bool :=
  let isIndicator := "-?:,[]\x7b\x7d#&*!|>'\"%@`".toList.contains letter
  !(endsWord (some letter) || isIndicator) ||
    (!endsWord (layout.cursor.peekAt? 1) &&
      (letter = '-' || (layout.flowDepth = 0 && (letter = '?' || letter = ':'))))

/-- Reads the token that begins with a letter. -/
def pushToken (layout : Layout) (letter : Char) : Except Fault Layout :=
  let inBlock := layout.flowDepth = 0
  let atLineStart := layout.cursor.column = 0
  let isAlone := endsWord (layout.cursor.peekAt? 1)
  if letter = '%' && atLineStart then layout.pushDirective
  else if atLineStart && layout.cursor.isAtMark '-' then layout.pushDocumentMark .documentStart
  else if atLineStart && layout.cursor.isAtMark '.' then layout.pushDocumentMark .documentEnd
  else if letter = '[' then layout.pushOpening .flowSequenceStart
  else if letter = '\x7b' then layout.pushOpening .flowMappingStart
  else if letter = ']' then layout.pushClosing .flowSequenceEnd
  else if letter = '\x7d' then layout.pushClosing .flowMappingEnd
  else if letter = ',' then layout.pushComma
  else if letter = '-' && isAlone then layout.pushHyphen
  else if letter = '?' && (!inBlock || isAlone) then layout.pushQuestion
  else if letter = ':' && (!inBlock || isAlone) then layout.pushColon
  else if letter = '*' then layout.pushNamed scanName .alias
  else if letter = '&' then layout.pushNamed scanName .anchor
  else if letter = '!' then
    layout.pushNamed scanTag fun (handle, suffix) => .tag handle suffix
  else if letter = '|' && inBlock then layout.pushBlockScalar false
  else if letter = '>' && inBlock then layout.pushBlockScalar true
  else if letter = '\'' then layout.pushNamed (scanQuoted false) (.scalar · false)
  else if letter = '"' then layout.pushNamed (scanQuoted true) (.scalar · false)
  else if layout.beginsPlain letter then layout.pushPlain
  else .error .malformed

/-- Moves to the next token and closes the blocks that end before it. -/
def approach (layout : Layout) : Except Fault Layout := do
  let moved := skipToToken layout.cursor.rounds layout.skipByteOrderMark
  let live ← moved.dropStaleKeys
  return live.closeBlocks live.cursor.column

/-- The tokens that no possible key can still come before, in order. -/
def settledTokens (layout : Layout) : List Token :=
  let limit := layout.possibleKeys.foldl (fun least entry => min least entry.2.position)
    layout.count
  layout.tokens.reverse.take limit

/-- Reads the next token, or the end of the sequence, which is said to be reached. -/
def advance (layout : Layout) : Except Fault (Layout × Bool) := do
  let ready ← layout.approach
  match ready.cursor.peek? with
  | none => return (← ready.finish, true)
  | some letter => return (← ready.pushToken letter, false)

/-- Reads tokens up to the end of the text or the first fault. Before each token the possible keys
that are out of reach by then are forgotten; `settled` is the state in which that was last done. -/
def run : Nat → Layout → Layout → List Token × Option Fault
  | 0, settled, _ => (settled.settledTokens, some .malformed)
  | rounds + 1, settled, layout =>
    match layout.dropStaleKeys with
    | .error fault => (settled.settledTokens, some fault)
    | .ok live =>
      match live.advance with
      | .error fault => (live.settledTokens, some fault)
      | .ok (finished, true) => (finished.tokens.reverse, none)
      | .ok (later, false) => run rounds live later

end Layout

def tokens (text : List Char) : List Token × Option Fault :=
  let start : Layout := { cursor := .start text }
  if text.all isAllowed then Layout.run start.cursor.rounds start start
  else ([], some .malformed)

end ErrorDerive.Yaml
