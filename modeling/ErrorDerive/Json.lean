import ErrorDerive.Text.Quoted

/-!
# JSON documents

The documents that the command line prints: null, truth values, integers, texts, lists, and
objects whose members keep their order.

* `Json.pretty` lays a document out over lines, two blanks deeper at each level;
* `Json.compact` writes it on one line.

Both escape every code point outside ASCII, one beyond the basic plane as two units.
-/

namespace ErrorDerive

/-- A JSON document without fractions. -/
inductive Json where
  | null
  | bool (flag : Bool)
  | int (number : Int)
  | text (content : String)
  | list (items : List Json)
  | object (members : List (String × Json))
  deriving Inhabited

namespace Json

/-- A 16-bit unit as an escape. -/
def unitEscape (code : Nat) : List Char :=
  '\\' :: 'u' :: Text.hexDigits 4 code

/-- How one code point stands in a text. -/
def escapedCode (code : Nat) : List Char :=
  let letter := Char.ofNat code
  if letter = '"' then ['\\', '"']
  else if letter = '\\' then ['\\', '\\']
  else if letter = '\n' then ['\\', 'n']
  else if letter = '\r' then ['\\', 'r']
  else if letter = '\t' then ['\\', 't']
  else if code = 8 then ['\\', 'b']
  else if code = 12 then ['\\', 'f']
  else if 0x20 ≤ code && code ≤ 0x7E then [letter]
  else if code ≤ 0xFFFF then unitEscape code
  else unitEscape (0xD800 + (code - 0x10000) / 0x400) ++ unitEscape (0xDC00 + code % 0x400)

/-- A text between double quotes, in ASCII. -/
def quoted (content : String) : String :=
  String.ofList ('"' :: ((Text.codePoints content).flatMap escapedCode ++ ['"']))

def newLine (depth : Nat) : String :=
  String.ofList ('\n' :: List.replicate (2 * depth) ' ')

/-- The lines of a collection between its brackets. -/
def block (opening closing : String) (depth : Nat) (items : List String) : String :=
  if items.isEmpty then opening ++ closing
  else
    opening ++ newLine (depth + 1) ++ String.intercalate ("," ++ newLine (depth + 1)) items ++
      newLine depth ++ closing

mutual

/-- A document whose first line stands at the given depth already. -/
def prettyAt (depth : Nat) : Json → String
  | null => "null"
  | bool flag => if flag then "true" else "false"
  | int number => toString number
  | text content => quoted content
  | list items => block "[" "]" depth (prettyItems (depth + 1) items)
  | object members => block "\x7b" "\x7d" depth (prettyMembers (depth + 1) members)

def prettyItems (depth : Nat) : List Json → List String
  | [] => []
  | item :: rest => prettyAt depth item :: prettyItems depth rest

def prettyMembers (depth : Nat) : List (String × Json) → List String
  | [] => []
  | (name, content) :: rest =>
    (quoted name ++ ": " ++ prettyAt depth content) :: prettyMembers depth rest

end

/-- A document over several lines. -/
def pretty (document : Json) : String :=
  prettyAt 0 document

mutual

/-- A document on one line. -/
def compact : Json → String
  | null => "null"
  | bool flag => if flag then "true" else "false"
  | int number => toString number
  | text content => quoted content
  | list items => "[" ++ String.intercalate "," (compactItems items) ++ "]"
  | object members => "\x7b" ++ String.intercalate "," (compactMembers members) ++ "\x7d"

def compactItems : List Json → List String
  | [] => []
  | item :: rest => item.compact :: compactItems rest

def compactMembers : List (String × Json) → List String
  | [] => []
  | (name, content) :: rest => (quoted name ++ ":" ++ content.compact) :: compactMembers rest

end

def texts (items : List String) : Json :=
  list (items.map text)

def optionalText (content? : Option String) : Json :=
  (content?.map text).getD null

end Json

end ErrorDerive
