import ErrorDerive.Number.Numeral
import ErrorDerive.Schema.Problem
import ErrorDerive.Text.Utf8
import ErrorDerive.Value.Shown

/-!
# Reading values against a schema

A reading turns a value into data of a type or lists every problem with it. Readings of several
fields are put together so that the problems of all of them are kept, in field order.

* `readText`, `readFlag` and `readNumber` read scalars, with the conversions that are allowed;
* `readList`, `readTuple` and `readGroup` read collections;
* `required` and `optional` read the fields of a record, and `readRecord` the record itself.
-/

namespace ErrorDerive.Schema

/-- Data, or the problems of the value it was to be read from. -/
inductive Reading (α : Type) where
  | accepted (data : α)
  | refused (problems : List Problem)

namespace Reading

/-- The same reading with its data transformed. -/
def map {α β : Type} (transform : α → β) : Reading α → Reading β
  | accepted data => accepted (transform data)
  | refused problems => refused problems

/-- Applies a reading's function to another reading's data, keeping the problems of both. -/
def apply {α β : Type} : Reading (α → β) → Reading α → Reading β
  | accepted transform, accepted data => accepted (transform data)
  | accepted _, refused problems => refused problems
  | refused problems, accepted _ => refused problems
  | refused earlier, refused later => refused (earlier ++ later)

/-- The same reading with its problems placed one step further out. -/
def under {α : Type} (step : String) : Reading α → Reading α
  | accepted data => accepted data
  | refused problems =>
    refused (problems.map fun problem => { problem with place := step :: problem.place })

/-- A single problem with a value itself. -/
def objectTo {α : Type} (value : Value) (objection : Objection) : Reading α :=
  refused [⟨[], objection, value.kind⟩]

/-- A reading that turns data into an accepted result or an objection to the value. -/
def refine {α β : Type} (value : Value) (check : α → Except Objection β) :
    Reading α → Reading β
  | refused problems => refused problems
  | accepted data =>
    match check data with
    | .ok checked => accepted checked
    | .error objection => objectTo value objection

instance : Functor Reading where
  map := map

instance : Applicative Reading where
  pure := accepted
  seq transform data := apply transform (data ())

/-- The data of a reading, or its problems as a rejection of a record. -/
def toExcept {α : Type} (record : String) : Reading α → Except Rejection α
  | accepted data => .ok data
  | refused problems => .error ⟨record, problems⟩

end Reading

open Reading

/-- Reads a text; bytes are read as UTF-8. -/
def readText (value : Value) : Reading String :=
  match value with
  | .text content => accepted content
  | .bytes content =>
    match Text.decode? content with
    | some text => accepted text
    | none => objectTo value .notUnicode
  | _ => objectTo value .notText

/-- Reads what a text means. A text with a surrogate is not even looked at. -/
def readMeaning {α : Type} (value : Value) (read : String → Reading α) (content : String) :
    Reading α :=
  if Text.holdsSurrogate content then objectTo value .notUnicode else read content

/-- The words that stand for truth values. -/
def trueWords : List String := ["1", "t", "true", "y", "yes", "on"]

/-- The words that stand for falsehood. -/
def falseWords : List String := ["0", "f", "false", "n", "no", "off"]

/-- A text with its ASCII capitals in lower case. -/
def lowerAscii (text : String) : String :=
  String.ofList (text.toList.map Char.toLower)

/-- The truth value that a word stands for, in either case. -/
def flagOfWord? (word : String) : Option Bool :=
  if trueWords.contains (lowerAscii word) then some true
  else if falseWords.contains (lowerAscii word) then some false
  else none

/-- The truth value that zero or one stands for. -/
def flagOfInt? (number : Int) : Option Bool :=
  if number = 0 then some false else if number = 1 then some true else none

/-- The first number above those of a machine word. -/
def wordLimit : Int := 0x8000000000000000

/-- Whether a number fits a machine word of 64 bits with a sign. -/
def fitsWord (number : Int) : Bool :=
  -wordLimit ≤ number && number < wordLimit

/-- Whether a whole double lies strictly between the bounds of a machine word. -/
def liesInWord (whole : Int) : Bool :=
  -wordLimit < whole && whole < wordLimit

/-- Reads a truth value: itself, a word for it, or zero or one. Numbers that are not whole or fit no
machine word are not even looked at. -/
def readFlag (value : Value) : Reading Bool :=
  let ofWord? (flag? : Option Bool) : Reading Bool :=
    match flag? with
    | some flag => accepted flag
    | none => objectTo value .unreadableBool
  match value with
  | .bool flag => accepted flag
  | .text content => readMeaning value (fun word => ofWord? (flagOfWord? word)) content
  | .bytes content => ofWord? ((Text.decode? content).bind flagOfWord?)
  | .int number =>
    if fitsWord number then ofWord? (flagOfInt? number) else objectTo value .notBool
  | .float number =>
    match number.toInt?.filter liesInWord with
    | some whole => ofWord? (flagOfInt? whole)
    | none => objectTo value .notBool
  | _ => objectTo value .notBool

/-- A numeral without its leading zeros, among which low lines may stand. The last of them is kept
before a point and at the end, and a minus sign may follow them. -/
def dropLeadingZeros? (numeral : List Char) : Option (List Char) :=
  match numeral with
  | '0' :: rest =>
    let zeros := rest.takeWhile fun letter => letter = '0' || letter = '_'
    let last := zeros.getLast?.getD '0'
    match rest.drop zeros.length with
    | [] => some [last]
    | '.' :: tail => some (last :: '.' :: tail)
    | letter :: tail =>
      if Numeral.isDigit letter || letter = '-' then some (letter :: tail) else none
  | letter :: _ => if Numeral.isDigit letter then some numeral else none
  | [] => none

/-- A numeral without a tail of a point and one or more zeros. -/
def dropZeroFraction (numeral : List Char) : List Char :=
  match Text.cutAtFirst? (· = '.') numeral with
  | some (whole, fraction) =>
    if !fraction.isEmpty && fraction.all (· = '0') then whole else numeral
  | none => numeral

/-- A numeral without its low lines, if none stands at an end or next to another one. -/
def dropLowLines (numeral : List Char) : List Char :=
  if numeral.head? = some '_' || numeral.getLast? = some '_' ||
    Text.containsWord ['_', '_'] numeral then numeral
  else numeral.filter (· ≠ '_')

/-- A numeral in its plain form, without blanks, plus sign, leading zeros, low lines and a tail of a
point and zeros. -/
def plainNumeral? (numeral : List Char) : Option (List Char) :=
  let trimmed := Text.dropEnd Numeral.isMargin (numeral.dropWhile Numeral.isMargin)
  let plain? (unsigned : List Char) : Option (List Char) :=
    (dropLeadingZeros? unsigned).map fun digits => dropLowLines (dropZeroFraction digits)
  match trimmed with
  | '+' :: unsigned => plain? unsigned
  | '-' :: unsigned => (plain? unsigned).map ('-' :: ·)
  | unsigned => plain? unsigned

/-- The sign and the digits at the front of a numeral that does not begin with a zero. -/
def leadingDigits (numeral : List Char) : List Char :=
  let (sign, digits) := match numeral with
    | '-' :: digits => (['-'], digits)
    | digits => ([], digits)
  if digits.head? = some '0' then [] else sign ++ digits.takeWhile Numeral.isDigit

/-- Whether a numeral begins with more digits than are read, its sign counted among them. -/
def isOverlong (numeral : List Char) : Bool :=
  Numeral.longestDecimal < (leadingDigits numeral).length

/-- The integer that a plain numeral stands for: digits after an optional minus sign and without
leading zeros. -/
def intOfPlain? (numeral : List Char) : Option Int :=
  let (negative, digits) := match numeral with
    | '-' :: digits => (true, digits)
    | digits => (false, digits)
  if isOverlong numeral || (digits.head? = some '0' && 1 < digits.length) then none
  else (Numeral.digitsIn? 10 digits).map fun number => if negative then -(number : Int) else number

/-- The integer that a numeral stands for, in plain form or not. A numeral that is too long as it
stands is refused for its length. -/
def intOfNumeral (text : String) : Except Objection Int :=
  let numeral := text.toList
  if isOverlong numeral then .error .oversizedInt
  else match (intOfPlain? numeral).or ((plainNumeral? numeral).bind intOfPlain?) with
    | some number => .ok number
    | none => .error .unreadableInt

/-- Reads an integer: itself, a truth value, a whole double in the range of a machine word, or a
numeral. -/
def readNumber (value : Value) : Reading Int :=
  let ofText (text : String) : Reading Int :=
    match intOfNumeral text with
    | .ok number => accepted number
    | .error objection => objectTo value objection
  match value with
  | .int number => accepted number
  | .bool flag => accepted (if flag then 1 else 0)
  | .text content => readMeaning value ofText content
  | .bytes content =>
    match Text.decode? content with
    | some text => ofText text
    | none => objectTo value .unreadableInt
  | .float (.finite negative significand exponent) =>
    match (Double.finite negative significand exponent).toInt? with
    | some whole =>
      if liesInWord whole then accepted whole else objectTo value .oversizedInt
    | none => objectTo value .fractional
  | .float _ => objectTo value .notFinite
  | _ => objectTo value .notInt

/-- Reads one of the given choices by its name. -/
def readChoice {α : Type} (choices : List α) (name : α → String) (value : Value) : Reading α :=
  let refusal := objectTo value (.notOneOf (choices.map name))
  let ofName (content : String) : Reading α :=
    match choices.find? fun choice => name choice == content with
    | some choice => accepted choice
    | none => refusal
  match value with
  | .text content => readMeaning value ofName content
  | _ => refusal

/-- Reads a value that may be null. -/
def readNullable {α : Type} (read : Value → Reading α) (value : Value) : Reading (Option α) :=
  match value with
  | .null => accepted none
  | _ => (read value).map some

/-- Reads items in order, numbered from an index upwards. -/
def readItems {α : Type} (read : Value → Reading α) : Nat → List Value → Reading (List α)
  | _, [] => accepted []
  | index, item :: rest =>
    apply (((read item).under (toString index)).map List.cons) (readItems read (index + 1) rest)

/-- The items of a value that may stand for a list. -/
def items? (value : Value) : Option (List Value) :=
  match value.opened with
  | .list items | .tuple items | .set items => some items
  | _ => none

def readList {α : Type} (read : Value → Reading α) (value : Value) : Reading (List α) :=
  match items? value with
  | some items => readItems read 0 items
  | none => objectTo value .notList

def readTuple {α : Type} (read : Value → Reading α) (value : Value) : Reading (List α) :=
  match items? value with
  | some items => readItems read 0 items
  | none => objectTo value .notTuple

/-- The step that leads to an entry of a mapping. -/
def keyStep (key : Value) : String :=
  match key with
  | .text content => content
  | .bool flag => if flag then "1" else "0"
  | _ => if key.unshowable?.isSome then "<unprintable " ++ key.kind ++ " object>" else key.shown

/-- Reads entries with text keys and any content. -/
def readEntries : List (Value × Value) → Reading (List (String × Value))
  | [] => accepted []
  | (key, content) :: rest =>
    apply ((((readText key).under "[key]").under (keyStep key)).map fun name =>
      List.cons (name, content)) (readEntries rest)

/-- Writes an entry under a name, in the place of the entry with that name if there is one. -/
def putNamed (entry : String × Value) : List (String × Value) → List (String × Value)
  | [] => [entry]
  | first :: rest => if entry.1 = first.1 then entry :: rest else first :: putNamed entry rest

/-- Reads a mapping with text keys and any content. Keys that read as the same text are one key,
and the last content counts. -/
def readGroup (value : Value) : Reading (List (String × Value)) :=
  match value.opened with
  | .mapping entries =>
    (readEntries entries).map fun named => named.foldl (fun seen entry => putNamed entry seen) []
  | _ => objectTo value .notMapping

/-- Reads a field that must be there. -/
def required {α : Type} (name : String) (read : Value → Reading α)
    (entries : List (Value × Value)) : Reading α :=
  match Value.lookup? name entries with
  | some content => (read content).under name
  | none => refused [⟨[name], .missing, (Value.mapping entries).kind⟩]

/-- Reads a field that has a default. -/
def optional {α : Type} (name : String) (default : α) (read : Value → Reading α)
    (entries : List (Value × Value)) : Reading α :=
  match Value.lookup? name entries with
  | some content => (read content).under name
  | none => accepted default

/-- Reads a record of the given name from the entries of a mapping. -/
def readRecord {α : Type} (record : String) (read : List (Value × Value) → Reading α)
    (value : Value) : Reading α :=
  match value.opened with
  | .mapping entries => read entries
  | _ => objectTo value (.notRecord record)

end ErrorDerive.Schema
