import ErrorDerive.Calendar
import ErrorDerive.Number.Double

/-!
# Values

The values that a configuration file or a request may hold: scalars of several kinds, lists,
tuples, sets, and mappings whose keys are values and keep their order. Lists and mappings may hold
one another in a circle.

* `Value.kind` names the kind of a value, as messages do;
* `Value.opened` makes the content of a value in a circle whole values again;
* `Value.laidOut` writes a value in a circle out, up to where it comes upon itself;
* `Value.sameKey` says when two keys of a mapping are the same key;
* `Value.lookup?` finds the entry of a mapping under a text key;
* `Value.put` writes an entry, in place when the key is there already.
-/

namespace ErrorDerive

/-- A value. `circle parts place` is the list or mapping at a place among parts that may hold one
another: inside the parts `again place` stands for the one at that place, and says whether that is a
mapping. It stands nowhere else, and no deeper in a part than its items, entries and tuples. -/
inductive Value where
  | null
  | bool (flag : Bool)
  | int (number : Int)
  | float (number : Double)
  | text (content : String)
  | bytes (content : List UInt8)
  | date (day : Date)
  | moment (moment : Moment)
  | list (items : List Value)
  | tuple (items : List Value)
  | set (items : List Value)
  | mapping (entries : List (Value × Value))
  | circle (parts : List Value) (place : Nat)
  | again (place : Nat) (isMapping : Bool)
  deriving Inhabited

namespace Value

def kind : Value → String
  | null => "NoneType"
  | bool _ => "bool"
  | int _ => "int"
  | float _ => "float"
  | text _ => "str"
  | bytes _ => "bytes"
  | date _ => "date"
  | moment _ => "datetime"
  | list _ => "list"
  | tuple _ => "tuple"
  | set _ => "set"
  | mapping _ => "dict"
  | circle parts place =>
    match parts[place]? with
    | some (mapping _) => "dict"
    | _ => "list"
  | again _ isMapping => if isMapping then "dict" else "list"

/-- Whether a value may be a key of a mapping. -/
def isKey : Value → Bool
  | list _ | set _ | mapping _ | circle _ _ | again _ _ => false
  | _ => true

/-- A number as a double or an integer, truth values counting as zero and one. -/
private def asNumber? : Value → Option (Int ⊕ Double)
  | bool flag => some (.inl (if flag then 1 else 0))
  | int number => some (.inl number)
  | float number => some (.inr number)
  | _ => none

/-- Whether two numbers are equal across integers and doubles. -/
private def equalNumbers : Int ⊕ Double → Int ⊕ Double → Bool
  | .inl left, .inl right => left == right
  | .inr left, .inr right => left.sameNumber right
  | .inl whole, .inr number | .inr number, .inl whole => number.toInt? == some whole

/-- Whether two keys are the same key: numbers by value whatever their kind, moments by the
instant they name, and other scalars by content. -/
def sameKey (left right : Value) : Bool :=
  match asNumber? left, asNumber? right with
  | some leftNumber, some rightNumber => equalNumbers leftNumber rightNumber
  | _, _ =>
    match left, right with
    | null, null => true
    | text leftContent, text rightContent => leftContent == rightContent
    | bytes leftContent, bytes rightContent => leftContent == rightContent
    | date leftDay, date rightDay => leftDay == rightDay
    | moment leftMoment, moment rightMoment => leftMoment.sameMoment rightMoment
    | _, _ => false

/-- Writes an entry: in the place of the entry with the same key, which keeps its first spelling
of the key, and at the end otherwise. -/
def put (key content : Value) : List (Value × Value) → List (Value × Value)
  | [] => [(key, content)]
  | (firstKey, firstContent) :: rest =>
    if sameKey key firstKey then (firstKey, content) :: rest
    else (firstKey, firstContent) :: put key content rest

/-- The entry of a mapping under a text key. -/
def lookup? (name : String) : List (Value × Value) → Option Value
  | [] => none
  | (text key, content) :: rest => if key = name then some content else lookup? name rest
  | _ :: rest => lookup? name rest

/-- An item of a part of a circle, as a whole value. -/
def closedItem (parts : List Value) : Value → Value
  | again place _ => circle parts place
  | other => other

/-- An item or content in a part of a circle, as a whole value. -/
def closed (parts : List Value) : Value → Value
  | tuple items => tuple (items.map (closedItem parts))
  | other => closedItem parts other

/-- The same value as a plain list or mapping, if it is part of a circle: what it holds are whole
values. -/
def opened : Value → Value
  | circle parts place =>
    match parts.getD place null with
    | list items => list (items.map (closed parts))
    | mapping entries => mapping (entries.map fun (key, content) => (key, closed parts content))
    | other => other
  | other => other

/-- A part of a circle written out, inside the parts at the given places; `again` remains where one
of these comes again. Each step adds a place, so the number of parts bounds the steps. -/
def writtenOut (parts : List Value) : Nat → List Nat → Nat → Value
  | 0, _, _ => null
  | steps + 1, around, place =>
    let item : Value → Value
      | again next isMapping =>
        if next = place || around.contains next then again next isMapping
        else writtenOut parts steps (place :: around) next
      | other => other
    let content : Value → Value
      | tuple items => tuple (items.map item)
      | other => item other
    match parts.getD place null with
    | list items => list (items.map content)
    | mapping entries => mapping (entries.map fun (key, inside) => (key, content inside))
    | other => other

mutual

/-- A value with its circles written out: a list or mapping inside itself is left as `again`. -/
def laidOut : Value → Value
  | circle parts place => writtenOut parts (parts.length + 1) [] place
  | list items => list (laidOutItems items)
  | tuple items => tuple (laidOutItems items)
  | mapping entries => mapping (laidOutEntries entries)
  | other => other

def laidOutItems : List Value → List Value
  | [] => []
  | item :: rest => laidOut item :: laidOutItems rest

def laidOutEntries : List (Value × Value) → List (Value × Value)
  | [] => []
  | (key, content) :: rest => (key, laidOut content) :: laidOutEntries rest

end

/-- Whether a value is empty, zero, false or absent. -/
def isHollow : Value → Bool
  | null | bool false => true
  | int number => number == 0
  | float number => number.sameNumber (.finite false 0 0)
  | text content => content == ""
  | bytes content => content.isEmpty
  | list items | tuple items | set items => items.isEmpty
  | mapping entries => entries.isEmpty
  | _ => false

end Value

end ErrorDerive
