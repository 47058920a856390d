import ErrorDerive.Breakdown
import ErrorDerive.Number.Numeral
import ErrorDerive.Number.Shortest
import ErrorDerive.Text.Quoted
import ErrorDerive.Value

/-!
# Values in messages

How a value is shown inside a message.

* `Value.shown` shows it as a part of a larger value: texts stand between quotes;
* `Value.inserted` shows it alone: a text stands as it is, and a date in international form;
* `Value.unshowable?` is the reason why a value cannot be shown, if there is one.
-/

namespace ErrorDerive

/-- A distance from universal time as a constructor call. -/
private def shownOffset (seconds : Int) : String :=
  if seconds = 0 then "datetime.timezone.utc"
  else
    let days := if seconds < 0 then "days=-1, " else ""
    let rest := if seconds < 0 then seconds + 86400 else seconds
    "datetime.timezone(datetime.timedelta(" ++ days ++ "seconds=" ++ toString rest ++ "))"

/-- The numbers of a date, joined by commas. -/
private def dateArguments (date : Date) : List String :=
  [toString date.year, toString date.month, toString date.day]

/-- The numbers of a moment; seconds are left out when nothing but zeros would follow. -/
private def momentArguments (moment : Moment) : List String :=
  dateArguments moment.date ++ [toString moment.hour, toString moment.minute] ++
    (if moment.second = 0 && moment.microsecond = 0 then [] else [toString moment.second]) ++
    (if moment.microsecond = 0 then [] else [toString moment.microsecond]) ++
    (moment.offset.map fun seconds => "tzinfo=" ++ shownOffset seconds).toList

/-- Items joined by commas. -/
private def joined (items : List String) : String :=
  String.intercalate ", " items

/-- What stands for a list or mapping inside itself. -/
private def shownAgain (isMapping : Bool) : String :=
  if isMapping then "\x7b...\x7d" else "[...]"

mutual

/-- A value as a part of a larger value, its circles written out. -/
def Value.shownPart : Value → String
  | .null => "None"
  | .bool flag => if flag then "True" else "False"
  | .int number => toString number
  | .float number => number.toText
  | .text content => Text.quoted content
  | .bytes content => Text.quotedBytes content
  | .date day => "datetime.date(" ++ joined (dateArguments day) ++ ")"
  | .moment instant => "datetime.datetime(" ++ joined (momentArguments instant) ++ ")"
  | .list items => "[" ++ joined (Value.shownItems items) ++ "]"
  | .tuple items =>
    "(" ++ joined (Value.shownItems items) ++ (if items.length = 1 then "," else "") ++ ")"
  | .set items =>
    if items.isEmpty then "set()" else "\x7b" ++ joined (Value.shownItems items) ++ "\x7d"
  | .mapping entries => "\x7b" ++ joined (Value.shownEntries entries) ++ "\x7d"
  | .circle parts place => shownAgain ((Value.circle parts place).kind == "dict")
  | .again _ isMapping => shownAgain isMapping

/-- The items of a collection, each as a part of it. -/
def Value.shownItems : List Value → List String
  | [] => []
  | item :: rest => item.shownPart :: Value.shownItems rest

/-- The entries of a mapping, key and content joined by a colon. -/
def Value.shownEntries : List (Value × Value) → List String
  | [] => []
  | (key, content) :: rest =>
    (key.shownPart ++ ": " ++ content.shownPart) :: Value.shownEntries rest

end

/-- A value as a part of a larger value. -/
def Value.shown (value : Value) : String :=
  value.laidOut.shownPart

/-- A value standing alone in a message. -/
def Value.inserted : Value → String
  | .text content => content
  | .date day => day.toText
  | .moment instant => instant.toText " "
  | other => other.shown

/-- How many collections may stand inside one another in a value that is shown. -/
def deepestShown : Nat := 980

mutual

/-- Why a value cannot be shown, its circles written out: a number in it is too long, or more
collections than the given room stand inside one another. -/
def Value.obstacle? (room : Nat) : Value → Option Breakdown
  | .int number => if Numeral.isTooLong number then some .impossibleValue else none
  | .list items | .tuple items | .set items => Value.itemObstacle? room items
  | .mapping entries => Value.entryObstacle? room entries
  | _ => none

def Value.itemObstacle? (room : Nat) : List Value → Option Breakdown
  | [] => none
  | item :: rest =>
    match room with
    | 0 => some .endlessDescent
    | left + 1 => (item.obstacle? left).or (Value.itemObstacle? room rest)

def Value.entryObstacle? (room : Nat) : List (Value × Value) → Option Breakdown
  | [] => none
  | (key, content) :: rest =>
    match room with
    | 0 => some .endlessDescent
    | left + 1 =>
      ((key.obstacle? left).or (content.obstacle? left)).or (Value.entryObstacle? room rest)

end

/-- Why a value cannot be shown, if it cannot. -/
def Value.unshowable? (value : Value) : Option Breakdown :=
  value.laidOut.obstacle? deepestShown

end ErrorDerive
