import ErrorDerive.Calendar
import ErrorDerive.Number.Numeral

/-!
# The tags of plain scalars

A plain scalar without a tag gets one from its form: null, a truth value, an integer, a double, a
time, a merge key, or else a text.

* the tests `isTruthWord`, `isInteger`, `isDouble`, … say which forms there are;
* `plainTag` is the tag of a plain scalar.

A form may be followed by one line feed, which a plain scalar never is, but a block scalar with the
non-specific tag may be.
-/

namespace ErrorDerive.Yaml

/-- The tags of the standard repertory, by their last part. -/
def standardTag (name : String) : String := "tag:yaml.org,2002:" ++ name

private def isDigitOrLow (letter : Char) : Bool :=
  Numeral.isDigit letter || letter = '_'

/-- Takes off a sign, whichever it is. -/
private def dropSign (letters : List Char) : List Char :=
  (Numeral.takeSign letters).2

/-- Whether letters are one or more base-sixty groups: a colon and one or two digits each, the
first of two below six. What follows the groups is returned. -/
private def dropSixties : Nat → List Char → Option (List Char)
  | groups, ':' :: first :: second :: rest =>
    if Numeral.isDigit first && Numeral.isDigit second then
      if first < '6' then dropSixties (groups + 1) rest else none
    else if Numeral.isDigit first then dropSixties (groups + 1) (second :: rest)
    else none
  | _, [':', first] => if Numeral.isDigit first then some [] else none
  | groups, letters => if groups = 0 then none else some letters

/-- Whether a row of digits, low lines among them, follows a first digit. -/
private def isDigitRow : List Char → Bool
  | first :: rest => Numeral.isDigit first && rest.all isDigitOrLow
  | [] => false

/-- Whether letters are a signed power of ten, or nothing. -/
private def isPower : List Char → Bool
  | [] => true
  | mark :: sign :: rest =>
    (mark = 'e' || mark = 'E') && (sign = '+' || sign = '-') && !rest.isEmpty &&
      rest.all Numeral.isDigit
  | _ => false

/-- Whether letters are a word for null. -/
def isNullWord (letters : List Char) : Bool :=
  ["~", "null", "Null", "NULL", ""].contains (String.ofList letters)

/-- Whether letters are a word for a truth value. -/
def isTruthWord (letters : List Char) : Bool :=
  ["yes", "Yes", "YES", "no", "No", "NO", "true", "True", "TRUE", "false", "False", "FALSE",
    "on", "On", "ON", "off", "Off", "OFF"].contains (String.ofList letters)

/-- Whether unsigned letters are an integer in base sixty. -/
private def isSixtyInteger (letters : List Char) : Bool :=
  match letters with
  | first :: rest =>
    first ≠ '0' && Numeral.isDigit first && dropSixties 0 (rest.dropWhile isDigitOrLow) == some []
  | [] => false

/-- Whether letters are an integer: in base two, eight, ten, sixteen or sixty. -/
def isInteger (letters : List Char) : Bool :=
  match dropSign letters with
  | ['0'] => true
  | '0' :: 'b' :: rest => !rest.isEmpty && rest.all fun letter => "01_".toList.contains letter
  | '0' :: 'x' :: rest =>
    !rest.isEmpty && rest.all fun letter => Numeral.isHexDigit letter || letter = '_'
  | '0' :: rest => rest.all fun letter => ('0' ≤ letter && letter ≤ '7') || letter = '_'
  | others => isDigitRow others || isSixtyInteger others

/-- Whether letters are a double: with a point, in base sixty with a point, infinite, or no
number. -/
def isDouble (letters : List Char) : Bool :=
  let unsigned := dropSign letters
  let isPointed (row : List Char) : Bool :=
    match row.span isDigitOrLow with
    | (first :: _, '.' :: rest) =>
      Numeral.isDigit first && isPower (rest.dropWhile isDigitOrLow)
    | _ => false
  let isSixty (row : List Char) : Bool :=
    match row with
    | first :: rest =>
      Numeral.isDigit first &&
        match dropSixties 0 (rest.dropWhile isDigitOrLow) with
        | some ('.' :: fraction) => fraction.all isDigitOrLow
        | _ => false
    | [] => false
  let isFraction : Bool :=
    match letters with
    | '.' :: rest =>
      rest.head?.any Numeral.isDigit && isPower (rest.dropWhile isDigitOrLow)
    | _ => false
  isPointed unsigned || isSixty unsigned || isFraction ||
    [".inf", ".Inf", ".INF"].contains (String.ofList unsigned) ||
    [".nan", ".NaN", ".NAN"].contains (String.ofList letters)

/-- The parts of a time: the numbers of its date, and those of its clock if it has one. -/
structure TimeParts where
  date : Date
  clock : Option (Nat × Nat × Nat × Nat × Option Int)
  /-- Whether month and day have two digits each. -/
  isFull : Bool

/-- Takes a number of the given least and greatest number of digits off the front. -/
private def takeDigits (least most : Nat) (letters : List Char) : Option (Nat × Nat × List Char) :=
  let digits := (letters.take most).takeWhile Numeral.isDigit
  if digits.length < least then none
  else (Numeral.digitsIn? 10 digits).map fun number =>
    (number, digits.length, letters.drop digits.length)

/-- Takes a given letter off the front. -/
private def takeLetter (letter : Char) : List Char → Option (List Char)
  | first :: rest => if first = letter then some rest else none
  | [] => none

/-- Whether a letter is a blank or a tab. -/
private def isGap (letter : Char) : Bool := letter = ' ' || letter = '\t'

/-- The microseconds that the digits after a point stand for; only six of them count. -/
private def microseconds (digits : List Char) : Nat :=
  let six := digits.take 6 ++ List.replicate (6 - digits.length) '0'
  (Numeral.digitsIn? 10 six).getD 0

/-- The distance from universal time at the end of a time, in seconds. -/
private def offset? (letters : List Char) : Option (Option Int) :=
  match letters.dropWhile isGap with
  | [] => if letters.isEmpty then some none else none
  | ['Z'] => some (some 0)
  | sign :: rest =>
    if sign ≠ '+' && sign ≠ '-' then none
    else do
      let (hours, _, afterHours) ← takeDigits 1 2 rest
      let minutes ← match afterHours with
        | [] => some 0
        | others => do
          let (minutes, _, rest) ← takeDigits 2 2 (← takeLetter ':' others)
          if rest.isEmpty then some minutes else none
      let seconds : Int := (hours * 60 + minutes) * 60
      return some (if sign = '-' then -seconds else seconds)

/-- The clock of a time: hour, minute, second, microseconds and distance from universal time. -/
private def clock? (letters : List Char) : Option (Nat × Nat × Nat × Nat × Option Int) := do
  let (hour, _, afterHour) ← takeDigits 1 2 letters
  let (minute, _, afterMinute) ← takeDigits 2 2 (← takeLetter ':' afterHour)
  let (second, _, afterSecond) ← takeDigits 2 2 (← takeLetter ':' afterMinute)
  let (fraction, rest) := match afterSecond with
    | '.' :: digits => digits.span Numeral.isDigit
    | others => ([], others)
  let offset ← offset? rest
  return (hour, minute, second, microseconds fraction, offset)

/-- The separator between date and clock: a letter T, or blanks. -/
private def dropSeparator : List Char → Option (List Char)
  | 'T' :: rest => some rest
  | 't' :: rest => some rest
  | letter :: rest => if isGap letter then some (rest.dropWhile isGap) else none
  | [] => none

/-- The parts of letters that have the form of a time. -/
def timeParts? (letters : List Char) : Option TimeParts := do
  let (year, _, afterYear) ← takeDigits 4 4 letters
  let (month, monthWidth, afterMonth) ← takeDigits 1 2 (← takeLetter '-' afterYear)
  let (day, dayWidth, afterDay) ← takeDigits 1 2 (← takeLetter '-' afterMonth)
  let date : Date := ⟨year, month, day⟩
  let isFull := monthWidth = 2 && dayWidth = 2
  if afterDay.isEmpty then return ⟨date, none, isFull⟩
  else
    let clock ← clock? (← dropSeparator afterDay)
    return ⟨date, some clock, isFull⟩

/-- Whether letters are a time: a full date, or a date with a clock. -/
def isTime (letters : List Char) : Bool :=
  (timeParts? letters).any fun parts => parts.isFull || parts.clock.isSome

/-- A word without the line feed at its end. -/
def dropFinalBreak (letters : List Char) : List Char :=
  if letters.getLast? = some '\n' then letters.dropLast else letters

/-- The tag of a plain scalar. -/
def plainTag (content : String) : String :=
  let letters := dropFinalBreak content.toList
  standardTag <|
    if content ≠ "\n" && isNullWord letters then "null"
    else if isTruthWord letters then "bool"
    else if isDouble letters then "float"
    else if isInteger letters then "int"
    else if letters = ['<', '<'] then "merge"
    else if isTime letters then "timestamp"
    else if letters = ['='] then "value"
    else if letters = ['!'] || letters = ['&'] || letters = ['*'] then "yaml"
    else "str"

end ErrorDerive.Yaml
