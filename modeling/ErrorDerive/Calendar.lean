/-!
# Dates and moments

Days of the proleptic Gregorian calendar in the years 1 to 9999, and moments of such a day with an
optional distance from universal time.

* `Date.isReal` and `Moment.isReal` say which combinations of numbers exist;
* `Date.toText` and `Moment.toText` write them in the international form;
* `Moment.sameMoment` compares moments by the instant that they name.
-/

namespace ErrorDerive

/-- A day, by year, month and day of the month. -/
structure Date where
  year : Nat
  month : Nat
  day : Nat
  deriving DecidableEq, Repr, Inhabited

/-- A moment of a day. `offset` is the distance from universal time in seconds, where known. -/
structure Moment where
  date : Date
  hour : Nat
  minute : Nat
  second : Nat
  microsecond : Nat
  offset : Option Int
  deriving DecidableEq, Repr, Inhabited

/-- A number in decimal digits, filled up with zeros at the front. -/
def padded (width number : Nat) : String :=
  let digits := Nat.toDigits 10 number
  String.ofList (List.replicate (width - digits.length) '0' ++ digits)

/-- Whether a year has a 29th of February. -/
def isLeapYear (year : Nat) : Bool :=
  year % 4 = 0 && (year % 100 ≠ 0 || year % 400 = 0)

def daysInMonth (year month : Nat) : Nat :=
  if month = 2 then (if isLeapYear year then 29 else 28)
  else if month = 4 || month = 6 || month = 9 || month = 11 then 30
  else 31

def Date.isReal (date : Date) : Bool :=
  1 ≤ date.year && date.year ≤ 9999 && 1 ≤ date.month && date.month ≤ 12 &&
    1 ≤ date.day && date.day ≤ daysInMonth date.year date.month

/-- The number of days from the first day of the calendar to a day. -/
def Date.ordinal (date : Date) : Nat :=
  let years := date.year - 1
  let before := (List.range (date.month - 1)).map fun month => daysInMonth date.year (month + 1)
  365 * years + years / 4 - years / 100 + years / 400 + before.foldl (· + ·) 0 + date.day

/-- A day as year, month and day joined by hyphens. -/
def Date.toText (date : Date) : String :=
  padded 4 date.year ++ "-" ++ padded 2 date.month ++ "-" ++ padded 2 date.day

/-- Whether a moment exists; its distance from universal time is less than a day. -/
def Moment.isReal (moment : Moment) : Bool :=
  moment.date.isReal && moment.hour < 24 && moment.minute < 60 && moment.second < 60 &&
    moment.microsecond < 1000000 && moment.offset.all fun seconds => seconds.natAbs < 86400

/-- A distance from universal time as signed hours and minutes. -/
def offsetText (seconds : Int) : String :=
  let minutes := seconds.natAbs / 60
  (if seconds < 0 then "-" else "+") ++ padded 2 (minutes / 60) ++ ":" ++ padded 2 (minutes % 60)

/-- A moment as date and time with a separator between them. Microseconds are left out when they
are zero. -/
def Moment.toText (separator : String) (moment : Moment) : String :=
  moment.date.toText ++ separator ++ padded 2 moment.hour ++ ":" ++ padded 2 moment.minute ++ ":" ++
    padded 2 moment.second ++
    (if moment.microsecond = 0 then "" else "." ++ padded 6 moment.microsecond) ++
    (moment.offset.map offsetText).getD ""

/-- The microseconds from the beginning of the calendar to a moment, in universal time. -/
def Moment.instant (moment : Moment) : Int :=
  let seconds : Int := ((moment.date.ordinal * 24 + moment.hour) * 60 + moment.minute) * 60 +
    moment.second
  (seconds - moment.offset.getD 0) * 1000000 + moment.microsecond

/-- Whether two moments name the same instant; one with a known distance from universal time
never equals one without. -/
def Moment.sameMoment (left right : Moment) : Bool :=
  left.offset.isSome == right.offset.isSome && left.instant == right.instant

end ErrorDerive
