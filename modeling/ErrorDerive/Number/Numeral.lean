import ErrorDerive.Number.Double
import ErrorDerive.Text.Blank
import ErrorDerive.Text.DecimalDigit
import ErrorDerive.Text.Segment

/-!
# Numerals

Reading numbers from their written forms.

* `digitsIn? base` reads a row of digits of any base up to sixteen;
* `signedIn? base` reads an integer, `decimal?` a decimal number with an optional point and power of
  ten; both allow blanks around the number and decimal digits of any script.
-/

namespace ErrorDerive.Numeral

/-- The greatest number of decimal digits that are read or shown as an integer. -/
def longestDecimal : Nat := 4300

/-- Whether an integer has more decimal digits than are read or shown. -/
def isTooLong (number : Int) : Bool :=
  Nat.pow 10 longestDecimal ≤ number.natAbs

/-- The value of a digit: of `0` to `9`, or of `a` to `f` in either case. -/
def digitValue? (letter : Char) : Option Nat :=
  let code := letter.toNat
  if 48 ≤ code && code ≤ 57 then some (code - 48)
  else if 97 ≤ code && code ≤ 102 then some (code - 87)
  else if 65 ≤ code && code ≤ 70 then some (code - 55)
  else none

def isDigit (letter : Char) : Bool :=
  '0' ≤ letter && letter ≤ '9'

def isHexDigit (letter : Char) : Bool :=
  (digitValue? letter).isSome

/-- Appends one digit of a base to a number. -/
private def appendDigit (base : Nat) (total : Option Nat) (letter : Char) : Option Nat :=
  match total, digitValue? letter with
  | some number, some value => if value < base then some (number * base + value) else none
  | _, _ => none

/-- The number that a row of digits of a base stands for; at least one digit is needed. -/
def digitsIn? (base : Nat) (letters : List Char) : Option Nat :=
  if letters.isEmpty then none else letters.foldl (appendDigit base) (some 0)

/-- Takes a leading sign off a word: whether it is negative, and the rest. -/
def takeSign : List Char → Bool × List Char
  | '-' :: rest => (true, rest)
  | '+' :: rest => (false, rest)
  | letters => (false, letters)

/-- Whether a character may stand before and after a numeral: any blank but the separator
controls. -/
def isMargin (letter : Char) : Bool :=
  Text.isBlank letter && !(28 ≤ letter.toNat && letter.toNat ≤ 31)

/-- A numeral without the blanks around it, in ASCII digits. -/
def bare (letters : List Char) : List Char :=
  (Text.dropEnd isMargin (letters.dropWhile isMargin)).map Text.asciiDigit

/-- The letter that, after a zero, announces a base. -/
def baseLetter? (base : Nat) : Option Char :=
  if base = 2 then some 'b' else if base = 8 then some 'o' else if base = 16 then some 'x' else none

/-- Digits without the announcement of their base. -/
def dropBase (base : Nat) (digits : List Char) : List Char :=
  match digits with
  | '0' :: letter :: rest => if some letter.toLower = baseLetter? base then rest else digits
  | _ => digits

/-- An integer of a base: a sign, the announcement of the base and digits; only the digits must be
there. -/
def signedIn? (base : Nat) (letters : List Char) : Option Int :=
  let (negative, digits) := takeSign (bare letters)
  (digitsIn? base (dropBase base digits)).map fun number =>
    if negative then -(number : Int) else number

/-- A decimal number without a sign: digits, a point and more digits, and a power of ten. One of
the two rows of digits may be missing. -/
private def unsignedDecimal? (negative : Bool) (letters : List Char) : Option Double :=
  let (mantissa, power?) : List Char × Option Int :=
    match Text.cutAtFirst? (fun letter => letter = 'e' || letter = 'E') letters with
    | none => (letters, some 0)
    | some (before, after) =>
      let (down, digits) := takeSign after
      (before, (digitsIn? 10 digits).map fun number => if down then -(number : Int) else number)
  let (whole, fraction) := (Text.cutAtFirst? (· = '.') mantissa).getD (mantissa, [])
  match power?, digitsIn? 10 (whole ++ fraction) with
  | some power, some digits => some (Double.ofDecimal negative digits (power - fraction.length))
  | _, _ => none

/-- A decimal number: a sign, digits with an optional point and power of ten,
or one of the names of infinity and of the number that is not one, in lower case. -/
def decimal? (letters : List Char) : Option Double :=
  let (negative, rest) := takeSign (bare letters)
  if rest = "inf".toList || rest = "infinity".toList then some (.infinite negative)
  else if rest = "nan".toList then some .notANumber
  else unsignedDecimal? negative rest

end ErrorDerive.Numeral
