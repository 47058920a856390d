import ErrorDerive.Number.Double

/-!
# The shortest decimal text of a double

A finite number is written with the fewest decimal digits that read back as the same number, and
with the digits nearest to it among those. The reals that round to a number form an interval; for
one, two, up to seventeen digits the two neighbours of the number on that decimal grid are tested.

Positional notation is used from `10 ^ (-4)` to below `10 ^ 16`, and scientific notation outside.
-/

namespace ErrorDerive.Double

/-- A positive number, the ends of the interval of reals that round to it, and their common
denominator. The ends belong to the interval when the significand is even. -/
structure Neighbourhood where
  lower : Nat
  value : Nat
  upper : Nat
  unit : Nat
  closed : Bool

/-- The interval around `significand * 2 ^ exponent`. Below a power of two the gap to the next
number is half as wide. -/
def neighbourhood (significand : Nat) (exponent : Int) : Neighbourhood where
  lower :=
    let narrow := significand = leastFull && leastExponent < exponent
    (4 * significand - if narrow then 1 else 2) * Nat.pow 2 (exponent - 2).toNat
  value := 4 * significand * Nat.pow 2 (exponent - 2).toNat
  upper := (4 * significand + 2) * Nat.pow 2 (exponent - 2).toNat
  unit := Nat.pow 2 (2 - exponent).toNat
  closed := significand % 2 = 0

/-- The power of ten just above a positive quotient: `10 ^ (p - 1) ≤ value / unit < 10 ^ p`. -/
def decimalOrder (value unit : Nat) : Int :=
  if unit ≤ value then (Nat.toDigits 10 (value / unit)).length
  else
    let zeros? := (List.range 400).find? fun zeros => unit ≤ value * Nat.pow 10 (zeros + 1)
    Int.negOfNat (zeros?.getD 0)

/-- The multiple of `10 ^ power` that lies in the interval and is nearest to the number, if the
number's neighbours on that grid reach the interval. -/
def Neighbourhood.onGrid? (around : Neighbourhood) (power : Int) : Option Nat :=
  let grow := Nat.pow 10 (-power).toNat
  let step := around.unit * Nat.pow 10 power.toNat
  let below := around.value * grow / step
  let inside (candidate : Nat) : Bool :=
    if around.closed then
      around.lower * grow ≤ candidate * step && candidate * step ≤ around.upper * grow
    else around.lower * grow < candidate * step && candidate * step < around.upper * grow
  match inside below, inside (below + 1) with
  | true, false => some below
  | false, true => some (below + 1)
  | false, false => none
  | true, true =>
    let twice := 2 * (around.value * grow)
    let middle := (2 * below + 1) * step
    if twice < middle || (twice = middle && below % 2 = 0) then some below else some (below + 1)

/-- The shortest decimal `digits * 10 ^ power` of a positive number. -/
def shortestDecimal (significand : Nat) (exponent : Int) : Nat × Int :=
  let around := neighbourhood significand exponent
  let order := decimalOrder around.value around.unit
  let grids := (List.range 17).map fun (count : Nat) => order - (count + 1)
  (grids.findSome? fun power =>
    (around.onGrid? power).map fun digits => (digits, power)).getD (0, 0)

/-- Drops the zeros at the end of a row of digits. -/
def dropZeros (digits : List Char) : List Char :=
  (digits.reverse.dropWhile (· = '0')).reverse

/-- The digits and the position of the decimal point laid out as text. -/
def layOut (digits : List Char) (point : Int) : List Char :=
  let width : Int := digits.length
  if -4 < point && point ≤ 16 then
    if point ≤ 0 then '0' :: '.' :: (List.replicate (-point).toNat '0' ++ digits)
    else if width ≤ point then digits ++ List.replicate (point - width).toNat '0' ++ ['.', '0']
    else digits.take point.toNat ++ '.' :: digits.drop point.toNat
  else
    let power := point - 1
    let powerDigits := Nat.toDigits 10 power.natAbs
    let padded := if powerDigits.length < 2 then '0' :: powerDigits else powerDigits
    let fraction := if digits.length ≤ 1 then [] else '.' :: digits.drop 1
    digits.take 1 ++ fraction ++ 'e' :: (if power < 0 then '-' else '+') :: padded

/-- The text of a number. -/
def toText : Double → String
  | notANumber => "nan"
  | infinite negative => if negative then "-inf" else "inf"
  | finite negative significand exponent =>
    let sign := if negative then ['-'] else []
    if significand = 0 then String.ofList (sign ++ ['0', '.', '0'])
    else
      let (number, power) := shortestDecimal significand exponent
      let digits := Nat.toDigits 10 number
      String.ofList (sign ++ layOut (dropZeros digits) (digits.length + power))

end ErrorDerive.Double
