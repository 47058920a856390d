/-!
# Double-precision numbers

Numbers of the 64-bit binary format, held as sign, significand and power of two, so that all
reading, rounding and comparing is exact arithmetic on natural numbers.

* `Double.ofRatio` rounds a quotient to the nearest number of the format, ties to even;
* `Double.ofDecimal` reads a decimal significand with a power of ten;
* `Double.toRatio?` is the exact value, and `Double.toInt?` the value of a whole number;
* `Double.add` and `Double.mul` are the rounded sum and product.
-/

namespace ErrorDerive

/-- A number of the 64-bit binary format. A finite one is `significand * 2 ^ exponent` with a
significand below `2 ^ 53`. -/
inductive Double where
  | notANumber
  | infinite (negative : Bool)
  | finite (negative : Bool) (significand : Nat) (exponent : Int)
  deriving DecidableEq, Repr, Inhabited

namespace Double

/-- The least exponent of the format. -/
def leastExponent : Int := -1074

/-- The greatest exponent of the format. -/
def greatestExponent : Int := 971

/-- The significands of a full-width number begin here. -/
def leastFull : Nat := Nat.pow 2 52

/-- The quotient rounded to the nearest natural number, a tie to the even one. -/
def roundHalfEven (numerator denominator : Nat) : Nat :=
  let quotient := numerator / denominator
  let twice := 2 * (numerator % denominator)
  if twice < denominator then quotient
  else if denominator < twice then quotient + 1
  else if quotient % 2 = 0 then quotient else quotient + 1

/-- The quotient times `2 ^ (-exponent)`, as a pair of natural numbers. -/
def scaleByTwo (numerator denominator : Nat) (exponent : Int) : Nat × Nat :=
  (numerator * Nat.pow 2 (-exponent).toNat, denominator * Nat.pow 2 exponent.toNat)

/-- The exponent at which the quotient fills the significand, but no less than the least. -/
def fittingExponent (numerator denominator : Nat) : Int :=
  let guess := (numerator.log2 : Int) - denominator.log2 - 52
  let (scaled, unit) := scaleByTwo numerator denominator guess
  max leastExponent (if scaled / unit < leastFull then guess - 1 else guess)

/-- The number of the format nearest to a quotient, ties to even. -/
def ofRatio (negative : Bool) (numerator denominator : Nat) : Double :=
  if numerator = 0 then finite negative 0 leastExponent
  else
    let exponent := fittingExponent numerator denominator
    let (scaled, unit) := scaleByTwo numerator denominator exponent
    let significand := roundHalfEven scaled unit
    let (significand, exponent) :=
      if significand = 2 * leastFull then (leastFull, exponent + 1) else (significand, exponent)
    if greatestExponent < exponent then infinite negative
    else finite negative significand exponent

/-- The number nearest to `significand * 10 ^ exponent`. A power of ten far outside the format's
range is not computed. -/
def ofDecimal (negative : Bool) (significand : Nat) (exponent : Int) : Double :=
  let magnitude := ((Nat.toDigits 10 significand).length : Int) + exponent
  if significand = 0 || magnitude < -400 then finite negative 0 leastExponent
  else if 400 < magnitude then infinite negative
  else ofRatio negative (significand * Nat.pow 10 exponent.toNat) (Nat.pow 10 (-exponent).toNat)

def negate : Double → Double
  | notANumber => notANumber
  | infinite negative => infinite (!negative)
  | finite negative significand exponent => finite (!negative) significand exponent

/-- The exact value of a finite number as a signed numerator over a positive denominator. -/
def toRatio? : Double → Option (Int × Nat)
  | finite negative significand exponent =>
    let (numerator, denominator) := scaleByTwo significand 1 (-exponent)
    some (if negative then -(numerator : Int) else numerator, denominator)
  | _ => none

/-- The value of a finite number without a fractional part. -/
def toInt? (number : Double) : Option Int :=
  number.toRatio?.bind fun (numerator, denominator) =>
    if numerator % denominator = 0 then some (numerator / denominator) else none

def zero : Double := finite false 0 leastExponent

def isNegative : Double → Bool
  | notANumber => false
  | infinite negative | finite negative _ _ => negative

/-- The nearest number to a signed quotient. A quotient of zero gets the given sign. -/
def ofSigned (negativeZero : Bool) (numerator : Int) (denominator : Nat) : Double :=
  if numerator = 0 then finite negativeZero 0 leastExponent
  else ofRatio (decide (numerator < 0)) numerator.natAbs denominator

/-- The rounded sum. Infinities of opposite signs have none; a sum of zero is negative only where
both numbers are. -/
def add (left right : Double) : Double :=
  match left.toRatio?, right.toRatio? with
  | some (leftValue, leftUnit), some (rightValue, rightUnit) =>
    ofSigned (left.isNegative && right.isNegative)
      (leftValue * rightUnit + rightValue * leftUnit) (leftUnit * rightUnit)
  | some _, none => right
  | none, some _ => left
  | none, none => if left = right then left else notANumber

/-- The rounded product. An infinity times zero is no number. -/
def mul (left right : Double) : Double :=
  let negative := left.isNegative != right.isNegative
  match left.toRatio?, right.toRatio? with
  | some (leftValue, leftUnit), some (rightValue, rightUnit) =>
    ofSigned negative (leftValue * rightValue) (leftUnit * rightUnit)
  | some (value, _), none | none, some (value, _) =>
    if left = notANumber || right = notANumber || value = 0 then notANumber else infinite negative
  | none, none =>
    if left = notANumber || right = notANumber then notANumber else infinite negative

/-- Whether two numbers are equal as numbers: zeros are equal, and nothing equals a number that
is not one. -/
def sameNumber (left right : Double) : Bool :=
  match left, right with
  | infinite leftNegative, infinite rightNegative => leftNegative == rightNegative
  | _, _ =>
    match left.toRatio?, right.toRatio? with
    | some (leftValue, leftUnit), some (rightValue, rightUnit) =>
      leftValue * rightUnit == rightValue * leftUnit
    | _, _ => false

end Double

end ErrorDerive
