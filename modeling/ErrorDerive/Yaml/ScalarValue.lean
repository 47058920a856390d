import ErrorDerive.Text.Segment
import ErrorDerive.Value
import ErrorDerive.Yaml.Base64
import ErrorDerive.Yaml.PlainTag
import ErrorDerive.Yaml.Token

/-!
# The values of scalars

What the text of a tagged scalar stands for. A text need not have the form of its tag, so every
reading may fail, each in its own way.

* `integerValue`, `doubleValue`, `truthValue`, `bytesValue` and `timeValue` read the texts of one
  tag each;
* `scalarValue` chooses among them by the kind of scalar, which a standard tag names.
-/

namespace ErrorDerive.Yaml

/-- The words for truth and falsehood, in lower case. -/
def truthWords : List (String × Bool) :=
  [("yes", true), ("no", false), ("true", true), ("false", false), ("on", true), ("off", false)]

/-- Letters in lower case, as far as they are ASCII. -/
private def lower (letters : List Char) : List Char := letters.map Char.toLower

/-- The truth value that a word stands for. -/
def truthValue (content : String) : Except Fault Value :=
  match truthWords.lookup (String.ofList (lower content.toList)) with
  | some flag => .ok (.bool flag)
  | none => .error (.broken .unknownTruthWord)

/-- An integer in base ten of at most the longest length. -/
private def decimalInteger? (letters : List Char) : Option Int :=
  if Numeral.longestDecimal < ((Numeral.bare letters).filter Numeral.isDigit).length then none
  else Numeral.signedIn? 10 letters

/-- The value of a number written in base sixty. -/
private def sixtyInteger? (letters : List Char) : Option Int :=
  ((Text.cutAtEach ':' letters).mapM decimalInteger?).map fun digits =>
    digits.foldl (fun total digit => total * 60 + digit) 0

/-- The magnitude of an integer, in the base that its first letters announce. -/
private def magnitude? (letters : List Char) : Option Int :=
  match letters with
  | ['0'] => some 0
  | '0' :: 'b' :: rest => Numeral.signedIn? 2 rest
  | '0' :: 'x' :: rest => Numeral.signedIn? 16 rest
  | '0' :: _ => Numeral.signedIn? 8 letters
  | _ => if letters.contains ':' then sixtyInteger? letters else decimalInteger? letters

/-- The integer that letters stand for. -/
def integerValue (content : String) : Except Fault Value :=
  let letters := content.toList.filter (· ≠ '_')
  let (negative, unsigned) := Numeral.takeSign letters
  if unsigned.isEmpty then .error (.broken .emptyNumeral)
  else match magnitude? unsigned with
    | some magnitude => .ok (.int (if negative then -magnitude else magnitude))
    | none => .error (.broken .impossibleValue)

/-- The sum of a total and scaled groups, the last group first; each group is scaled by sixty times
what scaled the one before, and every step is rounded. The scale must be a double. -/
def addSixties (total : Double) (scale : Nat) : List Double → Except Fault Double
  | [] => .ok total
  | group :: rest =>
    match Double.ofRatio false scale 1 with
    | .infinite _ => .error (.broken .oversizedNumber)
    | factor => addSixties (total.add (group.mul factor)) (scale * 60) rest

/-- The double that letters in base sixty stand for. -/
def sixtyDouble (letters : List Char) : Except Fault Double :=
  match (Text.cutAtEach ':' letters).mapM Numeral.decimal? with
  | some groups => addSixties Double.zero 1 groups.reverse
  | none => .error (.broken .impossibleValue)

/-- The name of the number that is not one, among unsigned letters. -/
private def noNumberName : List Char := ".nan".toList

/-- The letters of a double, in lower case and without low lines: whether they have a minus sign,
and the rest. -/
private def doubleLetters (content : String) : Bool × List Char :=
  Numeral.takeSign (lower (content.toList.filter (· ≠ '_')))

/-- Whether the text of a double is the name of the number that is not one. -/
def namesNoNumber (content : String) : Bool :=
  (doubleLetters content).2 == noNumberName

/-- The double that letters stand for. -/
def doubleValue (content : String) : Except Fault Value := do
  if content.toList.all (· = '_') then throw (.broken .emptyNumeral)
  let (negative, unsigned) := doubleLetters content
  let magnitude ←
    if unsigned = ".inf".toList then pure (Double.infinite false)
    else if unsigned = noNumberName then pure Double.notANumber
    else if unsigned.contains ':' then sixtyDouble unsigned
    else match Numeral.decimal? unsigned with
      | some number => pure number
      | none => throw (.broken .impossibleValue)
  return .float (if negative then magnitude.negate else magnitude)

/-- The bytes that letters in base 64 stand for. -/
def bytesValue (content : String) : Except Fault Value :=
  if content.toList.any fun letter => 0x7F < letter.toNat then .error .malformed
  else match Base64.decode? content.toList with
    | some bytes => .ok (.bytes bytes)
    | none => .error .malformed

/-- The date or moment that letters stand for; it must exist. -/
def timeValue (content : String) : Except Fault Value :=
  match timeParts? (dropFinalBreak content.toList) with
  | none => .error (.broken .shapelessTime)
  | some ⟨date, none, _⟩ =>
    if date.isReal then .ok (.date date) else .error (.broken .impossibleValue)
  | some ⟨date, some (hour, minute, second, microsecond, offset), _⟩ =>
    let moment : Moment := ⟨date, hour, minute, second, microsecond, offset⟩
    if moment.isReal then .ok (.moment moment) else .error (.broken .impossibleValue)

/-- What the scalars of the standard tags become. -/
inductive ScalarKind where
  | null
  | bool
  | int
  | float
  | binary
  | timestamp
  | text
  deriving DecidableEq, Repr, Inhabited

/-- The scalar that the last part of a standard tag asks for. -/
def ScalarKind.ofName? (name : String) : Option ScalarKind :=
  [("null", null), ("bool", bool), ("int", int), ("float", float), ("binary", binary),
    ("timestamp", timestamp), ("str", text)].lookup name

/-- The value of a text as a scalar of a kind. -/
def scalarValue (kind : ScalarKind) (content : String) : Except Fault Value :=
  match kind with
  | .null => .ok .null
  | .bool => truthValue content
  | .int => integerValue content
  | .float => doubleValue content
  | .binary => bytesValue content
  | .timestamp => timeValue content
  | .text => .ok (.text content)

end ErrorDerive.Yaml
