/-!
# Problems of a value

What a value that was read against a schema got wrong, and where.

* `Objection` lists the possible objections, each with its wording and its code;
* `Problem` adds the place and the kind of the value found there;
* `Rejection.text` is the report on all problems of one record.
-/

namespace ErrorDerive.Schema

/-- What may be wrong with a value. -/
inductive Objection where
  | missing
  | notText
  | notUnicode
  | notBool
  | unreadableBool
  | notInt
  | unreadableInt
  | oversizedInt
  | fractional
  | notFinite
  | notList
  | notTuple
  | notMapping
  | notRecord (record : String)
  | notOneOf (choices : List String)
  | forbidden (reason : String)
  deriving DecidableEq, Repr, Inhabited

/-- Choices between quotes, joined by commas and a final "or". -/
def alternatives : List String → String
  | [] => ""
  | [only] => "'" ++ only ++ "'"
  | [first, last] => "'" ++ first ++ "' or '" ++ last ++ "'"
  | first :: rest => "'" ++ first ++ "', " ++ alternatives rest

namespace Objection

def message : Objection → String
  | missing => "Field required"
  | notText => "Input should be a valid string"
  | notUnicode => "Input should be a valid string, unable to parse raw data as a unicode string"
  | notBool => "Input should be a valid boolean"
  | unreadableBool => "Input should be a valid boolean, unable to interpret input"
  | notInt => "Input should be a valid integer"
  | unreadableInt => "Input should be a valid integer, unable to parse string as an integer"
  | oversizedInt => "Unable to parse input string as an integer, exceeded maximum size"
  | fractional => "Input should be a valid integer, got a number with a fractional part"
  | notFinite => "Input should be a finite number"
  | notList => "Input should be a valid list"
  | notTuple => "Input should be a valid tuple"
  | notMapping => "Input should be a valid dictionary"
  | notRecord record => "Input should be a valid dictionary or instance of " ++ record
  | notOneOf choices => "Input should be " ++ alternatives choices
  | forbidden reason => "Value error, " ++ reason

def code : Objection → String
  | missing => "missing"
  | notText => "string_type"
  | notUnicode => "string_unicode"
  | notBool => "bool_type"
  | unreadableBool => "bool_parsing"
  | notInt => "int_type"
  | unreadableInt => "int_parsing"
  | oversizedInt => "int_parsing_size"
  | fractional => "int_from_float"
  | notFinite => "finite_number"
  | notList => "list_type"
  | notTuple => "tuple_type"
  | notMapping => "dict_type"
  | notRecord _ => "model_type"
  | notOneOf _ => "literal_error"
  | forbidden _ => "value_error"

end Objection

/-- A problem: the steps that lead to a value, the objection, and the kind of the value. -/
structure Problem where
  place : List String
  objection : Objection
  kind : String
  deriving DecidableEq, Repr, Inhabited

/-- A step of a place. A step that holds a full stop stands between backquotes. -/
def stepText (step : String) : String :=
  if step.toList.contains '.' then "`" ++ step ++ "`" else step

/-- The lines that report a problem; the place of the whole value has no line. -/
def Problem.lines (problem : Problem) : List String :=
  (if problem.place.isEmpty then []
    else [String.intercalate "." (problem.place.map stepText)]) ++
  ["  " ++ problem.objection.message ++ " [type=" ++ problem.objection.code ++
    ", input_type=" ++ problem.kind ++ "]"]

/-- A record that was refused, with all problems in the order of its fields. -/
structure Rejection where
  record : String
  problems : List Problem
  deriving DecidableEq, Repr, Inhabited

def Rejection.text (rejection : Rejection) : String :=
  let count := rejection.problems.length
  let heading := toString count ++ " validation error" ++ (if count = 1 then "" else "s") ++
    " for " ++ rejection.record
  String.intercalate "\n" (heading :: rejection.problems.flatMap Problem.lines)

end ErrorDerive.Schema
