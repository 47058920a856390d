import ErrorDerive.Generation.Result
import ErrorDerive.Rust.FormatString

/-!
# Rust items

The implementations that make up the generated code of a type.

* `Pattern` and `Arm` are the parts of an exhaustive match;
* `displayArm` and `sourceArm` turn a branch of a body into an arm;
* `render` writes the conversions, the display and the error implementation of a type;
* `renderFile` joins the code of several types under one header.
-/

namespace ErrorDerive.Rust

/-- A pattern that matches one variant. -/
inductive Pattern where
  /-- A variant without a field list. -/
  | plain (variant : String)
  /-- A variant whose fields are ignored. -/
  | ignoring (variant : String)
  /-- A variant whose fields are bound to names. -/
  | binding (variant : String) (names : List String)
  deriving DecidableEq, Repr, Inhabited

def Pattern.text : Pattern → String
  | plain variant => "Self::" ++ variant
  | ignoring variant => "Self::" ++ variant ++ "(..)"
  | binding variant names => "Self::" ++ variant ++ "(" ++ commaSeparated names ++ ")"

/-- The pattern of a variant that binds the given names, or ignores the fields without names. -/
def Pattern.ofShape (variant : String) (shape : Shape) (names? : Option (List String)) : Pattern :=
  match shape, names? with
  | .unit, _ => plain variant
  | _, none => ignoring variant
  | _, some names => binding variant names

/-- What an arm does. -/
inductive Action where
  /-- Writes a fixed text. -/
  | writeText (text : String)
  /-- Writes a template with the bound names as arguments. -/
  | writeTemplate (template : String) (arguments : List String)
  /-- Returns the bound cause. -/
  | returnCause (name : String)
  /-- Returns that there is no cause. -/
  | returnNone
  deriving DecidableEq, Repr, Inhabited

def Action.text : Action → String
  | writeText text => "f.write_str(" ++ quote text ++ ")"
  | writeTemplate template arguments =>
    "write!(f, " ++ FormatString.quote template ++ String.join (arguments.map (", " ++ ·)) ++ ")"
  | returnCause name => "Some(" ++ name ++ ")"
  | returnNone => "None"

/-- An arm of a match. -/
structure Arm where
  pattern : Pattern
  action : Action
  deriving DecidableEq, Repr, Inhabited

def Arm.text (arm : Arm) : String :=
  arm.pattern.text ++ " => " ++ arm.action.text ++ ","

/-- The arm of a display branch. Names are bound only for a template that has fields. -/
def displayArm (branch : DisplayBranch) : Arm :=
  match branch.display with
  | .template text =>
    if branch.bindings.isEmpty then
      ⟨.ofShape branch.variant branch.shape (some []), .writeText text⟩
    else
      ⟨.ofShape branch.variant branch.shape (some branch.bindings),
        .writeTemplate text branch.bindings⟩
  | .literal text =>
    ⟨.ofShape branch.variant branch.shape (if branch.bindings.isEmpty then some [] else none),
      .writeText text⟩

/-- The name that a source branch binds to the cause; an empty name binds nothing. -/
def boundCause? (branch : SourceBranch) : Option String :=
  branch.cause.filter (· ≠ "")

def sourceArm (branch : SourceBranch) : Arm :=
  match boundCause? branch with
  | some name => ⟨.binding branch.variant [name], .returnCause name⟩
  | none =>
    let names? := if branch.fieldCount = 0 then some [] else none
    ⟨.ofShape branch.variant branch.shape names?, .returnNone⟩

/-- Blanks at the start of a line, four for each level. -/
def indent (depth : Nat) : String :=
  String.ofList (List.replicate (4 * depth) ' ')

/-- The lines of a match on `self`, which for a type without variants has no arm. -/
def matchLines (depth : Nat) (arms : List Arm) : List String :=
  if arms.isEmpty then [indent depth ++ "match *self \x7b\x7d"]
  else
    (indent depth ++ "match self \x7b") ::
      (arms.map (fun arm => indent (depth + 1) ++ arm.text) ++ [indent depth ++ "\x7d"])

/-- Lines, each ended by a line feed. -/
def endLines (lines : List String) : String :=
  String.join (lines.map (· ++ "\n"))

/-- The implementation of a conversion into a type. -/
def conversionItem (typeName : String) (conversion : Conversion) : String :=
  endLines [
    "impl ::std::convert::From<" ++ conversion.sourceType ++ "> for " ++ typeName ++ " \x7b",
    "    fn from(e: " ++ conversion.sourceType ++ ") -> Self \x7b",
    "        Self::" ++ conversion.variant ++ "(e)",
    "    \x7d",
    "\x7d"]

def displayItem (typeName : String) (branches : List DisplayBranch) : String :=
  endLines ([
    "impl ::std::fmt::Display for " ++ typeName ++ " \x7b",
    "    fn fmt(&self, f: &mut ::std::fmt::Formatter<'_>) -> ::std::fmt::Result \x7b"] ++
    matchLines 2 (branches.map displayArm) ++ ["    \x7d", "\x7d"])

def errorItem (typeName : String) (branches : List SourceBranch) : String :=
  endLines ([
    "impl ::std::error::Error for " ++ typeName ++ " \x7b",
    "    fn source(&self) -> ::std::option::Option<&(dyn ::std::error::Error + 'static)> \x7b"] ++
    matchLines 2 (branches.map sourceArm) ++ ["    \x7d", "\x7d"])

/-- The items of a type: conversions, display, error. -/
def items (generation : Generation) : List String :=
  generation.conversions.map (conversionItem generation.typeName) ++
    [displayItem generation.typeName generation.display,
      errorItem generation.typeName generation.source]

def render (generation : Generation) : String :=
  String.intercalate "\n" (items generation)

/-- The first line of every generated file. -/
def header : String := "// @generated by autoerror. Do not edit.\n"

/-- The generated code of several types. -/
def renderFile (generations : List Generation) : String :=
  header ++ "\n" ++ String.intercalate "\n" (generations.map render)

end ErrorDerive.Rust
