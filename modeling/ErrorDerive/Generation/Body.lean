import ErrorDerive.Policy

/-!
# Behaviour bodies

The three behaviours derived from the policies: a display branch and a source branch for each
variant, and a conversion for each variant that asks for one.

* `checkCoverage` holds exactly when the branches are those of the policies, each once;
* `conversions` fails where two conversions would start from the same source type, blanks apart.
-/

namespace ErrorDerive

/-- The branch of a display body: the names bound to the fields, and what is written. -/
structure DisplayBranch where
  variant : String
  shape : Shape
  bindings : List String := []
  display : Display
  deriving DecidableEq, Repr, Inhabited

/-- The branch of a source body: the name bound to the cause, if there is one. -/
structure SourceBranch where
  variant : String
  shape : Shape
  fieldCount : Int := 0
  cause : Option String := none
  deriving DecidableEq, Repr, Inhabited

/-- A conversion from a source type into a variant. -/
structure Conversion where
  sourceType : String
  variant : String
  deriving DecidableEq, Repr, Inhabited

/-- The names that a policy's branch binds to the fields. -/
def Policy.bindings (policy : Policy) : List String :=
  policy.variant.fields.map fun field => "f" ++ toString field.index

def Policy.displayBranch (policy : Policy) : DisplayBranch where
  variant := policy.name
  shape := policy.variant.shape
  bindings := policy.bindings
  display := policy.display

def Policy.sourceBranch (policy : Policy) : SourceBranch where
  variant := policy.name
  shape := policy.variant.shape
  fieldCount := policy.variant.fields.length
  cause := if policy.isCause then some "e" else none

/-- The policies, by name, that no branch covers. -/
def uncovered (policies : List Policy) (branches : List String) : List String :=
  (policies.map Policy.name).filter (!branches.contains ·)

/-- Accepts the variants of a body's branches when none is missing and there are as many branches
as policies. -/
def checkCoverage (body : String) (policies : List Policy) (branches : List String) :
    Except Fault Unit :=
  let missing := uncovered policies branches
  if !missing.isEmpty || branches.length ≠ policies.length then
    .error (.incompleteCoverage body branches.length policies.length missing)
  else .ok ()

/-- The display body: one branch for each policy. -/
def displayBody (policies : List Policy) : Except Fault (List DisplayBranch) := do
  let branches := policies.map Policy.displayBranch
  checkCoverage "Display" policies (branches.map DisplayBranch.variant)
  return branches

/-- The source body: one branch for each policy. -/
def sourceBody (policies : List Policy) : Except Fault (List SourceBranch) := do
  let branches := policies.map Policy.sourceBranch
  checkCoverage "Source" policies (branches.map SourceBranch.variant)
  return branches

/-- The conversion that a policy asks for, which needs a variant with one field. -/
def Policy.conversion (policy : Policy) : Except Fault Conversion :=
  match policy.variant.soleField? with
  | some field => .ok ⟨field.typeRef, policy.name⟩
  | none => .error (.malformed .conversionWithoutSoleField policy.name)

/-- Whether two conversions start from the same source type, blanks apart. -/
def Conversion.sameSource (left right : Conversion) : Bool :=
  Text.removeBlanks left.sourceType == Text.removeBlanks right.sourceType

/-- All conversions that start from the source type of the given one. -/
def competitors (all : List Conversion) (conversion : Conversion) : List Conversion :=
  all.filter conversion.sameSource

/-- The first conversion that shares its source type with another. -/
def firstConflict? (all : List Conversion) : Option Conversion :=
  all.find? fun conversion => 1 < (competitors all conversion).length

/-- The conversions of the policies that ask for one, in order. -/
def conversions (policies : List Policy) : Except Fault (List Conversion) := do
  let all ← (policies.filter Policy.makeFrom).mapM Policy.conversion
  match firstConflict? all with
  | some conflict =>
    .error (.conflictingConversion conflict.sourceType
      ((competitors all conflict).map Conversion.variant))
  | none => return all

end ErrorDerive
