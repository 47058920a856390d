import ErrorDerive.Generation.Body
import ErrorDerive.Generation.Extraction

/-!
# Generation

`generate` takes a declaration through all stages: its variants, the decisions about them, and the
three behaviours. The first fault of the earliest stage is the answer.
-/

namespace ErrorDerive

/-- Everything that is derived for one type. -/
structure Generation where
  typeName : String
  policies : List Policy := []
  display : List DisplayBranch
  source : List SourceBranch
  conversions : List Conversion := []
  deriving DecidableEq, Repr, Inhabited

/-- Derives the behaviours of a declared type. -/
def generate (settings : Settings) (declaration : TypeDeclaration) : Except Fault Generation := do
  let variants ← declaration.extract
  let policies ← resolvePolicies settings variants
  let display ← displayBody policies
  let source ← sourceBody policies
  let derived ← conversions policies
  return ⟨declaration.name, policies, display, source, derived⟩

def Generation.policy? (generation : Generation) (name : String) : Option Policy :=
  generation.policies.find? fun policy => policy.name == name

end ErrorDerive
