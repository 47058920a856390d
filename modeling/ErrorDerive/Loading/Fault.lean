import ErrorDerive.Breakdown
import ErrorDerive.Schema.Problem

/-!
# Faults of configuration files

Why a settings or declaration file is not accepted. Each fault names the file or the type it
concerns; `ConfigFault.message` words it.
-/

namespace ErrorDerive

/-- Why a configuration is not accepted. -/
inductive ConfigFault where
  | fileNotFound (path : String)
  | unreadable (path reason : String)
  | invalidYaml (path : String)
  | notAMapping (path kind : String)
  | invalidSettings (path : String) (rejection : Schema.Rejection)
  | typesNotAList (path : String)
  | noDeclarations (path : String)
  | typeNotAMapping (path kind : String)
  | variantsNotAList (typeName kind : String)
  | invalidDeclaration (rejection : Schema.Rejection)
  deriving DecidableEq, Repr, Inhabited

/-- What stands for the reason why a text is not YAML. -/
def yamlReason : String := "<yaml error>"

def ConfigFault.message : ConfigFault → String
  | fileNotFound path => "File not found: " ++ path
  | unreadable path reason => "Cannot read " ++ path ++ ": " ++ reason
  | invalidYaml path => "Invalid YAML in " ++ path ++ ": " ++ yamlReason
  | notAMapping path kind => "Expected a YAML mapping in " ++ path ++ ", got " ++ kind
  | invalidSettings path rejection => "Invalid settings in " ++ path ++ ": " ++ rejection.text
  | typesNotAList path => "'types' in " ++ path ++ " must be a list"
  | noDeclarations path => "No type declarations in " ++ path
  | typeNotAMapping path kind => "Expected a mapping per type in " ++ path ++ ", got " ++ kind
  | variantsNotAList typeName kind =>
    "'variants' of type '" ++ typeName ++ "' must be a list, got " ++ kind
  | invalidDeclaration rejection => "Invalid type declaration: " ++ rejection.text

/-- Why nothing was loaded: a fault to report, or a breakdown. -/
inductive LoadFault where
  | reported (fault : ConfigFault)
  | brokenDown (cause : Breakdown)
  deriving DecidableEq, Repr, Inhabited

end ErrorDerive
