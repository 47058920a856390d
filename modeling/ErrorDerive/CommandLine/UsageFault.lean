/-!
# Usage faults

Why a command line is not understood.
-/

namespace ErrorDerive

/-- Why a command line is not understood. -/
inductive UsageFault where
  | unknownOption (name : String)
  | unexpectedValue (option : String)
  | missingValue (option : String)
  | missingCommand
  | unknownCommand (name : String)
  | missingDeclaration
  | extraArgument (argument : String)
  | folderAsDeclaration (path : String)
  | unreadableDeclaration (path : String)
  deriving DecidableEq, Repr, Inhabited

def UsageFault.message : UsageFault → String
  | unknownOption name => "No such option: " ++ name
  | unexpectedValue option => "Option '" ++ option ++ "' does not take a value."
  | missingValue option => "Option '" ++ option ++ "' requires an argument."
  | missingCommand => "Missing command."
  | unknownCommand name => "No such command '" ++ name ++ "'."
  | missingDeclaration => "Missing argument 'DECLARATION'."
  | extraArgument argument => "Got unexpected extra argument (" ++ argument ++ ")"
  | folderAsDeclaration path =>
    "Invalid value for 'DECLARATION': File '" ++ path ++ "' is a directory."
  | unreadableDeclaration path =>
    "Invalid value for 'DECLARATION': File '" ++ path ++ "' is not readable."

end ErrorDerive
