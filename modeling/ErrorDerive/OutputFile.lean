import ErrorDerive.Rust.Item

/-!
# Output files

A generated file before it is written: where it goes, its text, whether it may replace a file that
is there, and the names of the types it was generated for.
-/

namespace ErrorDerive

/-- A file to be written. -/
structure OutputFile where
  path : String
  content : String
  overwrite : Bool := false
  reason : String := ""
  deriving DecidableEq, Repr, Inhabited

/-- Where generated code goes when no path is given. -/
def OutputFile.defaultPath : String := "auto_error.rs"

/-- The file that holds the generated code of several types. -/
def OutputFile.ofGenerations (path : String) (overwrite : Bool) (generations : List Generation) :
    OutputFile where
  path := path
  content := Rust.renderFile generations
  overwrite := overwrite
  reason := commaSeparated (generations.map Generation.typeName)

end ErrorDerive
