import ErrorDerive.Text.Segment

/-!
# Settings

What decides the defaults of a variant without annotations: which type names count as error types,
how a type reference is compared with them, and what separates the fields of a displayed variant.
-/

namespace ErrorDerive

/-- Which part of a type reference is compared with the names of error types. -/
inductive MatchMode where
  /-- The last segment of the path. -/
  | lastSegment
  /-- The whole path. -/
  | fullPath
  deriving DecidableEq, Repr, Inhabited

def MatchMode.name : MatchMode → String
  | lastSegment => "last_segment"
  | fullPath => "full_path"

/-- Every mode, in the order in which messages list them. -/
def MatchMode.all : List MatchMode := [lastSegment, fullPath]

/-- The settings of a generation. -/
structure Settings where
  errorTypeNames : List String := ["Error"]
  errorMatch : MatchMode := .lastSegment
  fieldDelimiter : String := " "
  deriving DecidableEq, Repr, Inhabited

/-- The mark that stands for one field in a display template. -/
def placeholder : String := "\x7b\x7d"

/-- Whether a delimiter keeps clear of the placeholder, as every accepted delimiter does. -/
def Settings.delimiterIsClear (settings : Settings) : Bool :=
  !Text.contains placeholder settings.fieldDelimiter

end ErrorDerive
