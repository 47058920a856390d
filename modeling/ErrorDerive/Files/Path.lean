import ErrorDerive.Text.Segment
import ErrorDerive.Text.Utf8

/-!
# Paths

A path is a row of names that begins at the working folder or at the top. Empty parts and single
dots of its text are dropped when it is read; two dots stay and are followed when the path is
walked. Two slashes at the front, but not three, are kept as a top of their own.
-/

namespace ErrorDerive

/-- Where a path begins. -/
inductive PathStart where
  | here
  | top
  | doubledTop
  deriving DecidableEq, Repr, Inhabited

/-- The slashes at the front of a path. -/
def PathStart.text : PathStart → String
  | here => ""
  | top => "/"
  | doubledTop => "//"

/-- Where a path with the given number of slashes at its front begins. -/
def PathStart.ofSlashes : Nat → PathStart
  | 0 => here
  | 2 => doubledTop
  | _ => top

/-- A path. -/
structure Path where
  start : PathStart := .here
  parts : List String := []
  deriving DecidableEq, Repr, Inhabited

namespace Path

def ofText (text : String) : Path where
  start := .ofSlashes (text.toList.takeWhile (· = '/')).length
  parts := ((Text.cutAtEach '/' text.toList).map String.ofList).filter fun part =>
    part ≠ "" && part ≠ "."

def isAbsolute (path : Path) : Bool :=
  path.start ≠ .here

/-- The text of a path; an empty relative path is a dot. -/
def text (path : Path) : String :=
  if path.isAbsolute || !path.parts.isEmpty then
    path.start.text ++ String.intercalate "/" path.parts
  else "."

/-- The longest text of a path that is followed, in bytes. -/
def longestText : Nat := 4095

def isTooLong (path : Path) : Bool :=
  longestText < Text.byteCount path.text

/-- A path starting from another one, unless it is absolute itself. -/
def join (base path : Path) : Path :=
  if path.isAbsolute then path else ⟨base.start, base.parts ++ path.parts⟩

/-- A name without its last extension. A name that begins or ends with its only dot has none. -/
def stemOf (name : String) : String :=
  let (extension, front) := name.toList.reverse.span (· ≠ '.')
  match front with
  | '.' :: stem =>
    if stem.isEmpty || extension.isEmpty then name else String.ofList stem.reverse
  | _ => name

def stem (path : Path) : String :=
  stemOf (path.parts.getLast?.getD "")

end Path

end ErrorDerive
