import ErrorDerive.Breakdown

/-!
# Tokens

The marks and scalars that a YAML text consists of, once its indentation has been turned into
marks of its own.
-/

namespace ErrorDerive.Yaml

/-- Why a text cannot be read. -/
inductive Fault where
  /-- The text is not YAML. -/
  | malformed
  /-- The text is YAML, but holds something that does not exist. -/
  | broken (cause : Breakdown)
  deriving DecidableEq, Repr, Inhabited

/-- What a directive line sets. -/
inductive Directive where
  | version (major : Nat)
  | tagHandle (handle meaning : String)
  | unknown
  deriving DecidableEq, Repr, Inhabited

/-- A token of a text. -/
inductive Token where
  | directive (directive : Directive)
  | documentStart
  | documentEnd
  | blockSequenceStart
  | blockMappingStart
  | blockEnd
  | flowSequenceStart
  | flowMappingStart
  | flowSequenceEnd
  | flowMappingEnd
  | blockEntry
  | flowEntry
  | key
  | value
  | alias (name : String)
  | anchor (name : String)
  | tag (handle : Option String) (suffix : String)
  | scalar (content : String) (plain : Bool)
  | streamEnd
  deriving DecidableEq, Repr, Inhabited

end ErrorDerive.Yaml
