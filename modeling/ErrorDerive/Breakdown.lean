/-!
# Breakdowns

Inputs that end a run without a report of its own. Each cause is named for what the input holds.
-/

namespace ErrorDerive

/-- Why the file system refuses an operation. -/
inductive FileRefusal where
  | notFound
  | notAFolder
  | isAFolder
  | alreadyThere
  | nameTooLong
  | searchDenied
  deriving DecidableEq, Repr, Inhabited

/-- Why a run ends without a report. -/
inductive Breakdown where
  /-- A file that is read as text is not UTF-8. -/
  | undecodableBytes
  /-- A text that is to be printed, written or used as a path holds a character without bytes. -/
  | unencodableText
  /-- A number, date, character or path that does not exist. -/
  | impossibleValue
  /-- A value tagged as a truth value is no word for one. -/
  | unknownTruthWord
  /-- A value tagged as a number has no digits at all. -/
  | emptyNumeral
  /-- A value tagged as a time does not have the form of one. -/
  | shapelessTime
  /-- A value tagged as a time is a mapping, not a text. -/
  | timeNotText
  /-- A code point or a factor does not fit the machine's numbers. -/
  | oversizedNumber
  /-- Parts stand inside one another without end, or too deep to be followed. -/
  | endlessDescent
  /-- Keys of several kinds were to be put in order or joined as texts. -/
  | mixedKeys
  /-- The name of a log level is not a text. -/
  | levelNotText
  /-- The path of a log file is not a text. -/
  | pathNotText
  /-- The file system refuses an operation. -/
  | files (refusal : FileRefusal)
  deriving DecidableEq, Repr, Inhabited

def FileRefusal.message : FileRefusal → String
  | notFound => "no such file or folder"
  | notAFolder => "not a folder"
  | isAFolder => "is a folder"
  | alreadyThere => "something is there already"
  | nameTooLong => "name too long"
  | searchDenied => "a folder may not be searched"

def Breakdown.message : Breakdown → String
  | undecodableBytes => "a file is not UTF-8"
  | unencodableText => "a text holds half a character"
  | impossibleValue => "a number, date, character or path does not exist"
  | unknownTruthWord => "a truth value is not spelled like one"
  | emptyNumeral => "a number has no digits"
  | shapelessTime => "a time is not spelled like one"
  | timeNotText => "a time is a mapping"
  | oversizedNumber => "a number does not fit the machine"
  | endlessDescent => "parts stand inside one another too deep"
  | mixedKeys => "keys are of several kinds"
  | levelNotText => "a log level is not a text"
  | pathNotText => "the path of a log file is not a text"
  | files refusal => refusal.message

end ErrorDerive
