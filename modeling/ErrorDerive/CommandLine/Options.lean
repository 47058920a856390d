import ErrorDerive.CommandLine.Grammar

/-!
# The options of the program

The options that stand before a command, and those of each command.
-/

namespace ErrorDerive

/-- What may be asked for instead of a command. -/
inductive Question where
  | version
  | help
  deriving DecidableEq, Repr, Inhabited

/-- The options before a command. The first question counts. -/
structure GlobalOptions where
  verbose : Bool := false
  quiet : Bool := false
  debug : Bool := false
  config : Option String := none
  question : Option Question := none
  deriving DecidableEq, Repr, Inhabited

/-- The options of the command that generates code. -/
structure GenerateOptions where
  output : Option String := none
  overwrite : Bool := false
  json : Bool := false
  help : Bool := false
  deriving DecidableEq, Repr, Inhabited

/-- The options of a command that shows something. -/
structure ShowOptions where
  json : Bool := false
  help : Bool := false
  deriving DecidableEq, Repr, Inhabited

/-- Notes a question unless there is one already. -/
def GlobalOptions.ask (question : Question) (options : GlobalOptions) : GlobalOptions :=
  { options with question := options.question.or (some question) }

def globalGrammar : OptionGrammar GlobalOptions where
  interspersed := false
  rules := [
    ⟨["--version"], none, .flag (.ask .version)⟩,
    ⟨["--verbose"], some 'v', .flag fun options => { options with verbose := true }⟩,
    ⟨["--quiet"], some 'q', .flag fun options => { options with quiet := true }⟩,
    ⟨["--debug"], none, .flag fun options => { options with debug := true }⟩,
    ⟨["--config"], some 'c', .value fun path options => { options with config := some path }⟩,
    ⟨["--help"], none, .flag (.ask .help)⟩]

def generateGrammar : OptionGrammar GenerateOptions where
  rules := [
    ⟨["--output"], some 'o', .value fun path options => { options with output := some path }⟩,
    ⟨["--overwrite"], none, .flag fun options => { options with overwrite := true }⟩,
    ⟨["--json-output", "--json"], none, .flag fun options => { options with json := true }⟩,
    ⟨["--help"], none, .flag fun options => { options with help := true }⟩]

def showGrammar : OptionGrammar ShowOptions where
  rules := [
    ⟨["--json-output", "--json"], none, .flag fun options => { options with json := true }⟩,
    ⟨["--help"], none, .flag fun options => { options with help := true }⟩]

/-- The options before a command of the group about settings: nothing but help. -/
def groupGrammar : OptionGrammar Bool where
  interspersed := false
  rules := [⟨["--help"], none, .flag fun _ => true⟩]

end ErrorDerive
