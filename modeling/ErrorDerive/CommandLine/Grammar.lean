import ErrorDerive.CommandLine.UsageFault
import ErrorDerive.Text.Segment

/-!
# Options on a command line

Arguments are options or positional. An option has long names, which begin with two dashes, and may
have a short one of a single letter after one dash. It is a flag or takes a value.

* a long option takes its value after an equals sign, or else from the next argument;
* short options may stand together after one dash, and the rest of the argument or else the next
  argument is the value of one that takes a value;
* two dashes alone end the options, and one dash alone is positional.

Options are read from left to right, so of two that set the same thing the later one counts.
-/

namespace ErrorDerive

/-- What an option does to the options read so far. -/
inductive OptionEffect (σ : Type) where
  | flag (set : σ → σ)
  | value (set : String → σ → σ)

/-- An option of a command. -/
structure OptionRule (σ : Type) where
  names : List String
  letter : Option Char := none
  effect : OptionEffect σ

/-- The options of a command, and whether they may stand after positional arguments. -/
structure OptionGrammar (σ : Type) where
  rules : List (OptionRule σ)
  interspersed : Bool := true

/-- What has been read of an option: all of it, or all but its value. -/
inductive OptionReading (σ : Type) where
  | complete (options : σ)
  | awaiting (name : String) (set : String → σ → σ) (options : σ)

namespace OptionGrammar

variable {σ : Type}

/-- The effect of the option with a long name. -/
def named? (grammar : OptionGrammar σ) (name : String) : Option (OptionEffect σ) :=
  (grammar.rules.find? fun rule => rule.names.contains name).map OptionRule.effect

/-- The effect of the option with a letter. -/
def lettered? (grammar : OptionGrammar σ) (letter : Char) : Option (OptionEffect σ) :=
  (grammar.rules.find? fun rule => rule.letter == some letter).map OptionRule.effect

def isOption (argument : String) : Bool :=
  match argument.toList with
  | '-' :: _ :: _ => true
  | _ => false

/-- An argument up to its first equals sign, and what follows the sign. -/
def cutAtEquals (argument : String) : String × Option String :=
  match Text.cutAtFirst? (· = '=') argument.toList with
  | some (name, value) => (String.ofList name, some (String.ofList value))
  | none => (argument, none)

/-- Reads the short options of an argument. -/
def readLetters (grammar : OptionGrammar σ) (options : σ) :
    List Char → Except UsageFault (OptionReading σ)
  | [] => .ok (.complete options)
  | letter :: rest =>
    let name := String.ofList ['-', letter]
    match grammar.lettered? letter with
    | none => .error (.unknownOption name)
    | some (.flag set) => grammar.readLetters (set options) rest
    | some (.value set) =>
      if rest.isEmpty then .ok (.awaiting name set options)
      else .ok (.complete (set (String.ofList rest) options))

/-- Reads an argument that is an option. -/
def readOption (grammar : OptionGrammar σ) (options : σ) (argument : String) :
    Except UsageFault (OptionReading σ) :=
  let (name, value?) := cutAtEquals argument
  match grammar.named? name, value? with
  | some (.flag set), none => .ok (.complete (set options))
  | some (.flag _), some _ => .error (.unexpectedValue name)
  | some (.value set), some value => .ok (.complete (set value options))
  | some (.value set), none => .ok (.awaiting name set options)
  | none, _ =>
    match argument.toList with
    | '-' :: '-' :: _ => .error (.unknownOption name)
    | letters => grammar.readLetters options letters.tail

/-- Reads arguments into options and positional arguments; `seen` has the positional ones so far,
last one first. -/
def readFrom (grammar : OptionGrammar σ) (seen : List String) (options : σ) :
    List String → Except UsageFault (σ × List String)
  | [] => .ok (options, seen.reverse)
  | argument :: rest =>
    if argument = "--" then .ok (options, seen.reverse ++ rest)
    else if isOption argument then
      match grammar.readOption options argument with
      | .error fault => .error fault
      | .ok (.complete read) => grammar.readFrom seen read rest
      | .ok (.awaiting name set read) =>
        match rest with
        | [] => .error (.missingValue name)
        | value :: others => grammar.readFrom seen (set value read) others
    else if grammar.interspersed then grammar.readFrom (argument :: seen) options rest
    else .ok (options, seen.reverse ++ argument :: rest)

def read (grammar : OptionGrammar σ) (standard : σ) (arguments : List String) :
    Except UsageFault (σ × List String) :=
  grammar.readFrom [] standard arguments

end OptionGrammar

end ErrorDerive
