import ErrorDerive.CommandLine.Program
import ErrorDerive.Proofs.CommandLine.Commands

/-!
# Calls of a command

From the arguments of the program to the command that they call.  Without a log file in the
environment, a command runs in a session whose records go to the error output only.
-/

namespace ErrorDerive

/-- A run of the program ends with a status, leaves a tree and has printed a text. -/
structure Session.EndsWith (session : Session) (environment : Environment)
    (arguments : List String) (status : Nat) (tree : Tree) (printed : String) : Prop where
  status_eq : (session.run environment arguments).2.status = status
  workplace_eq :
    (session.run environment arguments).1.workplace = { session.workplace with tree }
  output_eq : (session.run environment arguments).1.output = session.output ++ printed

/-- The status of a run that ends with a result. -/
def statusOfResult : Except EarlyEnd Nat → Nat
  | .ok status => status
  | .error early => early.status

/-- The arguments call the command that generates code, and ask no question. -/
structure GenerateCall (arguments : List String) (options : GlobalOptions)
    (choice : GenerateOptions) (positional : List String) : Prop where
  reads : ∃ rest, globalGrammar.read {} arguments = .ok (options, "generate" :: rest) ∧
    generateGrammar.read {} rest = .ok (choice, positional)
  noQuestion : options.question = none
  noHelp : choice.help = false

/-- The arguments call the command that shows decisions, and ask no question. -/
structure ResolveCall (arguments : List String) (options : GlobalOptions)
    (choice : ShowOptions) (positional : List String) : Prop where
  reads : ∃ rest, globalGrammar.read {} arguments = .ok (options, "resolve" :: rest) ∧
    showGrammar.read {} rest = .ok (choice, positional)
  noQuestion : options.question = none
  noHelp : choice.help = false

/-- The path of the settings, if the options name one, is a path that a file can have. -/
def GlobalOptions.NamesPossibleFile (options : GlobalOptions) : Prop :=
  ∀ path, options.config = some path → namesFault? [path] = none

instance (options : GlobalOptions) : Decidable options.NamesPossibleFile :=
  match named : options.config with
  | none => .isTrue (by simp [GlobalOptions.NamesPossibleFile, named])
  | some path =>
    decidable_of_iff (namesFault? [path] = none) (by simp [GlobalOptions.NamesPossibleFile, named])

namespace Run

variable {session : Session}

theorem endsWith_of_eq {environment : Environment} {arguments : List String}
    {result : Except EarlyEnd Nat} {left : Session} {tree : Tree} {printed : String}
    (ran : program environment arguments session = ending result left)
    (inTree : left.workplace = { session.workplace with tree })
    (output : left.output = session.output ++ printed) :
    session.EndsWith environment arguments (statusOfResult result) tree printed := by
  cases result with
  | ok status =>
      have run : session.run environment arguments = (left, { status }) := by
        rw [Session.run, ran]
        rfl
      exact ⟨by rw [run]; rfl, by rw [run]; exact inTree, by rw [run]; exact output⟩
  | error early =>
      have run : session.run environment arguments =
          (left, { status := early.status, early := some early }) := by
        rw [Session.run, ran]
        rfl
      exact ⟨by rw [run]; rfl, by rw [run]; exact inTree, by rw [run]; exact output⟩

theorem endsWith_of_gives {environment : Environment} {arguments : List String}
    {result : Except EarlyEnd Nat} (gives : (program environment arguments).Gives session result) :
    session.EndsWith environment arguments (statusOfResult result) session.workplace.tree "" := by
  obtain ⟨errors, ran⟩ := gives
  exact endsWith_of_eq ran rfl (String.append_empty).symm

/-! ## Before the command -/

theorem endsWith_of_misread {environment : Environment} {arguments : List String}
    {fault : UsageFault} (misread : globalGrammar.read {} arguments = .error fault) :
    session.EndsWith environment arguments 2 session.workplace.tree "" := by
  have gives : (program environment arguments).Gives session (.error (.misused fault)) := by
    unfold program readGlobal
    rw [misread]
    exact ⟨session.errorOutput, rfl⟩
  exact endsWith_of_gives gives

theorem gives_requirePossible {path : String} (possible : namesFault? [path] = none) :
    (requirePossible path).Gives session (.ok ()) := by
  unfold requirePossible
  rw [possible]
  exact gives_pure ()

theorem gives_requirePossible_of_fault {path : String} {fault : Breakdown}
    (faulty : namesFault? [path] = some fault) :
    (requirePossible path).Gives session (.error (.brokenDown fault)) := by
  unfold requirePossible
  rw [faulty]
  exact gives_throw _

theorem gives_orMisuse {α : Type} (result : α) :
    (orMisuse (.ok result)).Gives session (.ok result) :=
  gives_pure result

section

variable {arguments positional : List String} {options : GlobalOptions}

theorem gives_readGlobal (reads : globalGrammar.read {} arguments = .ok (options, positional))
    (noQuestion : options.question = none) (possible : options.NamesPossibleFile) :
    (readGlobal arguments).Gives session (.ok (none, options, positional)) := by
  unfold readGlobal
  rw [reads]
  refine (gives_orMisuse (options, positional)).bind fun _ => ?_
  dsimp only
  rw [noQuestion]
  dsimp only [Option.isNone_none]
  rw [if_pos rfl]
  cases config : options.config with
  | none =>
      exact (gives_pure ()).bind fun _ => gives_pure _
  | some path =>
      exact (gives_requirePossible (possible path config)).bind fun _ => gives_pure _

theorem gives_readGlobal_of_impossible
    (reads : globalGrammar.read {} arguments = .ok (options, positional))
    (noQuestion : options.question = none) (impossible : ¬ options.NamesPossibleFile) :
    ∃ fault, (readGlobal arguments).Gives session (.error (.brokenDown fault)) := by
  simp only [GlobalOptions.NamesPossibleFile, not_forall] at impossible
  obtain ⟨path, config, impossible⟩ := impossible
  obtain ⟨fault, faulty⟩ := Option.ne_none_iff_exists'.mp impossible
  refine ⟨fault, ?_⟩
  unfold readGlobal
  rw [reads]
  refine (gives_orMisuse (options, positional)).bind fun _ => ?_
  dsimp only
  rw [noQuestion, config]
  dsimp only [Option.isNone_none]
  rw [if_pos rfl]
  exact (gives_requirePossible_of_fault faulty).bind_error

end

/-! ## Logging -/

theorem exists_level_of_text (name : String) :
    ∃ level, LogLevel.ofChoice (.text name) = .ok level := by
  unfold LogLevel.ofChoice
  split
  · exact ⟨_, rfl⟩
  · exact ⟨_, rfl⟩

theorem exists_level_logChoiceOf (options : GlobalOptions) (environment : Environment) :
    ∃ level, LogLevel.ofChoice (logChoiceOf options environment).level = .ok level := by
  unfold logChoiceOf
  dsimp only
  split
  · exact exists_level_of_text _
  · split
    · exact exists_level_of_text _
    · split
      · exact exists_level_of_text _
      · exact exists_level_of_text _

/-- Without a log file, records go to the error output only. -/
theorem setUpLogging_of_noFile {environment : Environment}
    (noLogFile : environment.lookup "AUTOERROR_LOG_FILE" = none) (options : GlobalOptions)
    (session : Session) :
    ∃ logging : Logging, logging.SparesFiles ∧
      setUpLogging (logChoiceOf options environment) session = .ok () { session with logging } := by
  obtain ⟨level, chosen⟩ := exists_level_logChoiceOf options environment
  have noFile : (logChoiceOf options environment).file.isHollow = true := by
    simp only [logChoiceOf, noLogFile]
    rfl
  refine ⟨{ handlers := [.console level], level }, ?_, ?_⟩
  · intro handler member location isFile
    have isConsole : handler = .console level := List.mem_singleton.mp member
    rw [isConsole] at isFile
    cases isFile
  · unfold setUpLogging
    rw [chosen]
    simp only [noFile, if_true]
    rfl

/-! ## From the arguments to the command -/

theorem endsWith_of_impossibleFile {environment : Environment} {arguments positional : List String}
    {options : GlobalOptions}
    (reads : globalGrammar.read {} arguments = .ok (options, positional))
    (noQuestion : options.question = none) (impossible : ¬ options.NamesPossibleFile) :
    session.EndsWith environment arguments 1 session.workplace.tree "" := by
  have reads : ∃ fault, (readGlobal arguments).Gives session (.error (.brokenDown fault)) :=
    gives_readGlobal_of_impossible reads noQuestion impossible
  obtain ⟨fault, reads⟩ := reads
  exact endsWith_of_gives reads.bind_error

/-- Where a command is called, the run ends as the command does. -/
theorem endsWith_of_command {environment : Environment}
    (noLogFile : environment.lookup "AUTOERROR_LOG_FILE" = none) {arguments rest : List String}
    {options : GlobalOptions} {name : String}
    (reads : globalGrammar.read {} arguments = .ok (options, name :: rest))
    (noQuestion : options.question = none) (possible : options.NamesPossibleFile)
    {command : GlobalOptions → List String → Run Nat} (isCommand : command? name = some command)
    {result : Except EarlyEnd Nat} {tree : Tree} {printed : String}
    (runs : ∀ now : Session, now.workplace = session.workplace → now.logging.SparesFiles →
      (command options rest).ComesTo now result tree printed) :
    session.EndsWith environment arguments (statusOfResult result) tree printed := by
  have read : (readGlobal arguments).Gives session _ :=
    gives_readGlobal reads noQuestion possible
  obtain ⟨errors, read⟩ := read
  obtain ⟨logging, spares, setUp⟩ :=
    setUpLogging_of_noFile noLogFile options (session.withErrors errors)
  obtain ⟨others, ran⟩ := runs { session.withErrors errors with logging } rfl spares
  have whole : program environment arguments session =
      command options rest { session.withErrors errors with logging } := by
    unfold program
    rw [bind_eq_of_ok read]
    dsimp only
    rw [isCommand]
    exact bind_eq_of_ok setUp
  exact endsWith_of_eq (whole.trans ran) rfl rfl

/-! ## The declaration file -/

theorem gives_requireNoMore (more : List String) :
    (requireNoMore more).Gives session
      (match more with
        | [] => .ok ()
        | argument :: _ => .error (.misused (.extraArgument argument))) := by
  cases more with
  | nil =>
      exact gives_pure ()
  | cons argument rest =>
      exact gives_throw _

/-- The path that is named, unless more is named than one. -/
def soleDeclaration (text : String) : List String → Except EarlyEnd Path
  | [] => .ok (Path.ofText text)
  | argument :: _ => .error (.misused (.extraArgument argument))

/-- A path that a file can have is taken unless a folder stands there, or a file that may not be
read. -/
theorem gives_declarationOf {text : String} (possible : namesFault? [text] = none)
    (faultless : declarationFault? session.workplace text = none) (more : List String) :
    (declarationOf (text :: more)).Gives session (soleDeclaration text more) := by
  unfold declarationOf
  refine (gives_requirePossible possible).bind fun _ => gives_workplace.bind fun _ => ?_
  rw [Session.workplace_withErrors, faultless]
  cases more with
  | nil =>
      exact (gives_requireNoMore []).bind fun _ => gives_pure _
  | cons argument others =>
      exact (gives_requireNoMore (argument :: others)).bind_error

theorem gives_declarationOf_of_fault {text : String} (possible : namesFault? [text] = none)
    {fault : UsageFault} (faulty : declarationFault? session.workplace text = some fault)
    (more : List String) :
    (declarationOf (text :: more)).Gives session (.error (.misused fault)) := by
  unfold declarationOf
  refine (gives_requirePossible possible).bind fun _ => gives_workplace.bind fun _ => ?_
  rw [Session.workplace_withErrors, faulty]
  exact gives_throw _

/-- What positional arguments name depends only on what may be a declaration file, and is the one
path among them. -/
theorem exists_declarationOf (positional : List String) (place : Workplace) :
    ∃ result : Except EarlyEnd Path,
      (∀ session : Session, declarationFault? session.workplace = declarationFault? place →
        (declarationOf positional).Gives session result) ∧
      ∀ path, result = .ok path → ∃ text, positional = [text] ∧ path = Path.ofText text := by
  cases positional with
  | nil =>
      exact ⟨.error (.misused .missingDeclaration), fun _ _ => gives_throw _, nofun⟩
  | cons text more =>
      cases possible : namesFault? [text] with
      | some fault =>
          refine ⟨.error (.brokenDown fault), ?_, nofun⟩
          intro session _
          exact (gives_requirePossible_of_fault possible).bind_error
      | none =>
          cases faulty : declarationFault? place text with
          | some fault =>
              refine ⟨.error (.misused fault), ?_, nofun⟩
              intro session same
              rw [← same] at faulty
              exact gives_declarationOf_of_fault possible faulty more
          | none =>
              refine ⟨soleDeclaration text more, ?_, ?_⟩
              · intro session same
                rw [← same] at faulty
                exact gives_declarationOf possible faulty more
              · intro path isPath
                cases more with
                | nil =>
                    exact ⟨text, rfl, (Except.ok.inj isPath).symm⟩
                | cons argument others =>
                    cases isPath

theorem comesTo_answer_help :
    (answer .help).ComesTo session (.ok 0) session.workplace.tree (shownLines usageLines) := by
  have ascii : usageLines.all (fun line => decide (Text.IsAscii (line ++ "\n"))) = true := by
    decide +kernel
  have prints : session.workplace.process.encoding.PrintsLines usageLines := by
    intro line member
    have asciiLine := of_decide_eq_true (List.all_eq_true.mp ascii line member)
    exact OutputEncoding.prints_of_isAscii _ asciiLine
  exact (comesTo_printLines rfl prints).bind_gives fun _ => gives_pure 0

end Run

/-! ## Calls -/

/-- The arguments call a command that goes on with the path of a declaration file. -/
structure Call (arguments : List String) (options : GlobalOptions) (positional : List String)
    (onward : Path → Run Nat) : Prop where
  reads : ∃ name rest command, globalGrammar.read {} arguments = .ok (options, name :: rest) ∧
    Run.command? name = some command ∧
    command options rest = (Run.declarationOf positional >>= onward)
  noQuestion : options.question = none

theorem GenerateCall.call {arguments positional : List String} {options : GlobalOptions}
    {choice : GenerateOptions} (calls : GenerateCall arguments options choice positional) :
    Call arguments options positional
      (Run.generateCommand (Run.settingsPathOf options) options.quiet choice) := by
  obtain ⟨rest, reads, readsOn⟩ := calls.reads
  refine ⟨⟨"generate", rest, Run.runGenerate, reads, rfl, ?_⟩, calls.noQuestion⟩
  have onward : Run.runGenerate options rest =
      if choice.help then Run.answer .help
      else Run.declarationOf positional >>=
        Run.generateCommand (Run.settingsPathOf options) options.quiet choice := by
    unfold Run.runGenerate
    rw [readsOn]
    rfl
  rw [onward, if_neg (by simp [calls.noHelp])]

theorem ResolveCall.call {arguments positional : List String} {options : GlobalOptions}
    {choice : ShowOptions} (calls : ResolveCall arguments options choice positional) :
    Call arguments options positional
      (Run.resolveCommand (Run.settingsPathOf options) choice) := by
  obtain ⟨rest, reads, readsOn⟩ := calls.reads
  refine ⟨⟨"resolve", rest, Run.runResolve, reads, rfl, ?_⟩, calls.noQuestion⟩
  have onward : Run.runResolve options rest =
      if choice.help then Run.answer .help
      else Run.declarationOf positional >>=
        Run.resolveCommand (Run.settingsPathOf options) choice := by
    unfold Run.runResolve
    rw [readsOn]
    rfl
  rw [onward, if_neg (by simp [calls.noHelp])]

namespace Call

variable {session : Session} {environment : Environment} {arguments positional : List String}
  {options : GlobalOptions} {onward : Path → Run Nat}

theorem endsWith_of_impossibleFile (call : Call arguments options positional onward)
    (impossible : ¬ options.NamesPossibleFile) :
    session.EndsWith environment arguments 1 session.workplace.tree "" := by
  obtain ⟨name, rest, command, reads, _⟩ := call.reads
  exact Run.endsWith_of_impossibleFile reads call.noQuestion impossible

theorem endsWith_of_undeclared (call : Call arguments options positional onward)
    (noLogFile : environment.lookup "AUTOERROR_LOG_FILE" = none)
    (possible : options.NamesPossibleFile) {early : EarlyEnd}
    (undeclared : ∀ now : Session, now.workplace = session.workplace →
      (Run.declarationOf positional).Gives now (.error early)) :
    session.EndsWith environment arguments early.status session.workplace.tree "" := by
  obtain ⟨name, rest, command, reads, isCommand, goesOn⟩ := call.reads
  have ends : ∀ now : Session, now.workplace = session.workplace → now.logging.SparesFiles →
      (command options rest).ComesTo now (.error early) session.workplace.tree "" := by
    intro now same _
    rw [goesOn, ← same]
    exact (undeclared now same).bind_error.comesTo
  exact Run.endsWith_of_command noLogFile reads call.noQuestion possible isCommand ends

theorem endsWith (call : Call arguments options positional onward)
    (noLogFile : environment.lookup "AUTOERROR_LOG_FILE" = none)
    (possible : options.NamesPossibleFile) {path : Path}
    (declared : ∀ now : Session, now.workplace = session.workplace →
      (Run.declarationOf positional).Gives now (.ok path))
    {result : Except EarlyEnd Nat} {tree : Tree} {printed : String}
    (runs : ∀ now : Session, now.workplace = session.workplace → now.logging.SparesFiles →
      (onward path).ComesTo now result tree printed) :
    session.EndsWith environment arguments (statusOfResult result) tree printed := by
  obtain ⟨name, rest, command, reads, isCommand, goesOn⟩ := call.reads
  refine Run.endsWith_of_command noLogFile reads call.noQuestion possible isCommand ?_
  intro now same spares
  rw [goesOn]
  exact (declared now same).bind_comesTo fun _ => runs _ same spares

end Call

end ErrorDerive
