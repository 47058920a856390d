import ErrorDerive.Proofs.CommandLine.Calls
import ErrorDerive.Proofs.Files.OutputWriting
import ErrorDerive.Proofs.Text.Encoding

/-!
# Generating code into a file

A call that generates code and fails changes no file, except where the content cannot be encoded or
the path of the output cannot be printed: then the output has been written, without its content in
the first case.  A call that succeeds changes the output and no other file.
-/

namespace ErrorDerive

/-- An output was asked for. -/
def GenerateOptions.AsksForOutput (choice : GenerateOptions) : Prop :=
  choice.output.getD "" ≠ ""

instance (choice : GenerateOptions) : Decidable choice.AsksForOutput :=
  inferInstanceAs (Decidable (_ ≠ _))

/-- The output of a call, once it is known what is generated. -/
def GenerateOptions.outputOf (choice : GenerateOptions) (generations : List Generation) :
    OutputFile :=
  .ofGenerations (choice.output.getD "") choice.overwrite generations

/-- The types of a declaration file give code. -/
structure Derives (workplace : Workplace) (settings? : Option Path) (path : Path)
    (generations : List Generation) : Prop where
  loaded : ∃ settings declarations, workplace.loadSettings settings? = .ok settings ∧
    workplace.loadDeclarations path = .ok declarations ∧
    List.Forall₂ (fun declaration generation => generate settings declaration = .ok generation)
      declarations generations

/-- The failure comes too late: the content cannot be encoded, or the lines about the output cannot
be printed. -/
def FailsLate (encoding : OutputEncoding) (quiet : Bool) (choice : GenerateOptions)
    (file : OutputFile) : Prop :=
  Text.encode? file.content = none ∨
    choice.json = false ∧ ∃ changed, ¬ Announceable encoding quiet file changed

/-- What a call that generates code comes to, from its status, the tree that it leaves and the text
that it has printed. -/
structure GenerateEffect (workplace : Workplace) (settings? : Option Path) (quiet : Bool)
    (choice : GenerateOptions) (path : Path) (status : Nat) (left : Tree) (printed : String) :
    Prop where
  failure : status ≠ 0 → workplace.tree.SameFiles left ∨
    ∃ generations, Derives workplace settings? path generations ∧ choice.AsksForOutput ∧
      FailsLate workplace.process.encoding quiet choice (choice.outputOf generations) ∧
      (choice.outputOf generations).Holds workplace left (choice.outputOf generations).bytes
  silence : status ≠ 0 → choice.json = false → printed = ""
  unasked : status = 0 → ¬ choice.AsksForOutput → workplace.tree.SameFiles left
  asked : status = 0 → choice.AsksForOutput →
    ∃ generations bytes, Derives workplace settings? path generations ∧
      Text.encode? (Rust.renderFile generations) = some bytes ∧
      (choice.outputOf generations).Holds workplace left bytes

theorem outputOf_eq {choice : GenerateOptions} (asks : choice.AsksForOutput) (path : Path)
    (generations : List Generation) :
    OutputFile.ofGenerations (outputPath path choice.output) choice.overwrite generations =
      choice.outputOf generations := by
  unfold GenerateOptions.AsksForOutput at asks
  unfold GenerateOptions.outputOf outputPath
  cases output : choice.output with
  | none =>
      rw [output] at asks
      exact absurd rfl asks
  | some text =>
      rw [output, Option.getD_some] at asks
      simp only [Option.getD_some, if_neg asks]

theorem GenerationReport.hasCode_ofAll (path : Path) (generations : List Generation)
    (output? : Option String) (overwrite : Bool) :
    (ofAll path generations output? overwrite).HasCode
      (.ofGenerations (outputPath path output?) overwrite generations) :=
  ⟨rfl, rfl⟩

theorem derives_of_succeeds
    {workplace : Workplace} {settings? : Option Path} {path : Path} {settings : Settings}
    {declarations : List TypeDeclaration}
    (settingsLoaded : workplace.loadSettings settings? = .ok settings)
    (declarationsLoaded : workplace.loadDeclarations path = .ok declarations)
    (succeeds : ∀ declaration ∈ declarations, declaration.Succeeds settings) :
    Derives workplace settings? path (declarations.map (TypeDeclaration.generation settings)) := by
  refine ⟨settings, declarations, settingsLoaded, declarationsLoaded, ?_⟩
  refine List.forall₂_map_right_iff.mpr (List.forall₂_same.mpr ?_)
  intro declaration member
  obtain ⟨generation, generated⟩ := succeeds declaration member
  rw [generated, (generation_of_generate generated).2]

namespace Run

variable {workplace : Workplace} {settings? : Option Path} {quiet : Bool} {choice : GenerateOptions}
  {path : Path} {report : GenerationReport} {file : OutputFile}

/-- The command comes to a result, a tree and a text in every session on the same files. -/
def Always (workplace : Workplace) (run : Run Nat) (result : Except EarlyEnd Nat) (tree : Tree)
    (printed : String) : Prop :=
  ∀ now : Session, now.workplace = workplace → now.logging.SparesFiles →
    run.ComesTo now result tree printed

theorem written_of_unasked (unasked : ¬ choice.AsksForOutput) (file : OutputFile) :
    file.written workplace choice.output = (workplace.tree, .ok none) :=
  if_pos (not_not.mp unasked)

theorem always_document (unasked : ¬ choice.AsksForOutput) (json : choice.json = true)
    (success : workplace.generateFrom path settings? choice.output choice.overwrite = .ok report)
    (code : report.HasCode file) :
    Always workplace (generateCommand settings? quiet choice path) (.ok 0) workplace.tree
      ((report.document none).pretty ++ "\n") := by
  intro now same spares
  subst same
  exact comesTo_generateCommand_json spares json success code (written_of_unasked unasked file)

theorem always_content (unasked : ¬ choice.AsksForOutput) (noJson : choice.json = false)
    (success : workplace.generateFrom path settings? choice.output choice.overwrite = .ok report)
    (code : report.HasCode file) (prints : workplace.process.encoding.Prints file.content) :
    Always workplace (generateCommand settings? quiet choice path) (.ok 0) workplace.tree
      (Text.withoutStyling file.content) := by
  intro now same spares
  subst same
  refine comesTo_generateCommand_text spares noJson success code
    (written_of_unasked unasked file) ?_
  intro later uses
  exact comesTo_printProduct_of_content uses prints

theorem always_content_of_unprintable (unasked : ¬ choice.AsksForOutput)
    (noJson : choice.json = false)
    (success : workplace.generateFrom path settings? choice.output choice.overwrite = .ok report)
    (code : report.HasCode file)
    (unprintable : ¬ workplace.process.encoding.Prints file.content) :
    Always workplace (generateCommand settings? quiet choice path)
      (.error (.brokenDown .unencodableText)) workplace.tree "" := by
  intro now same spares
  subst same
  refine comesTo_generateCommand_text spares noJson success code
    (written_of_unasked unasked file) ?_
  intro later uses
  exact comesTo_printProduct_of_unprintable uses unprintable

theorem exists_effect_of_unasked (unasked : ¬ choice.AsksForOutput)
    (success : workplace.generateFrom path settings? choice.output choice.overwrite = .ok report)
    (code : report.HasCode file) :
    ∃ result printed,
      Always workplace (generateCommand settings? quiet choice path) result workplace.tree printed ∧
      GenerateEffect workplace settings? quiet choice path (statusOfResult result) workplace.tree
        printed := by
  have unchanged : workplace.tree.SameFiles workplace.tree := (Tree.Grows.refl _).sameFiles
  have effect : ∀ status printed, (status ≠ 0 → choice.json = false → printed = "") →
      GenerateEffect workplace settings? quiet choice path status workplace.tree printed := by
    intro status printed silence
    exact ⟨fun _ => Or.inl unchanged, silence, fun _ _ => unchanged,
      fun _ asked => absurd asked unasked⟩
  cases json : choice.json with
  | true =>
      exact ⟨.ok 0, _, always_document unasked json success code,
        effect _ _ fun failed => absurd rfl failed⟩
  | false =>
      by_cases prints : workplace.process.encoding.Prints file.content
      · exact ⟨.ok 0, _, always_content unasked json success code prints,
          effect _ _ fun failed => absurd rfl failed⟩
      · exact ⟨_, "", always_content_of_unprintable unasked json success code prints,
          effect _ _ fun _ _ => rfl⟩

/-- The call fails and has changed no file. -/
theorem effect_of_sameFiles {status : Nat} {left : Tree} {printed : String} (failed : status ≠ 0)
    (same : workplace.tree.SameFiles left) (silence : choice.json = false → printed = "") :
    GenerateEffect workplace settings? quiet choice path status left printed where
  failure _ := Or.inl same
  silence _ := silence
  unasked success := absurd success failed
  asked success := absurd success failed

/-- How a call with an output ends, from what writing it comes to. -/
inductive OutputEnd (encoding : OutputEncoding) (quiet json : Bool) (file : OutputFile) :
    Except Breakdown WriteReport → Except EarlyEnd Nat → Prop
  | brokenDown (cause : Breakdown) :
      OutputEnd encoding quiet json file (.error cause) (.error (.brokenDown cause))
  | obstructed (report : WriteReport) : report.obstacle? ≠ none →
      OutputEnd encoding quiet json file (.ok report) (.ok 1)
  | announced (path : String) (changed : Bool) (lines : Option LineCounts) :
      (json = true ∨ Announceable encoding quiet file changed) →
      OutputEnd encoding quiet json file (.ok (.written path changed lines)) (.ok 0)
  | unannounced (path : String) (changed : Bool) (lines : Option LineCounts) :
      json = false → ¬ Announceable encoding quiet file changed →
      OutputEnd encoding quiet json file (.ok (.written path changed lines))
        (.error (.brokenDown .unencodableText))

theorem outputEnd_of_document (encoding : OutputEncoding) (quiet : Bool) (file : OutputFile)
    (report : WriteReport) :
    OutputEnd encoding quiet true file (.ok report)
      (.ok (statusOf ((some report).any fun written => written.obstacle?.isSome))) := by
  cases report with
  | written path changed lines =>
      exact .announced path changed lines (Or.inl rfl)
  | incomplete path | alreadyThere path =>
      exact .obstructed _ (by simp [WriteReport.obstacle?])

theorem exists_outputEnd_of_printProduct (encoding : OutputEncoding) (quiet : Bool)
    (plain : Text.IsPlain file.reason) (report : WriteReport) :
    ∃ result printed,
      (∀ now : Session, now.workplace.process.encoding = encoding →
        (printProduct quiet file (some report)).ComesTo now result now.workplace.tree printed) ∧
      OutputEnd encoding quiet false file (.ok report) result ∧
      (statusOfResult result ≠ 0 → printed = "") := by
  cases report with
  | written path changed lines =>
      by_cases announceable : Announceable encoding quiet file changed
      · exact ⟨.ok 0, _, fun _ uses => comesTo_printProduct_of_announceable uses announceable,
          .announced path changed lines (Or.inr announceable), fun failed => absurd rfl failed⟩
      · exact ⟨_, "",
          fun _ uses => comesTo_printProduct_of_not_announceable uses plain announceable,
          .unannounced path changed lines rfl announceable, fun _ => rfl⟩
  | incomplete path | alreadyThere path =>
      refine ⟨.ok 1, "", fun _ _ => comesTo_printProduct_of_obstacle ?_, .obstructed _ ?_,
        fun _ => rfl⟩
      · exact Option.some_ne_none _
      · exact Option.some_ne_none _

/-- A call with an output leaves the tree that writing leaves, in either mode. -/
theorem exists_always_of_asked (quiet : Bool) (asks : choice.AsksForOutput)
    (plain : Text.IsPlain file.reason)
    (success : workplace.generateFrom path settings? choice.output choice.overwrite = .ok report)
    (code : report.HasCode file) {tree : Tree} {outcome : Except Breakdown WriteReport}
    (wrote : file.write workplace = (tree, outcome)) :
    ∃ result printed,
      Always workplace (generateCommand settings? quiet choice path) result tree printed ∧
      OutputEnd workplace.process.encoding quiet choice.json file outcome result ∧
      (statusOfResult result ≠ 0 → choice.json = false → printed = "") := by
  have written : file.written workplace choice.output = (tree, outcome.map some) := by
    rw [OutputFile.written, wrote]
    exact if_neg asks
  cases outcome with
  | error cause =>
      refine ⟨.error (.brokenDown cause), "", ?_, .brokenDown cause, fun _ _ => rfl⟩
      intro now same spares
      subst same
      exact comesTo_generateCommand_of_writeBreakdown spares success code written
  | ok writeReport =>
      cases json : choice.json with
      | true =>
          refine ⟨_, (report.document (some writeReport)).pretty ++ "\n", ?_,
            outputEnd_of_document _ quiet file writeReport,
            fun _ isText => absurd isText (by decide)⟩
          intro now same spares
          subst same
          exact comesTo_generateCommand_json spares json success code written
      | false =>
          -- The files are as writing left them; only the lines about them may still fail.
          obtain ⟨result, printed, prints, ends, silence⟩ :=
            exists_outputEnd_of_printProduct workplace.process.encoding quiet plain writeReport
          refine ⟨result, printed, ?_, ends, fun failed _ => silence failed⟩
          intro now same spares
          subst same
          exact comesTo_generateCommand_text spares json success code written prints

theorem exists_effect_of_asked {generations : List Generation}
    (asks : choice.AsksForOutput) (derives : Derives workplace settings? path generations)
    (plain : Text.IsPlain (choice.outputOf generations).reason)
    (success : workplace.generateFrom path settings? choice.output choice.overwrite = .ok report)
    (code : report.HasCode (choice.outputOf generations)) :
    ∃ result tree printed,
      Always workplace (generateCommand settings? quiet choice path) result tree printed ∧
      GenerateEffect workplace settings? quiet choice path (statusOfResult result) tree
        printed := by
  rcases wrote : (choice.outputOf generations).write workplace with ⟨tree, outcome⟩
  obtain ⟨result, printed, always, ends, silence⟩ :=
    exists_always_of_asked quiet asks plain success code wrote
  refine ⟨result, tree, printed, always, ?_⟩
  have cases := (choice.outputOf generations).write_cases workplace
  rw [wrote] at cases
  dsimp only at cases
  -- Writing decides what becomes of the files, and the end of the call what its status is: a
  -- success needs a report without an obstacle, which only the second case has.
  rcases cases with ⟨same, obstructed⟩ | ⟨holds, written | ⟨unencodable, failed⟩⟩
  · have failed : statusOfResult result ≠ 0 := by
      cases ends with
      | announced about changed lines _ =>
          exact absurd rfl (obstructed _ rfl)
      | brokenDown cause | obstructed report _ | unannounced about changed lines _ _ =>
          exact Nat.one_ne_zero
    exact effect_of_sameFiles failed same (silence failed)
  · obtain ⟨report, encodable, rfl, done⟩ := written
    obtain ⟨bytes, encoded⟩ := Option.isSome_iff_exists.mp encodable
    have isBytes : (choice.outputOf generations).bytes = bytes := by
      rw [OutputFile.bytes, encoded, Option.getD_some]
    cases ends with
    | obstructed report obstacle =>
        exact absurd done obstacle
    | announced about changed lines _ =>
        refine ⟨fun failed => absurd rfl failed, fun failed => absurd rfl failed,
          fun _ unasked => absurd asks unasked, fun _ _ => ?_⟩
        exact ⟨generations, bytes, derives, encoded, isBytes ▸ holds⟩
    | unannounced about changed lines json silent =>
        exact ⟨fun _ => Or.inr ⟨generations, derives, asks, Or.inr ⟨json, changed, silent⟩, holds⟩,
          silence, fun success => absurd success Nat.one_ne_zero,
          fun success => absurd success Nat.one_ne_zero⟩
  · cases ends with
    | brokenDown cause =>
        exact ⟨fun _ => Or.inr ⟨generations, derives, asks, Or.inl unencodable, holds⟩, silence,
          fun success => absurd success Nat.one_ne_zero,
          fun success => absurd success Nat.one_ne_zero⟩
    | obstructed report _ | announced about changed lines _ | unannounced about changed lines _ _ =>
        cases failed

/-- The command comes to the same in all sessions on the same files, and has the effect stated. -/
theorem exists_generateEffect (workplace : Workplace) (settings? : Option Path) (quiet : Bool)
    (choice : GenerateOptions) (path : Path) :
    ∃ result tree printed,
      Always workplace (generateCommand settings? quiet choice path) result tree printed ∧
      GenerateEffect workplace settings? quiet choice path (statusOfResult result) tree
        printed := by
  have unchanged : workplace.tree.SameFiles workplace.tree := (Tree.Grows.refl _).sameFiles
  cases workplace.yields path settings? with
  | breakdown cause all =>
      refine ⟨.error (.brokenDown cause), workplace.tree, "", ?_,
        effect_of_sameFiles Nat.one_ne_zero unchanged fun _ => rfl⟩
      intro now same spares
      subst same
      exact (gives_generateCommand_of_breakdown spares (all _ _)).comesTo
  | fault fault all =>
      let document := ((GenerationReport.begun path).failed fault).document none
      refine ⟨.ok 1, workplace.tree, if choice.json then document.pretty ++ "\n" else "", ?_,
        effect_of_sameFiles Nat.one_ne_zero unchanged ?_⟩
      · intro now same spares
        subst same
        exact comesTo_generateCommand_of_fault spares (all _ _)
      · intro text
        simp [text]
  | code settings declarations settingsLoaded declarationsLoaded succeeds all =>
      have code := GenerationReport.hasCode_ofAll path
        (declarations.map (TypeDeclaration.generation settings)) choice.output choice.overwrite
      by_cases asks : choice.AsksForOutput
      · have plain := isPlain_reason_ofGenerations succeeds (outputPath path choice.output)
          choice.overwrite
        rw [outputOf_eq asks] at code plain
        exact exists_effect_of_asked asks
          (derives_of_succeeds settingsLoaded declarationsLoaded succeeds) plain (all _ _) code
      · obtain ⟨result, printed, always, effect⟩ := exists_effect_of_unasked asks (all _ _) code
        exact ⟨result, workplace.tree, printed, always, effect⟩

end Run

/-! ## Runs of the program -/

/-- The arguments call the command that generates code, as far as they are understood. -/
def NamesGenerate (arguments : List String) : Prop :=
  ∀ options positional, globalGrammar.read {} arguments = .ok (options, positional) →
    options.question = none ∧ ∃ rest, positional = "generate" :: rest

/-- A run that generates code fails without a trace or too late, and succeeds with the output
written, and with no other file changed. -/
structure GeneratesSafely (session : Session) (environment : Environment)
    (arguments : List String) : Prop where
  failure : (session.run environment arguments).2.status ≠ 0 →
    session.workplace.tree.SameFiles (session.run environment arguments).1.workplace.tree ∨
    ∃ options choice text generations, GenerateCall arguments options choice [text] ∧
      choice.AsksForOutput ∧
      Derives session.workplace (Run.settingsPathOf options) (.ofText text) generations ∧
      FailsLate session.workplace.process.encoding options.quiet choice
        (choice.outputOf generations) ∧
      (choice.outputOf generations).Holds session.workplace
        (session.run environment arguments).1.workplace.tree (choice.outputOf generations).bytes
  silence : (session.run environment arguments).2.status ≠ 0 →
    (session.run environment arguments).1.output = session.output ∨
    ∃ options choice positional, GenerateCall arguments options choice positional ∧
      choice.json = true
  unasked : (session.run environment arguments).2.status = 0 →
    (∀ options choice positional, GenerateCall arguments options choice positional →
      ¬ choice.AsksForOutput) →
    session.workplace.tree.SameFiles (session.run environment arguments).1.workplace.tree
  asked : (session.run environment arguments).2.status = 0 →
    ∀ options choice positional, GenerateCall arguments options choice positional →
      choice.AsksForOutput →
      ∃ text generations bytes, positional = [text] ∧
        Derives session.workplace (Run.settingsPathOf options) (.ofText text) generations ∧
        Text.encode? (Rust.renderFile generations) = some bytes ∧
        (choice.outputOf generations).Holds session.workplace
          (session.run environment arguments).1.workplace.tree bytes

section

variable {session : Session} {environment : Environment} {arguments : List String}

/-- Arguments are understood in one way. -/
theorem GenerateCall.unique {options others : GlobalOptions} {choice other : GenerateOptions}
    {positional named : List String} (call : GenerateCall arguments options choice positional)
    (again : GenerateCall arguments others other named) :
    others = options ∧ other = choice ∧ named = positional := by
  obtain ⟨rest, reads, readsOn⟩ := call.reads
  obtain ⟨rest', reads', readsOn'⟩ := again.reads
  rw [reads] at reads'
  cases reads'
  rw [readsOn] at readsOn'
  cases readsOn'
  exact ⟨rfl, rfl, rfl⟩

theorem generatesSafely_of_failure {status : Nat} (failed : status ≠ 0)
    (ends : session.EndsWith environment arguments status session.workplace.tree "") :
    GeneratesSafely session environment arguments := by
  have failing : (session.run environment arguments).2.status ≠ 0 := by
    rw [ends.status_eq]
    exact failed
  constructor
  · intro _
    left
    rw [ends.workplace_eq]
    exact (Tree.Grows.refl _).sameFiles
  · intro _
    left
    rw [ends.output_eq, String.append_empty]
  · intro success
    exact absurd success failing
  · intro success
    exact absurd success failing

theorem EarlyEnd.status_ne_zero (early : EarlyEnd) : early.status ≠ 0 := by
  cases early with
  | misused fault =>
      exact Nat.succ_ne_zero 1
  | brokenDown cause =>
      exact Nat.one_ne_zero

theorem generatesSafely_of_effect {options : GlobalOptions} {choice : GenerateOptions}
    {text : String} (call : GenerateCall arguments options choice [text]) {status : Nat}
    {tree : Tree} {printed : String}
    (effect : GenerateEffect session.workplace (Run.settingsPathOf options) options.quiet choice
      (.ofText text) status tree printed)
    (ends : session.EndsWith environment arguments status tree printed) :
    GeneratesSafely session environment arguments := by
  have isTree : (session.run environment arguments).1.workplace.tree = tree := by
    rw [ends.workplace_eq]
  constructor
  · rw [ends.status_eq, isTree]
    intro failed
    rcases effect.failure failed with same | ⟨generations, derives, asks, late, holds⟩
    · exact Or.inl same
    · exact Or.inr ⟨options, choice, text, generations, call, asks, derives, late, holds⟩
  · rw [ends.status_eq, ends.output_eq]
    intro failed
    cases json : choice.json with
    | true =>
        exact Or.inr ⟨options, choice, [text], call, json⟩
    | false =>
        left
        rw [effect.silence failed json, String.append_empty]
  · rw [ends.status_eq, isTree]
    intro success unasked
    exact effect.unasked success (unasked options choice [text] call)
  · rw [ends.status_eq, isTree]
    intro success others other named again asked
    obtain ⟨rfl, rfl, rfl⟩ := call.unique again
    obtain ⟨generations, bytes, derives, encoded, holds⟩ := effect.asked success asked
    exact ⟨text, generations, bytes, rfl, derives, encoded, holds⟩

theorem generatesSafely_of_call {options : GlobalOptions} {choice : GenerateOptions}
    {positional : List String} (call : GenerateCall arguments options choice positional)
    (noLogFile : environment.lookup "AUTOERROR_LOG_FILE" = none)
    (possible : options.NamesPossibleFile) : GeneratesSafely session environment arguments := by
  obtain ⟨named, declaredAlike, isPath⟩ := Run.exists_declarationOf positional session.workplace
  have declared : ∀ now : Session, now.workplace = session.workplace →
      (Run.declarationOf positional).Gives now named :=
    fun now same => declaredAlike now (by rw [same])
  cases named with
  | error early =>
      exact generatesSafely_of_failure early.status_ne_zero
        (call.call.endsWith_of_undeclared noLogFile possible declared)
  | ok path =>
      obtain ⟨text, rfl, rfl⟩ := isPath path rfl
      obtain ⟨result, tree, printed, always, effect⟩ := Run.exists_generateEffect session.workplace
        (Run.settingsPathOf options) options.quiet choice (.ofText text)
      exact generatesSafely_of_effect call effect
        (call.call.endsWith noLogFile possible declared always)

/-- Where the arguments after the command are misread or ask for help, no file is changed. -/
theorem generatesSafely_of_noCall {options : GlobalOptions} {rest : List String}
    (noLogFile : environment.lookup "AUTOERROR_LOG_FILE" = none)
    (reads : globalGrammar.read {} arguments = .ok (options, "generate" :: rest))
    (noQuestion : options.question = none) (possible : options.NamesPossibleFile)
    (noCall : ∀ choice positional, ¬ GenerateCall arguments options choice positional) :
    GeneratesSafely session environment arguments := by
  cases readsOn : generateGrammar.read {} rest with
  | error fault =>
      have ends : Run.Always session.workplace (Run.runGenerate options rest)
          (.error (.misused fault)) session.workplace.tree "" := by
        intro now same _
        unfold Run.runGenerate
        rw [readsOn, ← same]
        exact (Run.gives_throw (.misused fault)).bind_error.comesTo
      exact generatesSafely_of_failure (Nat.succ_ne_zero 1)
        (Run.endsWith_of_command noLogFile reads noQuestion possible rfl ends)
  | ok read =>
      obtain ⟨choice, positional⟩ := read
      have help : choice.help = true := by
        by_contra noHelp
        exact noCall choice positional
          ⟨⟨rest, reads, readsOn⟩, noQuestion, eq_false_of_ne_true noHelp⟩
      have answers : Run.Always session.workplace (Run.runGenerate options rest) (.ok 0)
          session.workplace.tree (shownLines usageLines) := by
        intro now same _
        have isHelp : Run.runGenerate options rest = Run.answer .help := by
          unfold Run.runGenerate
          rw [readsOn]
          exact if_pos help
        rw [isHelp, ← same]
        exact Run.comesTo_answer_help
      have ends := Run.endsWith_of_command noLogFile reads noQuestion possible rfl answers
      have success : (session.run environment arguments).2.status = 0 := ends.status_eq
      have otherCall : ∀ others other named, ¬ GenerateCall arguments others other named := by
        intro others other named call
        obtain ⟨rest', reads', _⟩ := call.reads
        rw [reads] at reads'
        cases reads'
        exact noCall other named call
      refine ⟨fun failed => absurd success failed, fun failed => absurd success failed, ?_,
        fun _ others other named call => absurd call (otherCall others other named)⟩
      intro _ _
      rw [ends.workplace_eq]
      exact (Tree.Grows.refl _).sameFiles

/-- A run that generates code without a log file changes no file when it fails, unless it fails too
late, and changes only the output when it succeeds. -/
theorem run_generatesSafely (session : Session)
    (noLogFile : environment.lookup "AUTOERROR_LOG_FILE" = none) (names : NamesGenerate arguments) :
    GeneratesSafely session environment arguments := by
  cases reads : globalGrammar.read {} arguments with
  | error fault =>
      exact generatesSafely_of_failure (by decide) (Run.endsWith_of_misread reads)
  | ok read =>
      obtain ⟨options, positional⟩ := read
      obtain ⟨noQuestion, rest, rfl⟩ := names options positional reads
      by_cases possible : options.NamesPossibleFile
      · by_cases calls : ∃ choice positional, GenerateCall arguments options choice positional
        · obtain ⟨choice, positional, call⟩ := calls
          exact generatesSafely_of_call call noLogFile possible
        · refine generatesSafely_of_noCall noLogFile reads noQuestion possible ?_
          intro choice positional call
          exact calls ⟨choice, positional, call⟩
      · exact generatesSafely_of_failure (by decide)
          (Run.endsWith_of_impossibleFile reads noQuestion possible)

end

/-! ## A text that cannot be encoded -/

/-- A file that declares a text of two surrogates, and an output that is there already. -/
def escapedPair : Workplace where
  tree := ⟨[
    ("e.yml", .file { content := ("name: E\nvariants: [\x7bname: A, " ++
      "annotations: \x7bformat_str: " ++
      "\"\\ud83d\\ude00\"\x7d\x7d]\n").toList.map fun letter => UInt8.ofNat letter.toNat }),
    ("o.rs", .file { content := [0x6F, 0x6C, 0x64] })]⟩
  folder := []

/-- What is generated for the file up to the two surrogates. -/
def beforePair : String :=
  "// @generated by autoerror. Do not edit.\n\nimpl ::std::fmt::Display for E \x7b\n" ++
  ("    fn fmt(&self, f: &mut ::std::fmt::Formatter<'_>) -> ::std::fmt::Result \x7b\n" ++
  "        match self \x7b\n            Self::A => f.write_str(\"")

/-- What is generated for the file after the two surrogates. -/
def afterPair : String :=
  "\"),\n        \x7d\n    \x7d\n\x7d\n\nimpl ::std::error::Error for E \x7b\n" ++
  "    fn source(&self) -> ::std::option::Option<&(dyn ::std::error::Error + 'static)> \x7b\n" ++
  "        match self \x7b\n            Self::A => None,\n        \x7d\n    \x7d\n\x7d\n"

/-- The code that is generated for the file. -/
def pairCode : String :=
  beforePair ++ (Text.ofCodePoints [0xD83D] ++ (Text.ofCodePoints [0xDE00] ++ afterPair))

theorem isPlain_beforePair : Text.IsPlain beforePair := by
  -- Piece by piece, since the time of a check grows faster than the text.
  refine (Text.isOf_append_iff _ _).mpr ⟨?_, (Text.isOf_append_iff _ _).mpr ⟨?_, ?_⟩⟩
  · decide +kernel
  · decide +kernel
  · decide +kernel

theorem encode?_pairCode : Text.encode? pairCode = none := by
  rw [Text.encode?_eq_none_iff, pairCode]
  exact isPlain_beforePair.holdsSurrogate_append rfl _

theorem not_prints_pairCode : ¬ OutputEncoding.unicode.Prints pairCode := by
  rw [OutputEncoding.unicode_prints_iff, pairCode, isPlain_beforePair.withoutStyling_append rfl,
    isPlain_beforePair.holdsSurrogate_append rfl]
  decide

theorem exists_declarations_escapedPair :
    ∃ declarations, escapedPair.loadDeclarations (.ofText "e.yml") = .ok declarations ∧
      (∀ declaration ∈ declarations, declaration.Succeeds {}) ∧
      Rust.renderFile (declarations.map (TypeDeclaration.generation {})) = pairCode := by
  have evaluated : ((escapedPair.loadDeclarations (.ofText "e.yml")).toOption.map
      fun declarations => (generateAll {} declarations).toOption.map Rust.renderFile) =
      some (some pairCode) := by
    decide +kernel
  cases loaded : escapedPair.loadDeclarations (.ofText "e.yml") with
  | error fault =>
      rw [loaded] at evaluated
      cases evaluated
  | ok declarations =>
      rw [loaded] at evaluated
      have rendered : (generateAll {} declarations).toOption.map Rust.renderFile =
          some pairCode :=
        Option.some.inj evaluated
      cases generated : generateAll {} declarations with
      | error fault =>
          rw [generated] at rendered
          cases rendered
      | ok generations =>
          rw [generated] at rendered
          obtain ⟨succeeds, rfl⟩ := (judges_generateAll {} declarations).eq_ok_iff.mp generated
          exact ⟨declarations, rfl, succeeds, Option.some.inj rendered⟩

theorem write_escapedPair {file : OutputFile} (path : file.path = "o.rs")
    (overwrite : file.overwrite = true) (unencodable : Text.encode? file.content = none) :
    ∃ left, left.file? ["o.rs"] = some { content := [] } ∧
      file.write escapedPair = (left, .error .unencodableText) := by
  have complete : file.content ≠ "" := by
    intro empty
    rw [empty] at unencodable
    cases unencodable
  have target : file.target escapedPair.folder = ⟨.top, ["o.rs"]⟩ := by
    rw [OutputFile.target, path]
    decide
  have standing : escapedPair.status ⟨.top, ["o.rs"]⟩ =
      .ok (some (.file { content := [0x6F, 0x6C, 0x64] })) := by
    rfl
  have passes : file.obstacle? escapedPair = .ok none := by
    rw [OutputFile.obstacle?, target, standing, if_neg (by simp [path, complete])]
    exact congrArg (fun replaced => Except.ok (if replaced = true then none else _)) overwrite
  have previous : file.previousText? escapedPair = .ok (some "old") := by
    rw [OutputFile.previousText?, target, standing]
    decide
  have placed : file.place escapedPair =
      (escapedPair.tree.put ["o.rs"] (.file { content := [] }), .error .unencodableText) := by
    rw [OutputFile.place, target, unencodable]
    rfl
  refine ⟨_, ?_, by rw [OutputFile.write, passes, previous, placed]⟩
  decide

/-- Where the output goes makes no difference to the code. -/
theorem exists_report_escapedPair (choice : GenerateOptions) :
    ∃ generations report file,
      escapedPair.generateFrom (.ofText "e.yml") none choice.output choice.overwrite =
        .ok report ∧
      report.HasCode file ∧ file.content = pairCode ∧ Text.IsPlain file.reason ∧
      (choice.AsksForOutput → file = choice.outputOf generations) := by
  obtain ⟨declarations, loaded, succeeds, rendered⟩ := exists_declarations_escapedPair
  have settingsLoaded : escapedPair.loadSettings none = .ok {} := by
    rfl
  have success := generateFrom_of_loaded settingsLoaded loaded choice.output choice.overwrite
  rw [reportOn_of_succeeds succeeds] at success
  exact ⟨_, _, _, success, GenerationReport.hasCode_ofAll _ _ _ _, rendered,
    isPlain_reason_ofGenerations succeeds _ _, fun asks => outputOf_eq asks _ _⟩

theorem endsWith_escapedPair {arguments : List String} {onward : Path → Run Nat}
    (call : Call arguments {} ["e.yml"] onward) {result : Except EarlyEnd Nat} {tree : Tree}
    {printed : String}
    (always : Run.Always escapedPair (onward (.ofText "e.yml")) result tree printed) :
    Session.EndsWith { workplace := escapedPair } [] arguments (statusOfResult result) tree
      printed := by
  refine call.endsWith rfl (by decide) ?_ always
  intro now same
  refine Run.gives_declarationOf (by decide) ?_ []
  rw [same]
  rfl

/-- The arguments that ask for the output to be replaced. -/
def replacing : List String :=
  ["generate", "e.yml", "-o", "o.rs", "--overwrite"]

theorem generateCall_replacing :
    GenerateCall replacing {} { output := some "o.rs", overwrite := true } ["e.yml"] where
  reads := ⟨["e.yml", "-o", "o.rs", "--overwrite"], rfl, rfl⟩
  noQuestion := rfl
  noHelp := rfl

/-- The run fails, and the output that was there has lost its content. -/
theorem failed_run_empties_output :
    escapedPair.tree.file? ["o.rs"] = some { content := [0x6F, 0x6C, 0x64] } ∧
      (Session.run { workplace := escapedPair } [] replacing).2.status = 1 ∧
      (Session.run { workplace := escapedPair } [] replacing).1.workplace.tree.file? ["o.rs"] =
        some { content := [] } := by
  obtain ⟨generations, report, file, success, code, content, plain, isOutput⟩ :=
    exists_report_escapedPair { output := some "o.rs", overwrite := true }
  have asks : GenerateOptions.AsksForOutput { output := some "o.rs", overwrite := true } := by
    decide
  have unencodable : Text.encode? file.content = none := by
    rw [content, encode?_pairCode]
  obtain ⟨left, emptied, wrote⟩ := write_escapedPair (by rw [isOutput asks]; rfl)
    (by rw [isOutput asks]; rfl) unencodable
  obtain ⟨result, printed, always, ends, _⟩ :=
    Run.exists_always_of_asked false asks plain success code wrote
  have ran := endsWith_escapedPair generateCall_replacing.call always
  cases ends
  refine ⟨rfl, ran.status_eq, ?_⟩
  rw [ran.workplace_eq]
  exact emptied

theorem generatesSafely_escapedPair :
    List.lookup "AUTOERROR_LOG_FILE" ([] : Environment) = none ∧ NamesGenerate replacing ∧
      GeneratesSafely { workplace := escapedPair } [] replacing := by
  have names : NamesGenerate replacing := by
    intro options positional reads
    cases reads
    exact ⟨rfl, _, rfl⟩
  exact ⟨rfl, names, run_generatesSafely _ rfl names⟩

end ErrorDerive
