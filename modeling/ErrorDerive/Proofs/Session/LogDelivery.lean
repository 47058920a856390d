import ErrorDerive.Proofs.Files.FileWriting
import ErrorDerive.Proofs.Files.Lookup
import ErrorDerive.Proofs.Session.Outcomes
import ErrorDerive.Session.LogSetup
import Mathlib.Order.MinMax

/-!
# Where records go

A setup of logging that returns replaces every handler before it, so records go where the latest
setup asks for, whatever was set up and logged before.

* `LogTargets` is what a setup asks for: a level for the error output, and a log file with a level
  of its own if there is one;
* `Session.Serves` says that a session sends its records there; a setup brings it about and records
  keep it, so it holds after every row of setups and records;
* `LogTargets.deliveries_logging` says that the level of the whole stops no record which one of the
  handlers takes.
* `Session.log_of_unformed` says that a record without a message, whose arguments do not fit its
  format, reaches nobody.
-/

namespace ErrorDerive

/-! ## What a setup asks for -/

/-- The level from which records are shown, and the log file with its level. -/
structure LogTargets where
  level : LogLevel
  file? : Option (Location × LogLevel)
  deriving DecidableEq, Repr

/-- The location of the log file that a text names. -/
def logPlace (folder : Location) (path : String) : Location :=
  settle (namesFrom folder (Path.ofText path))

namespace LogChoice

/-- The level of the log file: the one for the error output unless another one is chosen. -/
def fileLevelBeside (choice : LogChoice) (level : LogLevel) : Except Breakdown LogLevel :=
  if choice.fileLevel.isHollow then .ok level else LogLevel.ofChoice choice.fileLevel

/-- What a choice asks for in a folder. -/
inductive Asks (choice : LogChoice) (folder : Location) : LogTargets → Prop
  | errorOutput (level : LogLevel) :
      LogLevel.ofChoice choice.level = .ok level → choice.file.isHollow = true →
      Asks choice folder ⟨level, none⟩
  | andFile (level fileLevel : LogLevel) (path : String) :
      LogLevel.ofChoice choice.level = .ok level → choice.file = .text path → path ≠ "" →
      choice.fileLevelBeside level = .ok fileLevel →
      Asks choice folder ⟨level, some (logPlace folder path, fileLevel)⟩

end LogChoice

namespace LogTargets

/-- The logging that serves these targets. -/
def logging (targets : LogTargets) : Logging :=
  match targets.file? with
  | none => { handlers := [.console targets.level], level := targets.level }
  | some (location, fileLevel) =>
    { handlers := [.console targets.level, .toFile location fileLevel]
      level := min targets.level fileLevel }

/-- What a record adds to the error output. Without a message there is no line. -/
def shown (targets : LogTargets) (clock : Clock) (record : LogRecord) : String :=
  if targets.level ≤ record.level then
    ((LogLayout.ofLevel targets.level).line? clock record).elim ""
      fun line => Text.spelled (line ++ "\n")
  else ""

end LogTargets

/-- What a record adds to a log file from a level on. Without a message there is no line, and a line
that cannot be encoded is left out. -/
def LogRecord.fileBytes (record : LogRecord) (clock : Clock) (level : LogLevel) : List UInt8 :=
  if level ≤ record.level then
    (LogLayout.dated.line? clock record).elim []
      fun line => (Text.encode? (line ++ "\n")).getD []
  else []

/-- A session sends its records to the targets, and the log file is there. -/
structure Session.Serves (session : Session) (targets : LogTargets) : Prop where
  logging : session.logging = targets.logging
  present : ∀ location level, targets.file? = some (location, level) →
    (session.workplace.tree.file? location).isSome = true

/-! ## One setup -/

/-- A log file that was opened is there. -/
theorem Workplace.openLog_eq_ok
    {workplace : Workplace} {file : Value} {location : Location} {tree : Tree}
    (opened : workplace.openLog file = .ok (location, tree)) :
    ∃ path, file = .text path ∧ location = logPlace workplace.folder path ∧
      (tree.file? location).isSome = true := by
  cases file with
  | text path =>
      refine ⟨path, rfl, ?_⟩
      change (if _ then _ else workplace.tree.appendFile (logPlace workplace.folder path) [] >>=
        fun tree => Except.ok (logPlace workplace.folder path, tree)) = _ at opened
      split at opened
      · cases opened
      · obtain ⟨appended, success, same⟩ := Judges.bind_eq_ok_iff.mp opened
        cases same
        refine ⟨rfl, ?_⟩
        have settled : collapse (logPlace workplace.folder path) =
            logPlace workplace.folder path :=
          collapse_of_not_mem (not_mem_settle _)
        rcases List.eq_nil_or_concat (logPlace workplace.folder path) with
          top | ⟨front, name, split⟩
        · rw [top] at success
          cases success
        · rw [List.concat_eq_append] at split
          rw [split] at success settled ⊢
          have seen := Tree.seen?_of_changeFile success (front ++ [name])
          rw [settled, if_pos rfl] at seen
          rw [Tree.file?_eq_some_iff.mpr seen]
          rfl
  | _ =>
      cases opened

namespace Run

theorem setUpLogging_eq (choice : LogChoice) :
    setUpLogging choice =
      orBreakdown (LogLevel.ofChoice choice.level) >>= fun level =>
      setHandlers [.console level] >>= fun _ =>
      if choice.file.isHollow = true then setLogLevel level
      else
        orBreakdown (choice.fileLevelBeside level) >>= fun fileLevel =>
        workplace >>= fun present =>
        orBreakdown (present.openLog choice.file) >>= fun opened =>
        setTree opened.2 >>= fun _ =>
        setHandlers [.console level, .toFile opened.1 fileLevel] >>= fun _ =>
        setLogLevel (min level fileLevel) := by
  unfold setUpLogging LogChoice.fileLevelBeside
  by_cases hollow : choice.fileLevel.isHollow = true
  · simp only [hollow, if_true]
    rfl
  · simp only [hollow]
    rfl

/-- A setup that returns serves what it asks for, and moves nowhere. -/
theorem setUpLogging_serves
    {choice : LogChoice} {session after : Session}
    (returned : setUpLogging choice session = .ok () after) :
    after.workplace.folder = session.workplace.folder ∧
      ∃ targets, choice.Asks session.workplace.folder targets ∧ after.Serves targets := by
  rw [setUpLogging_eq] at returned
  obtain ⟨level, between, chosen, onward⟩ := bind_eq_ok_iff.mp returned
  obtain ⟨levelChosen, unchanged⟩ := orBreakdown_eq_ok_iff.mp chosen
  rw [unchanged] at onward
  by_cases hollow : choice.file.isHollow = true
  · simp only [hollow, if_true] at onward
    cases onward
    refine ⟨rfl, ⟨level, none⟩, .errorOutput level levelChosen hollow, rfl, ?_⟩
    intro location fileLevel impossible
    cases impossible
  · simp only [hollow] at onward
    obtain ⟨_, handled, first, onward⟩ := bind_eq_ok_iff.mp onward
    cases first
    obtain ⟨fileLevel, _, chosen, onward⟩ := bind_eq_ok_iff.mp onward
    obtain ⟨fileLevelChosen, unchanged⟩ := orBreakdown_eq_ok_iff.mp chosen
    rw [unchanged] at onward
    obtain ⟨present, _, looked, onward⟩ := bind_eq_ok_iff.mp onward
    cases looked
    obtain ⟨opened, _, opening, onward⟩ := bind_eq_ok_iff.mp onward
    obtain ⟨success, unchanged⟩ := orBreakdown_eq_ok_iff.mp opening
    rw [unchanged] at onward
    cases onward
    obtain ⟨location, tree⟩ := opened
    obtain ⟨path, isText, place, isThere⟩ := Workplace.openLog_eq_ok success
    have named : path ≠ "" := by
      intro empty
      rw [isText, empty] at hollow
      exact hollow rfl
    refine ⟨rfl, ⟨level, some (logPlace session.workplace.folder path, fileLevel)⟩,
      .andFile level fileLevel path levelChosen isText named fileLevelChosen, ?_, ?_⟩
    · rw [place]
      rfl
    · intro other otherLevel same
      cases same
      rw [place] at isThere
      exact isThere

end Run

/-! ## One record -/

namespace Session

/-- What writing a line does not touch. -/
structure Keeps (before after : Session) : Prop where
  folder : after.workplace.folder = before.workplace.folder
  logging : after.logging = before.logging
  present : ∀ location, (before.workplace.tree.file? location).isSome = true →
    (after.workplace.tree.file? location).isSome = true

theorem Keeps.refl (session : Session) : session.Keeps session :=
  ⟨rfl, rfl, fun _ isThere => isThere⟩

theorem Keeps.trans {first second third : Session} (earlier : first.Keeps second)
    (later : second.Keeps third) : first.Keeps third where
  folder := later.folder.trans earlier.folder
  logging := later.logging.trans earlier.logging
  present := fun location isThere => later.present location (earlier.present location isThere)

theorem keeps_receive (session : Session) (delivery : LogDestination × String) :
    session.Keeps (session.receive delivery) := by
  obtain ⟨destination, line⟩ := delivery
  cases destination with
  | errorOutput =>
      exact ⟨rfl, rfl, fun _ isThere => isThere⟩
  | earlierErrorOutput =>
      exact .refl session
  | file location =>
      rw [receive]
      cases Text.encode? (line ++ "\n") with
      | none =>
          exact .refl session
      | some bytes =>
          refine ⟨rfl, rfl, ?_⟩
          intro sought isThere
          change ((session.workplace.tree.extend location bytes).file? sought).isSome = true
          rw [Tree.file?_extend]
          split
          · next same =>
              rw [← same, Option.isSome_map]
              exact isThere
          · exact isThere

theorem keeps_log (session : Session) (record : LogRecord) :
    session.Keeps (session.log record) := by
  have keepsAll : ∀ (deliveries : List (LogDestination × String)) (now : Session),
      now.Keeps (deliveries.foldl receive now) := by
    intro deliveries
    induction deliveries with
    | nil =>
        exact .refl
    | cons delivery rest inductionHypothesis =>
        intro now
        exact (now.keeps_receive delivery).trans (inductionHypothesis (now.receive delivery))
  exact keepsAll _ session

theorem Serves.of_keeps {before after : Session} {targets : LogTargets}
    (serves : before.Serves targets) (keeps : before.Keeps after) : after.Serves targets where
  logging := keeps.logging.trans serves.logging
  present := fun location level isFile =>
    keeps.present location (serves.present location level isFile)

end Session

/-- The lines that a handler writes of a record. -/
def LogHandler.lines (handler : LogHandler) (clock : Clock) (record : LogRecord) :
    List (LogDestination × String) :=
  if handler.level ≤ record.level then
    (handler.layout.line? clock record).toList.map fun line => (handler.destination, line)
  else []

theorem LogHandler.filterMap_filter_eq_flatMap_lines
    (handlers : List LogHandler) (clock : Clock) (record : LogRecord) :
    ((handlers.filter fun handler => handler.level ≤ record.level).filterMap fun handler =>
        (handler.layout.line? clock record).map fun line => (handler.destination, line)) =
      handlers.flatMap fun handler => handler.lines clock record := by
  induction handlers with
  | nil =>
      rfl
  | cons handler rest inductionHypothesis =>
      rw [List.flatMap_cons, ← inductionHypothesis, lines]
      by_cases reached : handler.level ≤ record.level
      · cases formed : handler.layout.line? clock record with
        | none =>
            simp [reached, formed]
        | some line =>
            simp [reached, formed]
      · simp [reached]

/-- Where the level of the whole is not above that of any handler, it stops no record that one of
them takes. -/
theorem Logging.deliveries_of_level_le
    {logging : Logging} (used : logging.handlers ≠ [])
    (lowest : ∀ handler ∈ logging.handlers, logging.level ≤ handler.level) (clock : Clock)
    {record : LogRecord} (positive : 0 < record.level) :
    logging.deliveries clock record =
      logging.handlers.flatMap fun handler => handler.lines clock record := by
  have everyone : logging.audience = logging.handlers := by
    rw [audience, if_neg (by simpa using used)]
  rw [deliveries, everyone]
  by_cases admitted : logging.admits record = true
  · rw [if_pos admitted, LogHandler.filterMap_filter_eq_flatMap_lines]
  · have nobody : ∀ handler ∈ logging.handlers, handler.lines clock record = [] := by
      intro handler member
      apply if_neg
      intro reached
      apply admitted
      rw [admits, Bool.and_eq_true, decide_eq_true_eq, decide_eq_true_eq]
      exact ⟨positive, le_trans (lowest handler member) reached⟩
    rw [if_neg admitted, List.flatMap_eq_nil_iff.mpr nobody]

namespace LogTargets

theorem handlers_ne_nil (targets : LogTargets) : targets.logging.handlers ≠ [] := by
  obtain ⟨level, file?⟩ := targets
  cases file? with
  | none =>
      exact List.cons_ne_nil _ _
  | some file =>
      exact List.cons_ne_nil _ _

/-- The level of the whole is the lower one of two. -/
theorem level_le (targets : LogTargets) :
    ∀ handler ∈ targets.logging.handlers, targets.logging.level ≤ handler.level := by
  obtain ⟨level, file?⟩ := targets
  cases file? with
  | none =>
      intro handler member
      have isConsole : handler = .console level := List.mem_singleton.mp member
      exact isConsole ▸ le_refl level
  | some file =>
      obtain ⟨location, fileLevel⟩ := file
      intro handler member
      rcases List.mem_cons.mp member with first | second
      · rw [first]
        exact min_le_left level fileLevel
      · rw [List.mem_singleton.mp second]
        exact min_le_right level fileLevel

/-- The lines of a record in the log file. -/
def fileLines (targets : LogTargets) (clock : Clock) (record : LogRecord) :
    List (LogDestination × String) :=
  match targets.file? with
  | none => []
  | some (location, fileLevel) => (LogHandler.toFile location fileLevel).lines clock record

/-- A record of a positive level goes to every target whose own level it reaches. -/
theorem deliveries_logging
    (targets : LogTargets) (clock : Clock) {record : LogRecord} (positive : 0 < record.level) :
    targets.logging.deliveries clock record =
      (LogHandler.console targets.level).lines clock record ++ targets.fileLines clock record := by
  rw [Logging.deliveries_of_level_le targets.handlers_ne_nil targets.level_le clock positive]
  obtain ⟨level, file?⟩ := targets
  cases file? with
  | none =>
      exact List.flatMap_cons
  | some file =>
      obtain ⟨location, fileLevel⟩ := file
      rw [logging, List.flatMap_cons, List.flatMap_singleton]
      rfl

end LogTargets

namespace Session

/-- Bytes reach a log file only if the whole line can be encoded. -/
theorem file?_receive_file (session : Session) (location sought : Location) (line : String) :
    (session.receive (.file location, line)).workplace.tree.file? sought =
      if sought = location then (session.workplace.tree.file? location).map fun present =>
        { present with content := present.content ++ (Text.encode? (line ++ "\n")).getD [] }
      else session.workplace.tree.file? sought := by
  rw [receive]
  cases Text.encode? (line ++ "\n") with
  | some bytes =>
      exact session.workplace.tree.file?_extend location sought bytes
  | none =>
      by_cases same : sought = location
      · simp [same]
      · simp [same]

theorem errorOutput_receive_file (session : Session) (location : Location) (line : String) :
    (session.receive (.file location, line)).errorOutput = session.errorOutput := by
  rw [receive]
  cases Text.encode? (line ++ "\n") <;> rfl

/-- A record reaches a log file only as a line that can be encoded. -/
theorem file?_foldl_lines (session : Session) (clock : Clock) (record : LogRecord)
    (location sought : Location) (level : LogLevel) :
    (((LogHandler.toFile location level).lines clock record).foldl receive
        session).workplace.tree.file? sought =
      if sought = location then (session.workplace.tree.file? location).map fun present =>
        { present with content := present.content ++ record.fileBytes clock level }
      else session.workplace.tree.file? sought := by
  have unchanged : session.workplace.tree.file? sought =
      if sought = location then (session.workplace.tree.file? location).map fun present =>
        { present with content := present.content ++ [] }
      else session.workplace.tree.file? sought := by
    by_cases same : sought = location
    · simp [same]
    · simp [same]
  unfold LogRecord.fileBytes
  by_cases reached : level ≤ record.level
  · have lines : (LogHandler.toFile location level).lines clock record =
        (LogLayout.dated.line? clock record).toList.map fun line => (.file location, line) :=
      if_pos reached
    rw [lines, if_pos reached]
    cases LogLayout.dated.line? clock record with
    | none =>
        exact unchanged
    | some line =>
        exact file?_receive_file session location sought line
  · have lines : (LogHandler.toFile location level).lines clock record = [] := if_neg reached
    rw [lines, if_neg reached]
    exact unchanged

theorem errorOutput_foldl_lines (session : Session) (clock : Clock) (record : LogRecord)
    (location : Location) (level : LogLevel) :
    (((LogHandler.toFile location level).lines clock record).foldl receive
      session).errorOutput = session.errorOutput := by
  unfold LogHandler.lines
  split
  · change (((LogLayout.dated.line? clock record).toList.map fun line =>
      (LogDestination.file location, line)).foldl receive session).errorOutput = _
    cases LogLayout.dated.line? clock record with
    | none =>
        rfl
    | some line =>
        exact errorOutput_receive_file session location line
  · rfl

/-- A record without a message reaches nobody. -/
theorem log_of_unformed (session : Session) {record : LogRecord}
    (unformed : record.message = none) :
    session.log record = session := by
  have noLine (layout : LogLayout) : layout.line? session.clock record = none := by
    rw [LogLayout.line?, unformed, Option.map_none]
  have nobody : session.logging.deliveries session.clock record = [] := by
    unfold Logging.deliveries
    simp [noLine]
  rw [log, nobody, List.foldl_nil]

/-- A record is written once to every target that takes it, and nowhere else. -/
structure Delivers (session : Session) (targets : LogTargets) (record : LogRecord) : Prop where
  shown : (session.log record).errorOutput =
    session.errorOutput ++ targets.shown session.clock record
  added : ∀ location level, targets.file? = some (location, level) → ∃ present,
    session.workplace.tree.file? location = some present ∧
      (session.log record).workplace.tree.file? location = some { present with
        content := present.content ++ record.fileBytes session.clock level }
  spared : ∀ location, (∀ level, targets.file? ≠ some (location, level)) →
    (session.log record).workplace.tree.file? location = session.workplace.tree.file? location

theorem log_eq_of_serves {session : Session} {targets : LogTargets}
    (serves : session.Serves targets) {record : LogRecord} (positive : 0 < record.level) :
    session.log record =
      (targets.fileLines session.clock record).foldl receive
        { session with
          errorOutput := session.errorOutput ++ targets.shown session.clock record } := by
  have sent : session.logging.deliveries session.clock record =
      (LogHandler.console targets.level).lines session.clock record ++
        targets.fileLines session.clock record := by
    rw [serves.logging, targets.deliveries_logging session.clock positive]
  rw [log, sent, List.foldl_append]
  congr 1
  by_cases reached : targets.level ≤ record.level
  · have lines : (LogHandler.console targets.level).lines session.clock record =
        ((LogLayout.ofLevel targets.level).line? session.clock record).toList.map
          fun line => (.errorOutput, line) :=
      if_pos reached
    rw [lines, LogTargets.shown, if_pos reached]
    cases (LogLayout.ofLevel targets.level).line? session.clock record with
    | none =>
        rw [Option.elim_none, String.append_empty]
        rfl
    | some line =>
        rfl
  · have lines : (LogHandler.console targets.level).lines session.clock record = [] :=
      if_neg reached
    rw [lines, LogTargets.shown, if_neg reached, String.append_empty]
    rfl

theorem Serves.delivers {session : Session} {targets : LogTargets}
    (serves : session.Serves targets) {record : LogRecord} (positive : 0 < record.level) :
    session.Delivers targets record := by
  have logged := log_eq_of_serves serves positive
  cases isFile : targets.file? with
  | none =>
      rw [LogTargets.fileLines, isFile] at logged
      refine ⟨by rw [logged]; rfl, ?_, fun _ _ => by rw [logged]; rfl⟩
      intro location level impossible
      rw [isFile] at impossible
      cases impossible
  | some file =>
      obtain ⟨place, fileLevel⟩ := file
      obtain ⟨present, isThere⟩ :=
        Option.isSome_iff_exists.mp (serves.present place fileLevel isFile)
      rw [LogTargets.fileLines, isFile] at logged
      refine ⟨by rw [logged, errorOutput_foldl_lines], ?_, ?_⟩
      · intro location level same
        rw [isFile] at same
        cases same
        refine ⟨present, isThere, ?_⟩
        rw [logged, file?_foldl_lines, if_pos rfl, isThere]
        rfl
      · intro location different
        have elsewhere : location ≠ place := by
          intro same
          exact different fileLevel (by rw [isFile, same])
        rw [logged, file?_foldl_lines, if_neg elsewhere]

end Session

/-! ## Rows of setups and records -/

/-- What happens to the logging of a program. -/
inductive LogEvent where
  | setUp (choice : LogChoice)
  | emit (record : LogRecord)

namespace LogEvent

def run : LogEvent → Run Unit
  | setUp choice => Run.setUpLogging choice
  | emit record => Run.log record

/-- The latest choice after one more event. -/
def latest (choice? : Option LogChoice) : LogEvent → Option LogChoice
  | setUp choice => some choice
  | emit _ => choice?

end LogEvent

/-- The choice of the last setup. -/
def lastChoice? (events : List LogEvent) : Option LogChoice :=
  events.foldl LogEvent.latest none

/-- One event after another. -/
def Run.ofEvents (events : List LogEvent) : Run Unit :=
  events.forM LogEvent.run

/-- A session in this folder serves what a choice asks for. -/
def Session.Obeys (session : Session) (folder : Location) (choice? : Option LogChoice) : Prop :=
  session.workplace.folder = folder ∧
    ∀ choice, choice? = some choice →
      ∃ targets, choice.Asks folder targets ∧ session.Serves targets

/-- An event leaves a session that serves the latest choice. -/
theorem LogEvent.obeys_run
    {event : LogEvent} {session after : Session} {folder : Location} {choice? : Option LogChoice}
    (obeys : session.Obeys folder choice?) (returned : event.run session = .ok () after) :
    after.Obeys folder (event.latest choice?) := by
  obtain ⟨here, served⟩ := obeys
  cases event with
  | setUp choice =>
      obtain ⟨stays, targets, asks, serves⟩ := Run.setUpLogging_serves returned
      rw [here] at stays asks
      refine ⟨stays, ?_⟩
      intro other same
      cases same
      exact ⟨targets, asks, serves⟩
  | emit record =>
      cases returned
      have keeps := session.keeps_log record
      refine ⟨keeps.folder.trans here, ?_⟩
      intro choice isLast
      obtain ⟨targets, asks, serves⟩ := served choice isLast
      exact ⟨targets, asks, serves.of_keeps keeps⟩

theorem Run.obeys_ofEvents
    {events : List LogEvent} {session after : Session} {folder : Location}
    {choice? : Option LogChoice} (obeys : session.Obeys folder choice?)
    (returned : Run.ofEvents events session = .ok () after) :
    after.Obeys folder (events.foldl LogEvent.latest choice?) := by
  -- The choice so far is carried along, since a later setup replaces it.
  induction events generalizing session choice? with
  | nil =>
      cases returned
      exact obeys
  | cons event rest inductionHypothesis =>
      have split : Run.ofEvents (event :: rest) =
          event.run >>= fun _ => Run.ofEvents rest := List.forM_cons
      rw [split] at returned
      obtain ⟨_, between, ran, onward⟩ := Run.bind_eq_ok_iff.mp returned
      exact inductionHypothesis (event.obeys_run obeys ran) onward

/-- After any row of setups and records, a record with a message goes where the last setup asks for
and nowhere else: to the error output from its level on, and to the log file, if there is one, from
the level of the file on. -/
theorem Run.delivers_ofEvents
    {events : List LogEvent} {session after : Session} {choice : LogChoice}
    (returned : Run.ofEvents events session = .ok () after)
    (isLast : lastChoice? events = some choice) {record : LogRecord}
    (positive : 0 < record.level) :
    ∃ targets, choice.Asks session.workplace.folder targets ∧ after.Delivers targets record := by
  have start : session.Obeys session.workplace.folder none := by
    refine ⟨rfl, ?_⟩
    intro other impossible
    cases impossible
  obtain ⟨_, served⟩ := Run.obeys_ofEvents start returned
  obtain ⟨targets, asks, serves⟩ := served choice isLast
  exact ⟨targets, asks, serves.delivers positive⟩

/-- A session without files. -/
def emptySession : Session where
  workplace := { tree := {}, folder := [] }

/-- A setup with a log file. -/
def fileChoice : LogChoice where
  level := .text "INFO"
  file := .text "x.log"

/-- What that setup leaves behind. -/
def fileSession : Session where
  workplace := { tree := ⟨[("x.log", .file { content := [] })]⟩, folder := [] }
  logging :=
    { handlers := [.console LogLevel.info, .toFile ["x.log"] LogLevel.info]
      level := LogLevel.info }

theorem Run.delivers_ofEvents_fileChoice :
    Run.ofEvents [.setUp {}, .setUp fileChoice] emptySession = .ok () fileSession ∧
      ∃ targets, fileChoice.Asks [] targets ∧
        fileSession.Delivers targets ⟨"root", LogLevel.warning, "late"⟩ := by
  have returned : Run.ofEvents [.setUp {}, .setUp fileChoice] emptySession =
      .ok () fileSession := rfl
  exact ⟨returned, Run.delivers_ofEvents returned rfl (by decide)⟩

/-- The halves of a surrogate pair, one after the other, as a message. -/
def surrogatePair : LogRecord :=
  ⟨"root", LogLevel.info, Text.ofCodePoints [0xD83D, 0xDE00]⟩

/-- A record at the level of the log file does not get there if it cannot be encoded. -/
theorem Run.surrogatePair_leftOut :
    Run.ofEvents [.setUp fileChoice] emptySession = .ok () fileSession ∧
      fileChoice.Asks [] ⟨LogLevel.info, some (["x.log"], LogLevel.info)⟩ ∧
      LogLevel.info ≤ surrogatePair.level ∧
      (fileSession.log surrogatePair).errorOutput ≠ fileSession.errorOutput ∧
      (fileSession.log surrogatePair).workplace.tree.file? ["x.log"] =
        fileSession.workplace.tree.file? ["x.log"] := by
  have place : logPlace [] "x.log" = ["x.log"] := by decide +kernel
  refine ⟨rfl, ?_, by decide, by decide +kernel, by decide +kernel⟩
  rw [← place]
  exact .andFile LogLevel.info LogLevel.info "x.log" rfl rfl (by decide) rfl

end ErrorDerive
