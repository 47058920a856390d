import ErrorDerive.CommandLine.Commands
import ErrorDerive.Proofs.Text.Printing

/-!
# What a part of a run comes to

A part of a run comes to a result, a tree and a printed text.  What it writes on the error output is
left open, so the records that it leaves there do not matter.

* `Run.ComesTo` and `Run.Gives`, with the laws for one part after another;
* loading, generation and writing come to what they are without a session, as long as no record
  goes to a file.
-/

namespace ErrorDerive

namespace Session

def withErrors (session : Session) (errors : String) : Session :=
  { session with errorOutput := errors }

/-- The session with another tree, with more printed and with another error output. -/
def after (session : Session) (tree : Tree) (printed errors : String) : Session :=
  { session with
    workplace := { session.workplace with tree }
    output := session.output ++ printed
    errorOutput := errors }

@[simp]
theorem workplace_withErrors (session : Session) (errors : String) :
    (session.withErrors errors).workplace = session.workplace := rfl

@[simp]
theorem logging_withErrors (session : Session) (errors : String) :
    (session.withErrors errors).logging = session.logging := rfl

@[simp]
theorem logging_after (session : Session) (tree : Tree) (printed errors : String) :
    (session.after tree printed errors).logging = session.logging := rfl

theorem after_unchanged (session : Session) (errors : String) :
    session.after session.workplace.tree "" errors = session.withErrors errors := by
  simp [after, withErrors]

theorem after_withErrors (session : Session) (tree : Tree) (printed errors others : String) :
    (session.withErrors errors).after tree printed others = session.after tree printed others := rfl

theorem after_after (session : Session) (tree later : Tree) (printed more errors others : String) :
    (session.after tree printed errors).after later more others =
      session.after later (printed ++ more) others := by
  simp [after, String.append_assoc]

end Session

namespace Run

section

variable {α β : Type} {session : Session} {tree later : Tree} {printed more : String}

/-- The end of a part of a run. -/
def ending (result : Except EarlyEnd α) (left : Session) : EStateM.Result EarlyEnd Session α :=
  match result with
  | .ok value => .ok value left
  | .error early => .error early left

/-- A part of a run comes to a result, a tree and a printed text. -/
def ComesTo (run : Run α) (session : Session) (result : Except EarlyEnd α) (tree : Tree)
    (printed : String) : Prop :=
  ∃ errors, run session = ending result (session.after tree printed errors)

/-- A part of a run comes to a result, and neither changes a file nor prints. -/
def Gives (run : Run α) (session : Session) (result : Except EarlyEnd α) : Prop :=
  ∃ errors, run session = ending result (session.withErrors errors)

theorem Gives.comesTo {run : Run α} {result : Except EarlyEnd α}
    (gives : run.Gives session result) :
    run.ComesTo session result session.workplace.tree "" := by
  obtain ⟨errors, ran⟩ := gives
  exact ⟨errors, by rw [ran, session.after_unchanged]⟩

/-! ## One part after another -/

theorem bind_eq_of_ok {run : Run α} {next : α → Run β} {value : α} {left : Session}
    (ran : run session = ending (.ok value) left) : (run >>= next) session = next value left := by
  simp only [Bind.bind, EStateM.bind, ran, ending]

theorem bind_eq_of_error {run : Run α} {next : α → Run β} {early : EarlyEnd} {left : Session}
    (ran : run session = ending (.error early) left) :
    (run >>= next) session = ending (.error early) left := by
  simp only [Bind.bind, EStateM.bind, ran, ending]

/-- Two parts return one after the other. -/
theorem bind_eq_ok_iff {run : Run α} {next : α → Run β} {result : β} {left : Session} :
    (run >>= next) session = .ok result left ↔
      ∃ value between, run session = .ok value between ∧ next value between = .ok result left := by
  simp only [Bind.bind, EStateM.bind]
  cases run session with
  | ok value between =>
      simp [and_assoc]
  | error early between =>
      simp

theorem ComesTo.bind {run : Run α} {next : α → Run β} {value : α} {result : Except EarlyEnd β}
    (first : run.ComesTo session (.ok value) tree printed)
    (second : ∀ errors,
      (next value).ComesTo (session.after tree printed errors) result later more) :
    (run >>= next).ComesTo session result later (printed ++ more) := by
  obtain ⟨errors, ran⟩ := first
  obtain ⟨others, onward⟩ := second errors
  exact ⟨others, by rw [bind_eq_of_ok ran, onward, Session.after_after]⟩

/-- After a part that prints nothing. -/
theorem ComesTo.bind_comesTo {run : Run α} {next : α → Run β} {value : α}
    {result : Except EarlyEnd β} (first : run.ComesTo session (.ok value) tree "")
    (second : ∀ errors, (next value).ComesTo (session.after tree "" errors) result later more) :
    (run >>= next).ComesTo session result later more := by
  have whole := first.bind second
  rwa [String.empty_append] at whole

theorem ComesTo.bind_error {run : Run α} {next : α → Run β} {early : EarlyEnd}
    (first : run.ComesTo session (.error early) tree printed) :
    (run >>= next).ComesTo session (.error early) tree printed := by
  obtain ⟨errors, ran⟩ := first
  exact ⟨errors, bind_eq_of_error ran⟩

theorem Gives.bind {run : Run α} {next : α → Run β} {value : α} {result : Except EarlyEnd β}
    (first : run.Gives session (.ok value))
    (second : ∀ errors, (next value).Gives (session.withErrors errors) result) :
    (run >>= next).Gives session result := by
  obtain ⟨errors, ran⟩ := first
  obtain ⟨others, onward⟩ := second errors
  exact ⟨others, by rw [bind_eq_of_ok ran, onward]; rfl⟩

theorem Gives.bind_error {run : Run α} {next : α → Run β} {early : EarlyEnd}
    (first : run.Gives session (.error early)) : (run >>= next).Gives session (.error early) := by
  obtain ⟨errors, ran⟩ := first
  exact ⟨errors, bind_eq_of_error ran⟩

theorem Gives.bind_comesTo {run : Run α} {next : α → Run β} {value : α}
    {result : Except EarlyEnd β} (first : run.Gives session (.ok value))
    (second : ∀ errors, (next value).ComesTo (session.withErrors errors) result later more) :
    (run >>= next).ComesTo session result later more := by
  obtain ⟨errors, ran⟩ := first
  obtain ⟨others, onward⟩ := second errors
  exact ⟨others, by rw [bind_eq_of_ok ran, onward, Session.after_withErrors]⟩

theorem ComesTo.bind_gives {run : Run α} {next : α → Run β} {value : α}
    {result : Except EarlyEnd β} (first : run.ComesTo session (.ok value) tree printed)
    (second : ∀ errors, (next value).Gives (session.after tree printed errors) result) :
    (run >>= next).ComesTo session result tree printed := by
  obtain ⟨errors, ran⟩ := first
  obtain ⟨others, onward⟩ := second errors
  exact ⟨others, by rw [bind_eq_of_ok ran, onward]; rfl⟩

/-! ## Parts that are one step -/

theorem gives_pure (value : α) : (pure value : Run α).Gives session (.ok value) :=
  ⟨session.errorOutput, rfl⟩

theorem gives_throw (early : EarlyEnd) : (throw early : Run α).Gives session (.error early) :=
  ⟨session.errorOutput, rfl⟩

theorem gives_workplace : workplace.Gives session (.ok session.workplace) :=
  ⟨session.errorOutput, rfl⟩

theorem comesTo_setTree (tree : Tree) : (setTree tree).ComesTo session (.ok ()) tree "" := by
  refine ⟨session.errorOutput, ?_⟩
  have ran : setTree tree session =
      .ok () { session with workplace := { session.workplace with tree } } := rfl
  rw [ran]
  simp [ending, Session.after]

theorem gives_orBreakdown (outcome : Except Breakdown α) :
    (orBreakdown outcome).Gives session (outcome.mapError .brokenDown) := by
  cases outcome with
  | ok result =>
      exact gives_pure result
  | error cause =>
      exact gives_throw (.brokenDown cause)

theorem orBreakdown_eq_ok_iff {outcome : Except Breakdown α} {value : α} {left : Session} :
    orBreakdown outcome session = .ok value left ↔ outcome = .ok value ∧ left = session := by
  constructor
  · intro returned
    cases outcome with
    | ok result =>
        cases returned
        exact ⟨rfl, rfl⟩
    | error cause =>
        cases returned
  · intro conditions
    obtain ⟨rfl, rfl⟩ := conditions
    rfl

/-- What a loading gives in a run: a fault of a configuration is a result. -/
def ofLoading : Except LoadFault α → Except EarlyEnd (Except ConfigFault α)
  | .ok value => .ok (.ok value)
  | .error (.reported fault) => .ok (.error fault)
  | .error (.brokenDown cause) => .error (.brokenDown cause)

theorem gives_orFault (loaded : Except LoadFault α) :
    (orFault loaded).Gives session (ofLoading loaded) := by
  cases loaded with
  | ok value =>
      exact gives_pure (Except.ok value)
  | error fault =>
      cases fault with
      | reported fault =>
          exact gives_pure (Except.error fault)
      | brokenDown cause =>
          exact gives_throw (.brokenDown cause)

end

end Run

/-! ## Records -/

/-- No handler adds to a file. -/
def Logging.SparesFiles (logging : Logging) : Prop :=
  ∀ handler ∈ logging.audience, ∀ location, handler.destination ≠ .file location

theorem Logging.SparesFiles.not_file_of_mem_deliveries
    {logging : Logging} (spares : logging.SparesFiles) {clock : Clock} {record : LogRecord}
    {delivery : LogDestination × String} (member : delivery ∈ logging.deliveries clock record)
    (location : Location) : delivery.1 ≠ .file location := by
  unfold deliveries at member
  split at member
  · obtain ⟨handler, filtered, formed⟩ := List.mem_filterMap.mp member
    obtain ⟨line, _, rfl⟩ := Option.map_eq_some_iff.mp formed
    exact spares handler (List.mem_filter.mp filtered).1 location
  · cases member

theorem Session.receive_of_not_file
    (session : Session) {delivery : LogDestination × String}
    (noFile : ∀ location, delivery.1 ≠ .file location) :
    ∃ errors, session.receive delivery = session.withErrors errors := by
  obtain ⟨destination, line⟩ := delivery
  cases destination with
  | errorOutput =>
      exact ⟨session.errorOutput ++ Text.spelled (line ++ "\n"), rfl⟩
  | earlierErrorOutput =>
      exact ⟨session.errorOutput, rfl⟩
  | file location =>
      exact absurd rfl (noFile location)

theorem Session.log_of_sparesFiles {session : Session} (spares : session.logging.SparesFiles)
    (record : LogRecord) : ∃ errors, session.log record = session.withErrors errors := by
  have toErrors : ∀ (deliveries : List (LogDestination × String)) (now : Session),
      (∀ delivery ∈ deliveries, ∀ location, delivery.1 ≠ .file location) →
      ∃ errors, deliveries.foldl receive now = now.withErrors errors := by
    intro deliveries
    induction deliveries with
    | nil =>
        intro now _
        exact ⟨now.errorOutput, rfl⟩
    | cons delivery rest ih =>
        intro now noFile
        obtain ⟨errors, received⟩ := now.receive_of_not_file (noFile delivery List.mem_cons_self)
        obtain ⟨others, onward⟩ := ih (now.withErrors errors) fun later member =>
          noFile later (List.mem_cons_of_mem delivery member)
        exact ⟨others, by rw [List.foldl_cons, received, onward]; rfl⟩
  exact toErrors _ session fun _ => spares.not_file_of_mem_deliveries

namespace Run

variable {session : Session}

theorem gives_log (spares : session.logging.SparesFiles) (record : LogRecord) :
    (log record).Gives session (.ok ()) := by
  obtain ⟨errors, logged⟩ := Session.log_of_sparesFiles spares record
  exact ⟨errors, by rw [← logged]; rfl⟩

theorem gives_logAll (spares : session.logging.SparesFiles) (records : List LogRecord) :
    (logAll records).Gives session (.ok ()) := by
  have toErrors : ∃ errors, records.foldl Session.log session = session.withErrors errors := by
    induction records generalizing session with
    | nil =>
        exact ⟨session.errorOutput, rfl⟩
    | cons record rest ih =>
        obtain ⟨errors, logged⟩ := Session.log_of_sparesFiles spares record
        have sparesOn : (session.withErrors errors).logging.SparesFiles := spares
        obtain ⟨others, onward⟩ := ih sparesOn
        exact ⟨others, by rw [List.foldl_cons, logged, onward]; rfl⟩
  obtain ⟨errors, logged⟩ := toErrors
  exact ⟨errors, by rw [← logged]; rfl⟩

/-! ## Loading and generation -/

theorem gives_loadSettingsFrom (spares : session.logging.SparesFiles) (path : Path) :
    (loadSettingsFrom path).Gives session (ofLoading (session.workplace.settingsFrom path)) := by
  unfold loadSettingsFrom
  refine (gives_log spares _).bind fun _ => gives_workplace.bind fun _ => ?_
  simp only [Session.workplace_withErrors]
  rcases session.workplace.settingsFrom path with (fault | cause) | settings
  · exact (gives_orFault (.error (.reported fault))).bind fun _ => gives_pure _
  · exact (gives_orFault (.error (.brokenDown cause))).bind_error
  · refine (gives_orFault (.ok settings)).bind fun _ => ?_
    refine Gives.bind (gives_log ?_ _) fun _ => gives_pure _
    exact spares

theorem gives_loadSettings (spares : session.logging.SparesFiles) (path? : Option Path) :
    (loadSettings path?).Gives session (ofLoading (session.workplace.loadSettings path?)) := by
  unfold loadSettings Workplace.loadSettings
  refine gives_workplace.bind fun _ => ?_
  rcases session.workplace.settingsPath path? with cause | _ | path
  · exact (gives_orBreakdown (.error cause)).bind_error
  · refine (gives_orBreakdown (.ok none)).bind fun _ => ?_
    refine Gives.bind (gives_log ?_ _) fun _ => gives_pure _
    exact spares
  · refine (gives_orBreakdown (.ok (some path))).bind fun _ => ?_
    apply gives_loadSettingsFrom
    exact spares

theorem gives_loadDeclarations (spares : session.logging.SparesFiles) (path : Path) :
    (loadDeclarations path).Gives session
      (ofLoading (session.workplace.loadDeclarations path)) := by
  unfold loadDeclarations
  refine gives_workplace.bind fun _ => ?_
  rcases session.workplace.loadDeclarations path with (fault | cause) | declarations
  · exact (gives_orFault (.error (.reported fault))).bind fun _ => gives_pure _
  · exact (gives_orFault (.error (.brokenDown cause))).bind_error
  · refine (gives_orFault (.ok declarations)).bind fun _ => ?_
    refine Gives.bind (gives_log ?_ _) fun _ => gives_pure _
    exact spares

theorem gives_generateFrom (spares : session.logging.SparesFiles) (declaration : Path)
    (settings? : Option Path) (output? : Option String) (overwrite : Bool) :
    (generateFrom declaration settings? output? overwrite).Gives session
      ((session.workplace.generateFrom declaration settings? output? overwrite).mapError
        .brokenDown) := by
  unfold generateFrom Workplace.generateFrom
  have settingsLoaded := gives_loadSettings spares settings?
  generalize session.workplace.loadSettings settings? = loaded at settingsLoaded ⊢
  rcases loaded with (fault | cause) | settings
  · exact settingsLoaded.bind fun _ => gives_pure _
  · exact settingsLoaded.bind_error
  · refine settingsLoaded.bind fun errors => ?_
    have sparesOn : (session.withErrors errors).logging.SparesFiles := spares
    have declarationsLoaded := gives_loadDeclarations sparesOn declaration
    rw [Session.workplace_withErrors] at declarationsLoaded
    generalize session.workplace.loadDeclarations declaration = loaded at declarationsLoaded ⊢
    rcases loaded with (fault | cause) | declarations
    · exact declarationsLoaded.bind fun _ => gives_pure _
    · exact declarationsLoaded.bind_error
    · refine declarationsLoaded.bind fun _ => ?_
      refine Gives.bind (gives_logAll ?_ _) fun _ => gives_pure _
      exact spares

/-! ## Writing -/

/-- Writing, without the record that may come first. -/
private theorem comesTo_write_onward (spares : session.logging.SparesFiles) (file : OutputFile)
    (target : String) :
    (do
      let (tree, outcome) := file.write (← workplace)
      setTree tree
      let report ← orBreakdown outcome
      if report.obstacle?.isNone then
        log (writingRecord LogLevel.info ("Wrote generated file: " ++ target))
      return report : Run WriteReport).ComesTo session
        ((file.write session.workplace).2.mapError .brokenDown)
        (file.write session.workplace).1 "" := by
  refine gives_workplace.bind_comesTo fun _ => ?_
  dsimp only
  refine (comesTo_setTree _).bind_gives fun _ => ?_
  rcases (file.write session.workplace).2 with cause | report
  · exact (gives_orBreakdown (.error cause)).bind_error
  · refine (gives_orBreakdown (.ok report)).bind fun _ => ?_
    split
    · refine Gives.bind (gives_log ?_ _) fun _ => gives_pure report
      exact spares
    · exact gives_pure report

theorem comesTo_write (spares : session.logging.SparesFiles) (file : OutputFile) :
    (write file).ComesTo session ((file.write session.workplace).2.mapError .brokenDown)
      (file.write session.workplace).1 "" := by
  unfold write
  refine gives_workplace.bind_comesTo fun _ => gives_workplace.bind_comesTo fun _ => ?_
  dsimp only
  split
  · refine Gives.bind_comesTo (gives_log ?_ _) fun _ => ?_
    · exact spares
    · apply comesTo_write_onward
      exact spares
  · apply comesTo_write_onward
    exact spares

end Run

end ErrorDerive
