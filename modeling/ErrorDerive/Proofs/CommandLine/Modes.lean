import ErrorDerive.Proofs.CommandLine.Generating
import ErrorDerive.Proofs.Generation.FieldOrder
import ErrorDerive.Proofs.Text.Encoding

/-!
# Output modes

Calls on one declaration file agree, whether they generate code or show decisions, and whether they
print a text or a document: they all fail alike, or all documents are printed and hold the same
code.  A text is printed where it can be, without the styling that it may hold.  Every run brings
out the items of sets in an order of its own, and the tables of two runs differ exactly if this
shows in the fields of a variant.

* `SameCode` relates what two runs derive from one declaration file;
* `OutputModes` is what the calls come to where the types of the file give code;
* `modes_agree` says that this is so, or that every call fails with one status.
-/

namespace ErrorDerive

/-- The member of an object with a name. -/
def Json.member? (name : String) : Json → Option Json
  | .object members => members.lookup name
  | _ => none

/-- The arguments call a command on a declaration file. -/
inductive CallsOn (arguments : List String) (options : GlobalOptions) (text : String) : Prop
  | generate (choice : GenerateOptions) :
      GenerateCall arguments options choice [text] → CallsOn arguments options text
  | resolve (choice : ShowOptions) :
      ResolveCall arguments options choice [text] → CallsOn arguments options text

/-- The session in a process that brings out the items of sets in the given order. -/
def Session.inOrder (session : Session) (order : SetOrder) : Session :=
  { session with workplace := session.workplace.inOrder order }

theorem Session.workplace_inOrder (session : Session) (order : SetOrder) :
    (session.inOrder order).workplace = session.workplace.inOrder order :=
  rfl

/-- The tables of decisions of several types. -/
def tablesOf (generations : List Generation) : Json :=
  .list (generations.map Generation.toTable)

/-- What two processes derive from one declaration file is the same code.  The tables are the same
exactly if the fields are, which may differ where they are given as a set. -/
structure SameCode (order other : SetOrder) (left right : List Generation) : Prop where
  code : Rust.renderFile left = Rust.renderFile right
  tables : tablesOf left = tablesOf right ↔
    left.map Generation.fieldTexts = right.map Generation.fieldTexts
  fields : List.Forall₂ (List.Forall₂ (TextsAlike order other))
    (left.map Generation.fieldTexts) (right.map Generation.fieldTexts)

/-- What the calls on a declaration file come to where its types give code. -/
structure OutputModes (session : Session) (environment : Environment) (options : GlobalOptions)
    (text : String) (generations : SetOrder → List Generation) : Prop where
  sameCode : ∀ order other, SameCode order other (generations order) (generations other)
  document : ∀ order arguments choice, GenerateCall arguments options choice [text] →
    choice.json = true → ¬ choice.AsksForOutput →
    ∃ document : Json, (session.inOrder order).EndsWith environment arguments 0
        session.workplace.tree (document.pretty ++ "\n") ∧
      document.member? "types" = some (tablesOf (generations order)) ∧
      (document.member? "file" >>= Json.member? "content") =
        some (.text (Rust.renderFile (generations order)))
  tables : ∀ order arguments choice, ResolveCall arguments options choice [text] →
    choice.json = true →
    ∃ document : Json, (session.inOrder order).EndsWith environment arguments 0
        session.workplace.tree (document.pretty ++ "\n") ∧
      document.member? "types" = some (tablesOf (generations order))
  content : ∀ order arguments choice, GenerateCall arguments options choice [text] →
    choice.json = false → ¬ choice.AsksForOutput →
    session.workplace.process.encoding.Prints (Rust.renderFile (generations order)) →
    (session.inOrder order).EndsWith environment arguments 0 session.workplace.tree
      (Text.withoutStyling (Rust.renderFile (generations order)))
  noContent : ∀ order arguments choice, GenerateCall arguments options choice [text] →
    choice.json = false → ¬ choice.AsksForOutput →
    ¬ session.workplace.process.encoding.Prints (Rust.renderFile (generations order)) →
    (session.inOrder order).EndsWith environment arguments 1 session.workplace.tree ""
  decisions : ∀ order arguments choice, ResolveCall arguments options choice [text] →
    choice.json = false →
    session.workplace.process.encoding.PrintsLines (decisionLines (generations order)) →
    (session.inOrder order).EndsWith environment arguments 0 session.workplace.tree
      (shownLines (decisionLines (generations order)))
  noDecisions : ∀ order arguments choice, ResolveCall arguments options choice [text] →
    choice.json = false →
    ¬ session.workplace.process.encoding.PrintsLines (decisionLines (generations order)) →
    ∃ printed, (session.inOrder order).EndsWith environment arguments 1 session.workplace.tree
      printed
  outputs : ∀ order otherOrder arguments choice others other,
    GenerateCall arguments options choice [text] → GenerateCall others options other [text] →
    choice.json = true → other.json = false → choice.AsksForOutput →
    other.output = choice.output → other.overwrite = choice.overwrite →
    ∃ status otherStatus tree printed otherPrinted,
      (session.inOrder order).EndsWith environment arguments status tree printed ∧
      (session.inOrder otherOrder).EndsWith environment others otherStatus tree otherPrinted ∧
      (otherStatus = status ∨ status = 0 ∧ otherStatus = 1 ∧
        ∃ changed, ¬ Announceable session.workplace.process.encoding options.quiet
          (choice.outputOf (generations order)) changed)
  decoded : ∀ order arguments choice, GenerateCall arguments options choice [text] →
    choice.AsksForOutput → ∀ tree printed,
    (session.inOrder order).EndsWith environment arguments 0 tree printed →
    ∃ present decoded, Workplace.fileAt? { session.workplace with tree }
        ((choice.outputOf (generations order)).target session.workplace.folder) =
          .ok (some present) ∧
      Text.decode? present.content = some decoded ∧
      Text.codePoints decoded = Text.codePoints (Rust.renderFile (generations order))

theorem Derives.unique {workplace : Workplace} {settings? : Option Path} {path : Path}
    {generations others : List Generation} (derives : Derives workplace settings? path generations)
    (again : Derives workplace settings? path others) : others = generations := by
  obtain ⟨settings, declarations, settingsLoaded, loaded, generated⟩ := derives.loaded
  obtain ⟨settings', declarations', settingsLoaded', loaded', generated'⟩ := again.loaded
  rw [settingsLoaded] at settingsLoaded'
  cases settingsLoaded'
  rw [loaded] at loaded'
  cases loaded'
  have functional : Relator.RightUnique
      (fun declaration generation => generate settings declaration = .ok generation) := by
    intro declaration first second isFirst isSecond
    rw [isFirst] at isSecond
    exact Except.ok.inj isSecond
  exact List.right_unique_forall₂' functional generated' generated

theorem Session.EndsWith.unique {session : Session} {environment : Environment}
    {arguments : List String} {status other : Nat} {tree left : Tree} {printed shown : String}
    (ends : session.EndsWith environment arguments status tree printed)
    (again : session.EndsWith environment arguments other left shown) :
    other = status ∧ left = tree := by
  refine ⟨again.status_eq.symm.trans ends.status_eq, ?_⟩
  have same := again.workplace_eq.symm.trans ends.workplace_eq
  exact congrArg Workplace.tree same

theorem Derives.exists_succeeds {workplace : Workplace} {settings? : Option Path} {path : Path}
    {generations : List Generation} (derives : Derives workplace settings? path generations) :
    ∃ settings declarations, workplace.loadSettings settings? = .ok settings ∧
      workplace.loadDeclarations path = .ok declarations ∧
      (∀ declaration ∈ declarations, declaration.Succeeds settings) ∧
      generations = declarations.map (TypeDeclaration.generation settings) := by
  obtain ⟨settings, declarations, settingsLoaded, loaded, generated⟩ := derives.loaded
  have isAll : generateAll settings declarations = .ok generations := by
    rw [generateAll_eq_mapM, mapM_eq_ok_iff]
    refine generated.imp fun declaration generation isGenerated => ?_
    rw [generateNamed, isGenerated]
    rfl
  obtain ⟨succeeds, isMap⟩ := (judges_generateAll settings declarations).eq_ok_iff.mp isAll
  exact ⟨settings, declarations, settingsLoaded, loaded, succeeds, isMap⟩

section

variable {workplace : Workplace} {settings? : Option Path} {path : Path}
  {generations : List Generation} (derives : Derives workplace settings? path generations)

include derives

/-- The report on types that give code has their code. -/
theorem Derives.report (output? : Option String) (overwrite : Bool) :
    workplace.generateFrom path settings? output? overwrite =
        .ok (.ofAll path generations output? overwrite) ∧
      (GenerationReport.ofAll path generations output? overwrite).HasCode
        (.ofGenerations (outputPath path output?) overwrite generations) := by
  obtain ⟨settings, declarations, settingsLoaded, loaded, succeeds, rfl⟩ := derives.exists_succeeds
  refine ⟨?_, GenerationReport.hasCode_ofAll path _ output? overwrite⟩
  rw [generateFrom_of_loaded settingsLoaded loaded, reportOn_of_succeeds succeeds]

theorem Derives.isPlain_reason (path : String) (overwrite : Bool) :
    Text.IsPlain (OutputFile.ofGenerations path overwrite generations).reason := by
  obtain ⟨settings, declarations, _, _, succeeds, rfl⟩ := derives.exists_succeeds
  exact isPlain_reason_ofGenerations succeeds path overwrite

end

/-! ## Two processes -/

section

variable {workplace : Workplace} {settings? : Option Path} {path : Path} {order other : SetOrder}
  {left right : List Generation}

/-- Types give code in every process if they do in one. -/
theorem Derives.exists_inOrder (derives : Derives (workplace.inOrder order) settings? path left) :
    ∃ taken, Derives (workplace.inOrder other) settings? path taken ∧
      List.Forall₂ (Generation.Alike order other) left taken := by
  obtain ⟨settings, declarations, settingsLoaded, loaded, generated⟩ := derives.loaded
  obtain ⟨settingsTaken, settingsLoadedTaken, sameSettings⟩ :=
    Workplace.loadSettings_inOrder settingsLoaded
  obtain ⟨declarationsTaken, loadedTaken, pairs⟩ := Workplace.loadDeclarations_inOrder loaded
  obtain ⟨taken, generatedTaken, alike⟩ := exists_forall₂_of_carried pairs
    (fun _ _ pair _ isGenerated => generate_alike sameSettings pair isGenerated) generated
  exact ⟨taken, ⟨settingsTaken, declarationsTaken, settingsLoadedTaken, loadedTaken,
    generatedTaken⟩, alike⟩

/-- Writing does not look at the order of sets. -/
theorem OutputFile.write_inOrder (file : OutputFile) (workplace : Workplace) (order : SetOrder) :
    file.write (workplace.inOrder order) = file.write workplace :=
  rfl

/-- What two processes derive from one declaration file is alike. -/
theorem Derives.alike (derives : Derives (workplace.inOrder order) settings? path left)
    (derivesToo : Derives (workplace.inOrder other) settings? path right) :
    List.Forall₂ (Generation.Alike order other) left right := by
  obtain ⟨taken, derivesTaken, alike⟩ := derives.exists_inOrder
  rw [derivesTaken.unique derivesToo]
  exact alike

variable (alike : List.Forall₂ (Generation.Alike order other) left right)

include alike

theorem renderFile_eq_of_alike : Rust.renderFile left = Rust.renderFile right := by
  unfold Rust.renderFile
  rw [map_eq_of_forall₂ alike fun _ _ pair => pair.render_eq]

theorem sameCode_of_alike : SameCode order other left right where
  code := renderFile_eq_of_alike alike
  tables := by
    have sameTables := map_eq_map_iff_of_forall₂ alike fun _ _ pair => pair.toTable_eq_iff
    rw [← sameTables]
    exact ⟨Json.list.inj, congrArg Json.list⟩
  fields := List.rel_map (fun _ _ pair => pair.texts) alike

theorem outputOf_eq_of_alike (choice : GenerateOptions) :
    choice.outputOf left = choice.outputOf right := by
  have sameNames : left.map Generation.typeName = right.map Generation.typeName :=
    map_eq_of_forall₂ alike fun _ _ pair => pair.typeName
  unfold GenerateOptions.outputOf OutputFile.ofGenerations
  rw [renderFile_eq_of_alike alike, sameNames]

end

namespace Run

theorem exists_always_of_fault {workplace : Workplace} {settings? : Option Path} {quiet : Bool}
    {choice : GenerateOptions} {path : Path} {fault : ReportedFault}
    (failure : workplace.generateFrom path settings? choice.output choice.overwrite =
      .ok ((GenerationReport.begun path).failed fault)) :
    ∃ printed, Always workplace (generateCommand settings? quiet choice path) (.ok 1)
      workplace.tree printed := by
  refine ⟨if choice.json then
      (((GenerationReport.begun path).failed fault).document none).pretty ++ "\n" else "", ?_⟩
  intro now same spares
  subst same
  exact comesTo_generateCommand_of_fault spares failure

theorem exists_always_resolve_of_fault {workplace : Workplace} {settings? : Option Path}
    {choice : ShowOptions} {path : Path} {fault : ReportedFault}
    (failure : workplace.generateFrom path settings? none false =
      .ok ((GenerationReport.begun path).failed fault)) :
    ∃ printed, Always workplace (resolveCommand settings? choice path) (.ok 1) workplace.tree
      printed := by
  refine ⟨if choice.json then
      (Json.object ((GenerationReport.begun path).failed fault).tableMembers).pretty ++ "\n"
    else "", ?_⟩
  intro now same spares
  subst same
  exact comesTo_resolveCommand_of_fault spares failure

theorem always_tables {workplace : Workplace} {settings? : Option Path} {choice : ShowOptions}
    {path : Path} {generations : List Generation} (json : choice.json = true)
    (derives : Derives workplace settings? path generations) :
    Always workplace (resolveCommand settings? choice path) (.ok 0) workplace.tree
      ((Json.object (GenerationReport.ofAll path generations none false).tableMembers).pretty ++
        "\n") := by
  obtain ⟨success, code⟩ := derives.report none false
  intro now same spares
  subst same
  exact comesTo_resolveCommand_json spares json success code

theorem always_decisions {workplace : Workplace} {settings? : Option Path} {choice : ShowOptions}
    {path : Path} {generations : List Generation} (noJson : choice.json = false)
    (derives : Derives workplace settings? path generations)
    (prints : workplace.process.encoding.PrintsLines (decisionLines generations)) :
    Always workplace (resolveCommand settings? choice path) (.ok 0) workplace.tree
      (shownLines (decisionLines generations)) := by
  obtain ⟨success, code⟩ := derives.report none false
  intro now same spares
  subst same
  exact comesTo_resolveCommand_text spares noJson success code rfl prints

/-- The lines up to the first that cannot be printed are printed. -/
theorem exists_always_of_unprintable {workplace : Workplace} {settings? : Option Path}
    {choice : ShowOptions} {path : Path} {generations : List Generation}
    (noJson : choice.json = false) (derives : Derives workplace settings? path generations)
    (unprintable : ¬ workplace.process.encoding.PrintsLines (decisionLines generations)) :
    ∃ printed, Always workplace (resolveCommand settings? choice path)
      (.error (.brokenDown .unencodableText)) workplace.tree printed := by
  obtain ⟨success, code⟩ := derives.report none false
  obtain ⟨earlier, line, later, split, before, here⟩ := exists_first_unprintable unprintable
  refine ⟨shownLines earlier, ?_⟩
  intro now same spares
  subst same
  exact comesTo_resolveCommand_text_of_unprintable spares noJson success code split rfl before here

/-- Both modes leave the tree that writing leaves, and only the lines about the output may fail. -/
theorem OutputEnd.agree {encoding : OutputEncoding} {quiet : Bool} {file : OutputFile}
    {outcome : Except Breakdown WriteReport} {result other : Except EarlyEnd Nat}
    (ends : OutputEnd encoding quiet true file outcome result)
    (otherEnds : OutputEnd encoding quiet false file outcome other) :
    statusOfResult other = statusOfResult result ∨
      statusOfResult result = 0 ∧ statusOfResult other = 1 ∧
        ∃ changed, ¬ Announceable encoding quiet file changed := by
  cases otherEnds with
  | brokenDown cause =>
      cases ends
      exact Or.inl rfl
  | obstructed report obstacle =>
      cases ends with
      | obstructed _ _ =>
          exact Or.inl rfl
      | announced path changed lines _ =>
          exact absurd rfl obstacle
      | unannounced path changed lines isText _ =>
          cases isText
  | announced path changed lines _ =>
      cases ends with
      | obstructed _ obstacle =>
          exact absurd rfl obstacle
      | announced _ _ _ _ =>
          exact Or.inl rfl
      | unannounced _ _ _ isText _ =>
          cases isText
  | unannounced path changed lines _ silent =>
      cases ends with
      | obstructed _ obstacle =>
          exact absurd rfl obstacle
      | announced _ _ _ _ =>
          exact Or.inr ⟨rfl, rfl, changed, silent⟩
      | unannounced _ _ _ isText _ =>
          cases isText

end Run

/-! ## Calls that go on -/

/-- Nothing keeps calls on a declaration file from their commands, whose records go to no file. -/
structure Proceeds (session : Session) (environment : Environment) (options : GlobalOptions)
    (text : String) : Prop where
  noLogFile : environment.lookup "AUTOERROR_LOG_FILE" = none
  possible : options.NamesPossibleFile
  declared : ∀ now : Session,
    Run.declarationFault? now.workplace = Run.declarationFault? session.workplace →
    (Run.declarationOf [text]).Gives now (.ok (.ofText text))

section

variable {session : Session} {environment : Environment} {options : GlobalOptions} {text : String}

theorem CallsOn.exists_call {arguments : List String} (calls : CallsOn arguments options text) :
    ∃ onward, Call arguments options [text] onward := by
  cases calls with
  | generate choice call =>
      exact ⟨_, call.call⟩
  | resolve choice call =>
      exact ⟨_, call.call⟩

/-- Without code, every call comes to the same status. -/
theorem CallsOn.fail_or_derives (workplace : Workplace) (options : GlobalOptions) (text : String) :
    (∀ arguments, CallsOn arguments options text → ∃ onward result printed,
      Call arguments options [text] onward ∧ statusOfResult result = 1 ∧
      Run.Always workplace (onward (.ofText text)) result workplace.tree printed) ∨
    ∃ generations, Derives workplace (Run.settingsPathOf options) (.ofText text) generations := by
  cases workplace.yields (.ofText text) (Run.settingsPathOf options) with
  | breakdown cause broken =>
      left
      intro arguments calls
      cases calls with
      | generate choice call =>
          refine ⟨_, .error (.brokenDown cause), "", call.call, rfl, ?_⟩
          intro now same spares
          subst same
          exact (Run.gives_generateCommand_of_breakdown spares (broken _ _)).comesTo
      | resolve choice call =>
          refine ⟨_, .error (.brokenDown cause), "", call.call, rfl, ?_⟩
          intro now same spares
          subst same
          exact (Run.gives_resolveCommand_of_breakdown spares (broken _ _)).comesTo
  | fault fault faulty =>
      left
      intro arguments calls
      cases calls with
      | generate choice call =>
          obtain ⟨printed, always⟩ := Run.exists_always_of_fault (faulty choice.output _)
          exact ⟨_, .ok 1, printed, call.call, rfl, always⟩
      | resolve choice call =>
          obtain ⟨printed, always⟩ := Run.exists_always_resolve_of_fault (faulty none false)
          exact ⟨_, .ok 1, printed, call.call, rfl, always⟩
  | code settings declarations settingsLoaded declarationsLoaded succeeds _ =>
      exact Or.inr ⟨_, derives_of_succeeds settingsLoaded declarationsLoaded succeeds⟩

namespace Proceeds

theorem endsWith (proceeds : Proceeds session environment options text)
    {arguments : List String} {onward : Path → Run Nat}
    (call : Call arguments options [text] onward) {result : Except EarlyEnd Nat} {tree : Tree}
    {printed : String}
    (always : Run.Always session.workplace (onward (.ofText text)) result tree printed) :
    session.EndsWith environment arguments (statusOfResult result) tree printed :=
  call.endsWith proceeds.noLogFile proceeds.possible
    (fun now same => proceeds.declared now (congrArg Run.declarationFault? same)) always

/-- What may be a declaration file does not depend on the order of sets. -/
theorem inOrder (proceeds : Proceeds session environment options text) (order : SetOrder) :
    Proceeds (session.inOrder order) environment options text where
  noLogFile := proceeds.noLogFile
  possible := proceeds.possible
  declared := proceeds.declared

theorem endsWith_or_derives (proceeds : Proceeds session environment options text) :
    (∀ arguments, CallsOn arguments options text →
      ∃ printed, session.EndsWith environment arguments 1 session.workplace.tree printed) ∨
    ∃ generations,
      Derives session.workplace (Run.settingsPathOf options) (.ofText text) generations := by
  rcases CallsOn.fail_or_derives session.workplace options text with fails | derives
  · left
    intro arguments calls
    obtain ⟨onward, result, printed, call, isOne, always⟩ := fails arguments calls
    have ends := proceeds.endsWith call always
    rw [isOne] at ends
    exact ⟨printed, ends⟩
  · exact Or.inr derives

end Proceeds

/-- Calls on a declaration file go on, and its types give code. -/
structure GoesOnWith (session : Session) (environment : Environment) (options : GlobalOptions)
    (text : String) (generations : List Generation) : Prop
    extends Proceeds session environment options text where
  derives : Derives session.workplace (Run.settingsPathOf options) (.ofText text) generations

namespace GoesOnWith

variable {generations : List Generation} {arguments : List String}

section

variable {choice : GenerateOptions}
  (goesOn : GoesOnWith session environment options text generations)
  (call : GenerateCall arguments options choice [text])

include goesOn call

theorem document (json : choice.json = true) (unasked : ¬ choice.AsksForOutput) :
    ∃ document : Json, session.EndsWith environment arguments 0 session.workplace.tree
        (document.pretty ++ "\n") ∧
      document.member? "types" = some (tablesOf generations) ∧
      (document.member? "file" >>= Json.member? "content") =
        some (.text (Rust.renderFile generations)) := by
  obtain ⟨success, code⟩ := goesOn.derives.report choice.output choice.overwrite
  exact ⟨_, goesOn.endsWith call.call (Run.always_document unasked json success code), rfl, rfl⟩

theorem content (noJson : choice.json = false) (unasked : ¬ choice.AsksForOutput)
    (prints : session.workplace.process.encoding.Prints (Rust.renderFile generations)) :
    session.EndsWith environment arguments 0 session.workplace.tree
      (Text.withoutStyling (Rust.renderFile generations)) := by
  obtain ⟨success, code⟩ := goesOn.derives.report choice.output choice.overwrite
  exact goesOn.endsWith call.call (Run.always_content unasked noJson success code prints)

theorem noContent (noJson : choice.json = false) (unasked : ¬ choice.AsksForOutput)
    (unprintable : ¬ session.workplace.process.encoding.Prints (Rust.renderFile generations)) :
    session.EndsWith environment arguments 1 session.workplace.tree "" := by
  obtain ⟨success, code⟩ := goesOn.derives.report choice.output choice.overwrite
  exact goesOn.endsWith call.call
    (Run.always_content_of_unprintable unasked noJson success code unprintable)

/-- A call with an output leaves the tree that writing leaves. -/
theorem exists_outputEnd (asks : choice.AsksForOutput) {tree : Tree}
    {outcome : Except Breakdown WriteReport}
    (wrote : (choice.outputOf generations).write session.workplace = (tree, outcome)) :
    ∃ result printed,
      session.EndsWith environment arguments (statusOfResult result) tree printed ∧
      Run.OutputEnd session.workplace.process.encoding options.quiet choice.json
        (choice.outputOf generations) outcome result := by
  obtain ⟨success, code⟩ := goesOn.derives.report choice.output choice.overwrite
  have plain := goesOn.derives.isPlain_reason (outputPath (.ofText text) choice.output)
    choice.overwrite
  rw [outputOf_eq asks] at code plain
  obtain ⟨result, printed, always, ends, _⟩ :=
    Run.exists_always_of_asked options.quiet asks plain success code wrote
  exact ⟨result, printed, goesOn.endsWith call.call always, ends⟩

/-- What a successful call has written is read back as the code. -/
theorem exists_decoded (asks : choice.AsksForOutput) {tree : Tree} {printed : String}
    (ends : session.EndsWith environment arguments 0 tree printed) :
    ∃ present decoded, Workplace.fileAt? { session.workplace with tree }
        ((choice.outputOf generations).target session.workplace.folder) = .ok (some present) ∧
      Text.decode? present.content = some decoded ∧
      Text.codePoints decoded = Text.codePoints (Rust.renderFile generations) := by
  obtain ⟨result, left, shown, always, effect⟩ := Run.exists_generateEffect session.workplace
    (Run.settingsPathOf options) options.quiet choice (.ofText text)
  obtain ⟨success, rfl⟩ := ends.unique (goesOn.endsWith call.call always)
  obtain ⟨taken, bytes, derives, encoded, holds⟩ := effect.asked success asks
  have same := goesOn.derives.unique derives
  rw [same] at encoded holds
  obtain ⟨present, isContent, _, found⟩ := holds.found
  obtain ⟨decoded, decodes, samePoints⟩ := Text.decode?_of_encode? encoded
  exact ⟨present, decoded, found, by rw [isContent, decodes], samePoints⟩

end

section

variable {choice : ShowOptions} (goesOn : GoesOnWith session environment options text generations)
  (call : ResolveCall arguments options choice [text])

include goesOn call

theorem tables (json : choice.json = true) :
    ∃ document : Json, session.EndsWith environment arguments 0 session.workplace.tree
        (document.pretty ++ "\n") ∧
      document.member? "types" = some (tablesOf generations) :=
  ⟨_, goesOn.endsWith call.call (Run.always_tables json goesOn.derives), rfl⟩

theorem decisions (noJson : choice.json = false)
    (prints : session.workplace.process.encoding.PrintsLines (decisionLines generations)) :
    session.EndsWith environment arguments 0 session.workplace.tree
      (shownLines (decisionLines generations)) :=
  goesOn.endsWith call.call (Run.always_decisions noJson goesOn.derives prints)

theorem noDecisions (noJson : choice.json = false)
    (unprintable : ¬ session.workplace.process.encoding.PrintsLines (decisionLines generations)) :
    ∃ printed, session.EndsWith environment arguments 1 session.workplace.tree printed := by
  obtain ⟨printed, always⟩ := Run.exists_always_of_unprintable noJson goesOn.derives unprintable
  exact ⟨printed, goesOn.endsWith call.call always⟩

end

end GoesOnWith

/-- With code in every process, every call comes to what its mode makes of it. -/
theorem outputModes_of_goesOnWith {generations : SetOrder → List Generation}
    (goesOn : ∀ order,
      GoesOnWith (session.inOrder order) environment options text (generations order)) :
    OutputModes session environment options text generations where
  sameCode order other := sameCode_of_alike ((goesOn order).derives.alike (goesOn other).derives)
  document order _ _ call := (goesOn order).document call
  tables order _ _ call := (goesOn order).tables call
  content order _ _ call := (goesOn order).content call
  noContent order _ _ call := (goesOn order).noContent call
  decisions order _ _ call := (goesOn order).decisions call
  noDecisions order _ _ call := (goesOn order).noDecisions call
  outputs := by
    intro order otherOrder arguments choice others other call otherCall json noJson asks sameOutput
      sameOverwrite
    have otherAsks : other.AsksForOutput := by
      rw [GenerateOptions.AsksForOutput, sameOutput]
      exact asks
    have sameFile : other.outputOf (generations otherOrder) =
        choice.outputOf (generations order) := by
      rw [outputOf_eq_of_alike ((goesOn order).derives.alike (goesOn otherOrder).derives)]
      unfold GenerateOptions.outputOf
      rw [sameOutput, sameOverwrite]
    rcases wrote : (choice.outputOf (generations order)).write session.workplace with
      ⟨tree, outcome⟩
    have wroteHere : (choice.outputOf (generations order)).write
        (session.inOrder order).workplace = (tree, outcome) := by
      rw [session.workplace_inOrder, OutputFile.write_inOrder, wrote]
    have wroteThere : (other.outputOf (generations otherOrder)).write
        (session.inOrder otherOrder).workplace = (tree, outcome) := by
      rw [sameFile, session.workplace_inOrder, OutputFile.write_inOrder, wrote]
    obtain ⟨result, printed, ran, ends⟩ :=
      (goesOn order).exists_outputEnd call asks wroteHere
    obtain ⟨otherResult, otherPrinted, otherRan, otherEnds⟩ :=
      (goesOn otherOrder).exists_outputEnd otherCall otherAsks wroteThere
    rw [json] at ends
    rw [noJson, sameFile] at otherEnds
    exact ⟨_, _, tree, printed, otherPrinted, ran, otherRan, ends.agree otherEnds⟩
  decoded order _ _ call asks _ _ := (goesOn order).exists_decoded call asks

/-- Calls on one declaration file fail with one status and change no file, or the types of the file
give code, and each call prints or writes it in its own mode.  The order of sets may be another one
in every run. -/
theorem modes_agree (session : Session)
    (noLogFile : environment.lookup "AUTOERROR_LOG_FILE" = none) (options : GlobalOptions)
    (text : String) :
    (∃ status, status ≠ 0 ∧ ∀ order arguments, CallsOn arguments options text →
      ∃ printed, (session.inOrder order).EndsWith environment arguments status
        session.workplace.tree printed) ∨
    ∃ generations : SetOrder → List Generation,
      (∀ order, Derives (session.workplace.inOrder order) (Run.settingsPathOf options)
        (.ofText text) (generations order)) ∧
      OutputModes session environment options text generations := by
  by_cases possible : options.NamesPossibleFile
  · obtain ⟨named, declared, isPath⟩ := Run.exists_declarationOf [text] session.workplace
    cases named with
    | error early =>
        refine Or.inl ⟨early.status, early.status_ne_zero, ?_⟩
        intro order arguments calls
        obtain ⟨onward, call⟩ := calls.exists_call
        refine ⟨"", call.endsWith_of_undeclared noLogFile possible ?_⟩
        intro now same
        exact declared now (by rw [same]; rfl)
    | ok path =>
        obtain ⟨same, isText, rfl⟩ := isPath path rfl
        obtain rfl : text = same := List.singleton_inj.mp isText
        have proceeds : Proceeds session environment options text :=
          ⟨noLogFile, possible, declared⟩
        by_cases derived : ∃ generations, Derives (session.workplace.inOrder .asAdded)
            (Run.settingsPathOf options) (.ofText text) generations
        · obtain ⟨generations, derives⟩ := derived
          have derivesAll : ∀ order, ∃ taken, Derives (session.workplace.inOrder order)
              (Run.settingsPathOf options) (.ofText text) taken := by
            intro order
            obtain ⟨taken, derivesTaken, _⟩ := derives.exists_inOrder
            exact ⟨taken, derivesTaken⟩
          choose all derivesAll using derivesAll
          exact Or.inr ⟨all, derivesAll, outputModes_of_goesOnWith fun order =>
            ⟨proceeds.inOrder order, derivesAll order⟩⟩
        · refine Or.inl ⟨1, Nat.one_ne_zero, ?_⟩
          intro order
          rcases (proceeds.inOrder order).endsWith_or_derives with failing | ⟨taken, derives⟩
          · exact failing
          · obtain ⟨generations, derivesHere, _⟩ := derives.exists_inOrder
            exact absurd ⟨generations, derivesHere⟩ derived
  · refine Or.inl ⟨1, Nat.one_ne_zero, ?_⟩
    intro order arguments calls
    obtain ⟨onward, call⟩ := calls.exists_call
    exact ⟨"", call.endsWith_of_impossibleFile possible⟩

end

/-! ## Fields given as a set -/

/-- The items come out last to first. -/
def SetOrder.backwards : SetOrder where
  arrange := List.reverse
  perm := List.reverse_perm

/-- A file with a variant whose fields are given as a set. -/
def fieldSet : Workplace where
  tree := ⟨[("e.yml", .file { content := ("name: E\nvariants: [\x7bname: A, fields: !!set " ++
    "\x7bInt, Text\x7d\x7d]\n").toList.map fun letter => UInt8.ofNat letter.toNat })]⟩
  folder := []

example :
    let fieldsIn := fun order : SetOrder =>
      ((fieldSet.inOrder order).generateFrom (.ofText "e.yml") none none false).toOption.map
        fun report => report.results.map Generation.fieldTexts
    fieldsIn .asAdded = some [[["Int", "Text"]]] ∧
      fieldsIn .backwards = some [[["Text", "Int"]]] := by
  decide +kernel

/-! ## A text that cannot be printed -/

theorem document_escapedPair :
    ∃ printed, Session.EndsWith { workplace := escapedPair } [] ["generate", "e.yml", "--json"] 0
      escapedPair.tree printed := by
  have call : GenerateCall ["generate", "e.yml", "--json"] {} { json := true } ["e.yml"] :=
    ⟨⟨["e.yml", "--json"], rfl, rfl⟩, rfl, rfl⟩
  obtain ⟨_, report, file, success, code, _⟩ := exists_report_escapedPair { json := true }
  exact ⟨_, endsWith_escapedPair call.call
    (Run.always_document (by decide) rfl success code)⟩

/-- The text of the generated code fails where its document is printed. -/
theorem text_fails_where_document_prints :
    (Session.run { workplace := escapedPair } [] ["generate", "e.yml"]).2.status = 1 ∧
      (Session.run { workplace := escapedPair } [] ["generate", "e.yml", "--json"]).2.status =
        0 := by
  have call : GenerateCall ["generate", "e.yml"] {} {} ["e.yml"] :=
    ⟨⟨["e.yml"], rfl, rfl⟩, rfl, rfl⟩
  obtain ⟨_, report, file, success, code, content, _⟩ := exists_report_escapedPair {}
  have unprintable : ¬ escapedPair.process.encoding.Prints file.content := by
    rw [content]
    exact not_prints_pairCode
  have failed := endsWith_escapedPair call.call
    (Run.always_content_of_unprintable (by decide) rfl success code unprintable)
  obtain ⟨printed, ended⟩ := document_escapedPair
  exact ⟨failed.status_eq, ended.status_eq⟩

/-- The types of the file give code, so the calls on it come to what their modes make of it. -/
theorem modes_escapedPair :
    List.lookup "AUTOERROR_LOG_FILE" ([] : Environment) = none ∧
      ∃ generations : SetOrder → List Generation,
        (∀ order, Derives (escapedPair.inOrder order) none (.ofText "e.yml")
          (generations order)) ∧
        OutputModes { workplace := escapedPair } [] {} "e.yml" generations := by
  refine ⟨rfl, ?_⟩
  rcases @modes_agree [] { workplace := escapedPair } rfl {} "e.yml" with
    ⟨status, failed, all⟩ | derived
  · have call : GenerateCall ["generate", "e.yml", "--json"] {} { json := true } ["e.yml"] :=
      ⟨⟨["e.yml", "--json"], rfl, rfl⟩, rfl, rfl⟩
    obtain ⟨shown, ends⟩ := all .asAdded _ (.generate _ call)
    obtain ⟨printed, ended⟩ := document_escapedPair
    exact absurd (ended.unique ends).1 failed
  · exact derived

end ErrorDerive
