import ErrorDerive.Proofs.Generation.WholeFile
import ErrorDerive.Proofs.Session.Outcomes

/-!
# What the commands come to

Printing fails exactly at a text with a character that the output cannot show, once its styling is
left out.  A document is always printed; a generated file, a table of decisions and a path may fail.

* `OutputEncoding.Prints` says that something is printed of a text;
* `Run.comesTo_generateCommand_json` and its companions say what generating code comes to, from the
  report on the declaration file and from what writing comes to;
* `Run.comesTo_resolveCommand_json` and its companions do so for showing decisions.
-/

namespace ErrorDerive

namespace OutputEncoding

/-- Something is printed of a text. -/
def Prints (encoding : OutputEncoding) (text : String) : Prop :=
  ∀ code ∈ Text.codePoints (Text.withoutStyling text), encoding.has code = true

instance (encoding : OutputEncoding) (text : String) : Decidable (encoding.Prints text) :=
  List.decidableBAll (fun code => encoding.has code = true) _

/-- Something is printed of every text, each on a line of its own. -/
def PrintsLines (encoding : OutputEncoding) (texts : List String) : Prop :=
  ∀ text ∈ texts, encoding.Prints (text ++ "\n")

instance (encoding : OutputEncoding) (texts : List String) :
    Decidable (encoding.PrintsLines texts) :=
  List.decidableBAll (fun text => encoding.Prints (text ++ "\n")) texts

theorem prints_iff {encoding : OutputEncoding} {text : String} :
    encoding.Prints text ↔
      (Text.codePoints (Text.withoutStyling text)).all encoding.has = true :=
  List.all_eq_true.symm

theorem unicode_prints_iff {text : String} :
    unicode.Prints text ↔ Text.holdsSurrogate (Text.withoutStyling text) = false := by
  simp [Prints, Text.holdsSurrogate, unicode]

theorem prints_of_isAscii (encoding : OutputEncoding) {text : String} (ascii : Text.IsAscii text) :
    encoding.Prints text := by
  intro code member
  rw [ascii.isPlain.withoutStyling_eq, ascii.isPlain.codePoints_eq] at member
  obtain ⟨letter, isLetter, rfl⟩ := List.mem_map.mp member
  exact encoding.hasAscii _ (ascii letter isLetter).1

/-- An output that shows the check mark shows every plain text. -/
theorem prints_of_isPlain {encoding : OutputEncoding}
    (hasMark : encoding.has checkMark.toNat = true) {text : String} (plain : Text.IsPlain text) :
    encoding.Prints text := by
  intro code member
  rw [plain.withoutStyling_eq, plain.codePoints_eq] at member
  obtain ⟨letter, _, rfl⟩ := List.mem_map.mp member
  exact encoding.isWhole hasMark _ (Text.not_isSurrogate_toNat letter)

theorem has_of_prints_append {encoding : OutputEncoding} {front : String}
    (plain : Text.IsPlain front) {letter : Char} (member : letter ∈ front.toList) {rest : String}
    (prints : encoding.Prints (front ++ rest)) : encoding.has letter.toNat = true := by
  have noStyle : Text.escapeLetter ∉ front.toList := fun isStyle => (plain _ isStyle).2 rfl
  have noMark : Text.mark ∉ front.toList := fun isMark => (plain _ isMark).1 rfl
  apply prints
  rw [Text.withoutStyling_append_of_absent noStyle, Text.codePoints, String.toList_append,
    Text.codesFrom_append_of_noMark noMark]
  apply Text.mem_codesFrom_of_mem_seen
  rw [List.append_nil, List.mem_reverse]
  exact List.mem_map_of_mem member

end OutputEncoding

theorem Text.isPlain_of_isIdentifier {text : String} (identifier : isIdentifier text = true) :
    IsPlain text := by
  have stops : continuesIdentifier mark = false ∧ continuesIdentifier escapeLetter = false := by
    decide +kernel
  intro letter member
  have continues := continues_of_isIdentifierWord identifier member
  constructor
  · rintro rfl
    rw [stops.1] at continues
    cases continues
  · rintro rfl
    rw [stops.2] at continues
    cases continues

/-- The names of types do not keep an output from being announced. -/
theorem isPlain_reason_ofGenerations
    {settings : Settings} {declarations : List TypeDeclaration}
    (succeeds : ∀ declaration ∈ declarations, declaration.Succeeds settings)
    (path : String) (overwrite : Bool) :
    Text.IsPlain (OutputFile.ofGenerations path overwrite
      (declarations.map (TypeDeclaration.generation settings))).reason := by
  have plainComma : Text.IsPlain ", " := by decide
  refine Text.isOf_intercalate plainComma ?_
  intro name isName
  simp only [List.map_map, List.mem_map] at isName
  obtain ⟨declaration, member, rfl⟩ := isName
  obtain ⟨generation, generated⟩ := succeeds declaration member
  exact Text.isPlain_of_isIdentifier (generation_of_generate generated).1.isNamed

/-- A report without an error has this file. -/
structure GenerationReport.HasCode (report : GenerationReport) (file : OutputFile) : Prop where
  noError : report.error = none
  hasFile : report.generated = some file

namespace GenerationReport.HasCode

variable {report : GenerationReport} {file : OutputFile}

theorem isOk_eq (code : report.HasCode file) : report.isOk = true := by
  rw [isOk, code.noError]
  rfl

theorem spokenError?_eq (code : report.HasCode file) : report.spokenError? = none := by
  rw [spokenError?, code.noError]
  rfl

end GenerationReport.HasCode

/-- What showing decisions prints about types. -/
def decisionLines (generations : List Generation) : List String :=
  generations.flatMap generationLines ++ [""]

/-- What is shown of texts that are printed on lines of their own. -/
def shownLines (texts : List String) : String :=
  String.join (texts.map fun text => Text.withoutStyling (text ++ "\n"))

/-- What writing an output comes to where one was asked for. -/
def OutputFile.written (file : OutputFile) (workplace : Workplace) (output? : Option String) :
    Tree × Except Breakdown (Option WriteReport) :=
  if output?.getD "" = "" then (workplace.tree, .ok none)
  else ((file.write workplace).1, (file.write workplace).2.map some)

/-- The document about a report and about what was written. -/
def GenerationReport.document (report : GenerationReport) (written? : Option WriteReport) : Json :=
  .object (report.members ++ (written?.map fun written => ("written", written.toJson)).toList)

/-- The lines about a file that was written can be printed, or are not asked for. -/
def Announceable (encoding : OutputEncoding) (quiet : Bool) (file : OutputFile) (changed : Bool) :
    Prop :=
  quiet = true ∨ encoding.PrintsLines (writtenLines file changed)

theorem exists_first_unprintable {encoding : OutputEncoding} {texts : List String}
    (unprintable : ¬ encoding.PrintsLines texts) :
    ∃ earlier text later, texts = earlier ++ text :: later ∧
      encoding.PrintsLines earlier ∧ ¬ encoding.Prints (text ++ "\n") := by
  induction texts with
  | nil =>
      exact absurd nofun unprintable
  | cons first rest ih =>
      by_cases printable : encoding.Prints (first ++ "\n")
      · have inRest : ¬ encoding.PrintsLines rest := by
          intro others
          exact unprintable (List.forall_mem_cons.mpr ⟨printable, others⟩)
        obtain ⟨earlier, found, later, split, before, fails⟩ := ih inRest
        exact ⟨first :: earlier, found, later, by rw [split, List.cons_append],
          List.forall_mem_cons.mpr ⟨printable, before⟩, fails⟩
      · exact ⟨[], first, rest, rfl, nofun, printable⟩

namespace Run

variable {session : Session} {encoding : OutputEncoding}

/-! ## Printing -/

theorem comesTo_print (uses : session.workplace.process.encoding = encoding) {text : String}
    (prints : encoding.Prints text) :
    (print text).ComesTo session (.ok ()) session.workplace.tree (Text.withoutStyling text) := by
  subst uses
  refine gives_workplace.bind_comesTo fun errors => ?_
  rw [if_neg (by simpa using OutputEncoding.prints_iff.mp prints)]
  exact ⟨errors, rfl⟩

theorem gives_print (uses : session.workplace.process.encoding = encoding) {text : String}
    (unprintable : ¬ encoding.Prints text) :
    (print text).Gives session (.error (.brokenDown .unencodableText)) := by
  subst uses
  refine gives_workplace.bind fun _ => ?_
  rw [if_pos (by simpa using fun prints => unprintable (OutputEncoding.prints_iff.mpr prints))]
  exact (gives_throw _).bind_error

theorem comesTo_printLines (uses : session.workplace.process.encoding = encoding)
    {texts : List String} (prints : encoding.PrintsLines texts) :
    (printLines texts).ComesTo session (.ok ()) session.workplace.tree (shownLines texts) := by
  induction texts generalizing session with
  | nil =>
      exact (gives_pure ()).comesTo
  | cons text rest ih =>
      have shown : shownLines (text :: rest) =
          Text.withoutStyling (text ++ "\n") ++ shownLines rest := by
        simp [shownLines]
      rw [shown]
      refine (comesTo_print uses (prints text List.mem_cons_self)).bind fun _ => ?_
      exact ih uses fun later member => prints later (List.mem_cons_of_mem text member)

/-- Lines are printed up to the first that cannot be. -/
theorem comesTo_printLines_of_unprintable
    (uses : session.workplace.process.encoding = encoding) {earlier : List String} {text : String}
    (prints : encoding.PrintsLines earlier) (unprintable : ¬ encoding.Prints (text ++ "\n"))
    (later : List String) :
    (printLines (earlier ++ text :: later)).ComesTo session (.error (.brokenDown .unencodableText))
      session.workplace.tree (shownLines earlier) := by
  have cut : printLines (earlier ++ text :: later) =
      (do printLines earlier; printLine text; printLines later : Run Unit) := by
    simp [printLines, List.forM_append]
  rw [cut]
  refine (comesTo_printLines uses prints).bind_gives fun errors => Gives.bind_error ?_
  let now := session.after session.workplace.tree (shownLines earlier) errors
  have usesOn : now.workplace.process.encoding = encoding := uses
  exact gives_print usesOn unprintable

theorem gives_printFault (message : String) : (printFault message).Gives session (.ok ()) :=
  ⟨_, rfl⟩

/-- A document can always be printed, and is printed as it is. -/
theorem comesTo_printDocument (document : Json) :
    (printDocument document).ComesTo session (.ok ()) session.workplace.tree
      (document.pretty ++ "\n") := by
  have ascii : Text.IsAscii (document.pretty ++ "\n") := by
    have asciiEnd : Text.IsAscii "\n" := by decide
    simp [document.isAscii_pretty, asciiEnd]
  have printed : (print (document.pretty ++ "\n")).ComesTo session (.ok ()) session.workplace.tree
      (Text.withoutStyling (document.pretty ++ "\n")) :=
    comesTo_print rfl (OutputEncoding.prints_of_isAscii _ ascii)
  rw [ascii.isPlain.withoutStyling_eq] at printed
  rw [printDocument, printLine]
  exact printed

/-! ## Generating code -/

section

variable {settings? : Option Path} {quiet : Bool} {choice : GenerateOptions} {declaration : Path}

theorem gives_generateCommand_of_breakdown (spares : session.logging.SparesFiles)
    {cause : Breakdown}
    (failure : session.workplace.generateFrom declaration settings? choice.output
      choice.overwrite = .error cause) :
    (generateCommand settings? quiet choice declaration).Gives session
      (.error (.brokenDown cause)) := by
  have report := gives_generateFrom spares declaration settings? choice.output choice.overwrite
  rw [failure] at report
  exact report.bind_error

theorem comesTo_generateCommand_of_fault (spares : session.logging.SparesFiles)
    {fault : ReportedFault} (failure : session.workplace.generateFrom declaration settings?
      choice.output choice.overwrite = .ok ((GenerationReport.begun declaration).failed fault)) :
    (generateCommand settings? quiet choice declaration).ComesTo session (.ok 1)
      session.workplace.tree
      (if choice.json then
        (((GenerationReport.begun declaration).failed fault).document none).pretty ++ "\n"
      else "") := by
  have report := gives_generateFrom spares declaration settings? choice.output choice.overwrite
  rw [failure] at report
  unfold generateCommand
  refine report.bind_comesTo fun _ => ?_
  refine Gives.bind_comesTo (gives_pure none) fun _ => ?_
  cases choice.json with
  | true =>
      exact (comesTo_printDocument _).bind_gives fun _ => gives_pure 1
  | false =>
      rw [GenerationReport.spokenError?_failed]
      exact ((gives_printFault fault.message).bind fun _ => gives_pure (1 : Nat)).comesTo

theorem comesTo_writeProduct (spares : session.logging.SparesFiles) (output? : Option String)
    {report : GenerationReport} {file : OutputFile} (code : report.HasCode file) :
    (writeProduct output? report).ComesTo session
      ((file.written session.workplace output?).2.mapError .brokenDown)
      (file.written session.workplace output?).1 "" := by
  rw [writeProduct, code.hasFile, OutputFile.written]
  dsimp only
  split
  · exact (gives_pure none).comesTo
  · have written := comesTo_write spares file
    dsimp only
    generalize (file.write session.workplace).2 = outcome at written ⊢
    cases outcome with
    | error cause =>
        exact written.bind_error
    | ok report =>
        exact written.bind_gives fun _ => gives_pure (some report)

theorem comesTo_generateCommand_of_writeBreakdown (spares : session.logging.SparesFiles)
    {report : GenerationReport} {file : OutputFile}
    (success : session.workplace.generateFrom declaration settings? choice.output
      choice.overwrite = .ok report) (code : report.HasCode file) {tree : Tree}
    {cause : Breakdown}
    (failure : file.written session.workplace choice.output = (tree, .error cause)) :
    (generateCommand settings? quiet choice declaration).ComesTo session
      (.error (.brokenDown cause)) tree "" := by
  have reported := gives_generateFrom spares declaration settings? choice.output choice.overwrite
  rw [success] at reported
  unfold generateCommand
  refine reported.bind_comesTo fun errors => ?_
  have sparesOn : (session.withErrors errors).logging.SparesFiles := spares
  have written := comesTo_writeProduct sparesOn choice.output code
  rw [Session.workplace_withErrors, failure] at written
  exact written.bind_error

/-- With a document asked for, the document is printed, whatever became of the output. -/
theorem comesTo_generateCommand_json (spares : session.logging.SparesFiles)
    (json : choice.json = true) {report : GenerationReport} {file : OutputFile}
    (success : session.workplace.generateFrom declaration settings? choice.output
      choice.overwrite = .ok report) (code : report.HasCode file) {tree : Tree}
    {written? : Option WriteReport}
    (wrote : file.written session.workplace choice.output = (tree, .ok written?)) :
    (generateCommand settings? quiet choice declaration).ComesTo session
      (.ok (statusOf (written?.any fun written => written.obstacle?.isSome))) tree
      ((report.document written?).pretty ++ "\n") := by
  have reported := gives_generateFrom spares declaration settings? choice.output choice.overwrite
  rw [success] at reported
  unfold generateCommand
  refine reported.bind_comesTo fun errors => ?_
  have sparesOn : (session.withErrors errors).logging.SparesFiles := spares
  have written := comesTo_writeProduct sparesOn choice.output code
  rw [Session.workplace_withErrors, wrote] at written
  refine written.bind_comesTo fun _ => ?_
  rw [if_pos json, code.isOk_eq]
  exact (comesTo_printDocument _).bind_gives fun _ => gives_pure _

/-- With no document asked for, the command prints in the tree that writing leaves. -/
theorem comesTo_generateCommand_text (spares : session.logging.SparesFiles)
    (text : choice.json = false) {report : GenerationReport} {file : OutputFile}
    (success : session.workplace.generateFrom declaration settings? choice.output
      choice.overwrite = .ok report) (code : report.HasCode file) {tree : Tree}
    {written? : Option WriteReport}
    (wrote : file.written session.workplace choice.output = (tree, .ok written?))
    {result : Except EarlyEnd Nat} {printed : String}
    (prints : ∀ now : Session,
      now.workplace.process.encoding = session.workplace.process.encoding →
      (printProduct quiet file written?).ComesTo now result now.workplace.tree printed) :
    (generateCommand settings? quiet choice declaration).ComesTo session result tree printed := by
  have reported := gives_generateFrom spares declaration settings? choice.output choice.overwrite
  rw [success] at reported
  unfold generateCommand
  refine reported.bind_comesTo fun errors => ?_
  have sparesOn : (session.withErrors errors).logging.SparesFiles := spares
  have written := comesTo_writeProduct sparesOn choice.output code
  rw [Session.workplace_withErrors, wrote] at written
  refine written.bind_comesTo fun _ => ?_
  rw [if_neg (by simp [text]), code.spokenError?_eq, code.hasFile]
  exact prints _ rfl

/-! ### Printing what came of it -/

section

variable {file : OutputFile}

theorem comesTo_printProduct_of_content
    (uses : session.workplace.process.encoding = encoding)
    (prints : encoding.Prints file.content) :
    (printProduct quiet file none).ComesTo session (.ok 0) session.workplace.tree
      (Text.withoutStyling file.content) :=
  (comesTo_print uses prints).bind_gives fun _ => gives_pure 0

theorem comesTo_printProduct_of_unprintable
    (uses : session.workplace.process.encoding = encoding)
    (unprintable : ¬ encoding.Prints file.content) :
    (printProduct quiet file none).ComesTo session (.error (.brokenDown .unencodableText))
      session.workplace.tree "" :=
  (gives_print uses unprintable).bind_error.comesTo

theorem comesTo_printProduct_of_obstacle {report : WriteReport}
    (obstacle : report.obstacle? ≠ none) :
    (printProduct quiet file (some report)).ComesTo session (.ok 1) session.workplace.tree
      "" := by
  cases report with
  | written path changed lines =>
      exact absurd rfl obstacle
  | incomplete path | alreadyThere path =>
      exact ((gives_printFault _).bind fun _ => gives_pure (1 : Nat)).comesTo

theorem comesTo_printProduct_of_announceable
    (uses : session.workplace.process.encoding = encoding) {path : String} {changed : Bool}
    {lines : Option LineCounts} (announceable : Announceable encoding quiet file changed) :
    (printProduct quiet file (some (.written path changed lines))).ComesTo session (.ok 0)
      session.workplace.tree
      (if quiet then "" else shownLines (writtenLines file changed)) := by
  unfold printProduct
  cases quiet with
  | true =>
      exact (gives_pure 0).comesTo
  | false =>
      have prints := announceable.resolve_left (by decide)
      exact (comesTo_printLines uses prints).bind_gives fun _ => gives_pure 0

/-- Only the first of the two lines may fail, so nothing has been printed before: an output that
shows the check mark of the first shows the second. -/
theorem comesTo_printProduct_of_not_announceable
    (uses : session.workplace.process.encoding = encoding) (plain : Text.IsPlain file.reason)
    {path : String} {changed : Bool} {lines : Option LineCounts}
    (silent : ¬ Announceable encoding quiet file changed) :
    (printProduct quiet file (some (.written path changed lines))).ComesTo session
      (.error (.brokenDown .unencodableText)) session.workplace.tree "" := by
  obtain ⟨loud, unprintable⟩ := not_or.mp silent
  have first : ¬ encoding.Prints ("✅ Wrote " ++ file.path ++ " (" ++
      (if changed then "updated" else "unchanged") ++ ")" ++ "\n") := by
    intro prints
    have plainFront : Text.IsPlain "✅ Wrote " := by decide
    have hasMark : encoding.has checkMark.toNat = true := by
      simp only [String.append_assoc] at prints
      exact OutputEncoding.has_of_prints_append plainFront (by decide) prints
    have plainLabel : Text.IsPlain "   Types: " := by decide
    have plainEnd : Text.IsPlain "\n" := by decide
    apply unprintable
    intro line member
    simp only [writtenLines, List.mem_cons, List.not_mem_nil, or_false] at member
    rcases member with rfl | rfl
    · exact prints
    · exact OutputEncoding.prints_of_isPlain hasMark (by simp [plain, plainLabel, plainEnd])
  have none : encoding.PrintsLines [] := nofun
  unfold printProduct
  dsimp only
  rw [if_neg loud]
  exact (comesTo_printLines_of_unprintable uses none first ["   Types: " ++ file.reason]).bind_error

end

end

/-! ## Showing decisions -/

section

variable {settings? : Option Path} {choice : ShowOptions} {declaration : Path}

theorem gives_resolveCommand_of_breakdown (spares : session.logging.SparesFiles)
    {cause : Breakdown} (failure : session.workplace.generateFrom declaration settings? none false =
      .error cause) :
    (resolveCommand settings? choice declaration).Gives session (.error (.brokenDown cause)) := by
  have report := gives_generateFrom spares declaration settings? none false
  rw [failure] at report
  exact report.bind_error

theorem comesTo_resolveCommand_of_fault (spares : session.logging.SparesFiles)
    {fault : ReportedFault} (failure : session.workplace.generateFrom declaration settings? none
      false = .ok ((GenerationReport.begun declaration).failed fault)) :
    (resolveCommand settings? choice declaration).ComesTo session (.ok 1) session.workplace.tree
      (if choice.json then (Json.object
        ((GenerationReport.begun declaration).failed fault).tableMembers).pretty ++ "\n"
      else "") := by
  have report := gives_generateFrom spares declaration settings? none false
  rw [failure] at report
  unfold resolveCommand
  refine report.bind_comesTo fun _ => ?_
  cases choice.json with
  | true =>
      exact (comesTo_printDocument _).bind_gives fun _ => gives_pure 1
  | false =>
      rw [GenerationReport.spokenError?_failed]
      exact ((gives_printFault fault.message).bind fun _ => gives_pure (1 : Nat)).comesTo

variable {report : GenerationReport} {file : OutputFile}

theorem comesTo_resolveCommand_json (spares : session.logging.SparesFiles)
    (json : choice.json = true)
    (success : session.workplace.generateFrom declaration settings? none false = .ok report)
    (code : report.HasCode file) :
    (resolveCommand settings? choice declaration).ComesTo session (.ok 0) session.workplace.tree
      ((Json.object report.tableMembers).pretty ++ "\n") := by
  have reported := gives_generateFrom spares declaration settings? none false
  rw [success] at reported
  unfold resolveCommand
  refine reported.bind_comesTo fun _ => ?_
  rw [if_pos json, code.isOk_eq]
  exact (comesTo_printDocument _).bind_gives fun _ => gives_pure 0

theorem comesTo_resolveCommand_text (spares : session.logging.SparesFiles)
    (text : choice.json = false)
    (success : session.workplace.generateFrom declaration settings? none false = .ok report)
    (code : report.HasCode file) (uses : session.workplace.process.encoding = encoding)
    (prints : encoding.PrintsLines (decisionLines report.results)) :
    (resolveCommand settings? choice declaration).ComesTo session (.ok 0) session.workplace.tree
      (shownLines (decisionLines report.results)) := by
  have reported := gives_generateFrom spares declaration settings? none false
  rw [success] at reported
  unfold resolveCommand
  refine reported.bind_comesTo fun errors => ?_
  have usesOn : (session.withErrors errors).workplace.process.encoding = encoding := uses
  rw [if_neg (by simp [text]), code.spokenError?_eq]
  dsimp only
  exact (comesTo_printLines usesOn prints).bind_gives fun _ => gives_pure (0 : Nat)

theorem comesTo_resolveCommand_text_of_unprintable (spares : session.logging.SparesFiles)
    (text : choice.json = false)
    (success : session.workplace.generateFrom declaration settings? none false = .ok report)
    (code : report.HasCode file) {earlier later : List String} {line : String}
    (split : decisionLines report.results = earlier ++ line :: later)
    (uses : session.workplace.process.encoding = encoding)
    (prints : encoding.PrintsLines earlier) (unprintable : ¬ encoding.Prints (line ++ "\n")) :
    (resolveCommand settings? choice declaration).ComesTo session
      (.error (.brokenDown .unencodableText)) session.workplace.tree (shownLines earlier) := by
  have reported := gives_generateFrom spares declaration settings? none false
  rw [success] at reported
  unfold resolveCommand
  refine reported.bind_comesTo fun errors => ?_
  have usesOn : (session.withErrors errors).workplace.process.encoding = encoding := uses
  rw [if_neg (by simp [text]), code.spokenError?_eq]
  dsimp only
  have cut : report.results.flatMap generationLines ++ [""] = earlier ++ line :: later := split
  rw [cut]
  exact (comesTo_printLines_of_unprintable usesOn prints unprintable later).bind_error

end

end Run

end ErrorDerive
