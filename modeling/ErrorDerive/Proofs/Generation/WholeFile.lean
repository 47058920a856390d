import ErrorDerive.GenerationReport
import ErrorDerive.Proofs.Generation.Branches

/-!
# All types of a file, or none

A report on a declaration file has the results of all types or none of them.  Each result, and the
text of each type, is what the type gives alone, and an error is that of the first type that fails.

* `judges_generateAll` says which lists of declarations give results, and which error the others
  give;
* `GenerationReport.Agrees` says that the parts of a report agree about whether it failed;
* `generateFrom_allOrNothing` says both of a declaration file.
-/

namespace ErrorDerive

/-! ## Errors -/

/-- A fault of a generation belongs to a class of errors. -/
inductive Fault.OfClass : Fault → String → Prop
  | malformed (cause : Malformation) (variant : Option String) :
      OfClass (.malformed cause variant) "MalformedInput"
  | incompleteCoverage (body : String) (covered total : Nat) (missing : List String) :
      OfClass (.incompleteCoverage body covered total missing) "IncompleteCoverage"
  | conflictingConversion (sourceType : String) (variants : List String) :
      OfClass (.conflictingConversion sourceType variants) "ConflictingConversion"

theorem Fault.ofClass_kind (fault : Fault) : fault.OfClass fault.kind := by
  cases fault with
  | malformed cause variant => exact .malformed cause variant
  | incompleteCoverage body covered total missing =>
      exact .incompleteCoverage body covered total missing
  | conflictingConversion sourceType variants => exact .conflictingConversion sourceType variants

private theorem append_ne_empty {front : String} (spoken : front ≠ "") (back : String) :
    front ++ back ≠ "" := by
  intro empty
  exact spoken (String.append_eq_empty_iff.mp empty).1

theorem ConfigFault.message_ne_empty (fault : ConfigFault) : fault.message ≠ "" := by
  cases fault with
  | fileNotFound path | noDeclarations path =>
      exact append_ne_empty (by decide) _
  | typesNotAList path =>
      exact append_ne_empty (append_ne_empty (by decide) _) _
  | invalidDeclaration rejection =>
      exact append_ne_empty (by decide) _
  | unreadable path reason | invalidYaml path | notAMapping path kind
  | invalidSettings path rejection | typeNotAMapping path kind | variantsNotAList typeName kind =>
      exact append_ne_empty (append_ne_empty (append_ne_empty (by decide) _) _) _

theorem ReportedFault.message_ne_empty (fault : ReportedFault) : fault.message ≠ "" := by
  cases fault with
  | config fault =>
      exact fault.message_ne_empty
  | generation typeName fault =>
      intro empty
      have colon : ": " = "" := by
        have front := (String.append_eq_empty_iff.mp empty).1
        exact (String.append_eq_empty_iff.mp front).2
      exact absurd colon (by decide)

/-! ## Parts of a report -/

namespace GenerationReport

/-- The parts of a report agree about whether it failed. -/
structure Agrees (report : GenerationReport) : Prop where
  either : report.error = none ↔ report.generated ≠ none
  spoken : report.error ≠ some ""
  classed : report.error = none ↔ report.errorKind = none
  noResults : report.error ≠ none → report.results = []
  isOk_iff : report.isOk = true ↔ report.generated ≠ none
  stated : report.members.lookup "ok" = some (.bool report.isOk)

/-- An error is told exactly if there is one. -/
theorem spokenError?_failed (report : GenerationReport) (fault : ReportedFault) :
    (report.failed fault).spokenError? = some fault.message := by
  simp [spokenError?, failed, Option.filter, fault.message_ne_empty]

theorem members_failed (report : GenerationReport) (fault : ReportedFault) :
    (report.failed fault).members =
      [("ok", .bool false), ("error", .text fault.message), ("kind", .text fault.kind)] := by
  rw [members, spokenError?_failed]
  rfl

theorem agrees_failed (declaration : Path) (fault : ReportedFault) :
    ((begun declaration).failed fault).Agrees where
  either := iff_of_false nofun fun generated => generated rfl
  spoken := by
    intro empty
    exact fault.message_ne_empty (Option.some.inj empty)
  classed := iff_of_false nofun nofun
  noResults _ := rfl
  isOk_iff := iff_of_false nofun fun generated => generated rfl
  stated := by
    rw [members_failed]
    rfl

/-- The report with the results of all types. -/
def ofAll (path : Path) (generations : List Generation) (output? : Option String)
    (overwrite : Bool) : GenerationReport where
  declaration := some path
  results := generations
  generated := some (.ofGenerations (outputPath path output?) overwrite generations)

theorem agrees_ofAll (path : Path) (generations : List Generation) (output? : Option String)
    (overwrite : Bool) : (ofAll path generations output? overwrite).Agrees where
  either := iff_of_true rfl nofun
  spoken := nofun
  classed := iff_of_true rfl rfl
  noResults failed := absurd rfl failed
  isOk_iff := iff_of_true rfl nofun
  stated := rfl

end GenerationReport

/-! ## Every type or none -/

/-- The results of one type, or the fault with the name of the type. -/
def generateNamed (settings : Settings) (declaration : TypeDeclaration) :
    Except ReportedFault Generation :=
  (generate settings declaration).mapError (.generation declaration.name)

theorem generateAll_eq_mapM (settings : Settings) (declarations : List TypeDeclaration) :
    generateAll settings declarations = declarations.mapM (generateNamed settings) := by
  induction declarations with
  | nil =>
      rfl
  | cons head tail inductionHypothesis =>
      rw [generateAll, List.mapM_cons, generateNamed, inductionHypothesis]
      cases generate settings head with
      | error fault =>
          rfl
      | ok generation =>
          rfl

/-- A type can be generated alone. -/
def TypeDeclaration.Succeeds (settings : Settings) (declaration : TypeDeclaration) : Prop :=
  ∃ generation, generate settings declaration = .ok generation

/-- The error of a type that fails alone. -/
def TypeDeclaration.FailsWith (settings : Settings) (declaration : TypeDeclaration)
    (answer : ReportedFault) : Prop :=
  ∃ fault, generate settings declaration = .error fault ∧
    answer = .generation declaration.name fault

theorem judges_generateNamed (settings : Settings) (declaration : TypeDeclaration) :
    Judges (generateNamed settings declaration) (declaration.Succeeds settings)
      (declaration.generation settings) (declaration.FailsWith settings) := by
  unfold generateNamed TypeDeclaration.Succeeds TypeDeclaration.FailsWith
  cases generated : generate settings declaration with
  | error fault =>
      exact ⟨by simp, by simp [Except.mapError], by simp⟩
  | ok generation =>
      have same := (generation_of_generate generated).2
      exact ⟨fun _ => by rw [same]; rfl, by simp, by simp⟩

theorem judges_generateAll (settings : Settings) (declarations : List TypeDeclaration) :
    Judges (generateAll settings declarations)
      (∀ declaration ∈ declarations, declaration.Succeeds settings)
      (declarations.map (TypeDeclaration.generation settings))
      (Judges.FirstFlaw (TypeDeclaration.Succeeds settings) (TypeDeclaration.FailsWith settings)
        declarations) := by
  rw [generateAll_eq_mapM]
  exact Judges.mapM (judges_generateNamed settings) declarations

/-- What a report on declared types comes to, in terms of what each of them gives alone. -/
structure GenerationReport.AllOrNothing (settings : Settings)
    (declarations : List TypeDeclaration) (report : GenerationReport) : Prop where
  isOk_iff : report.isOk = true ↔ ∀ declaration ∈ declarations, declaration.Succeeds settings
  results : report.isOk = true →
    List.Forall₂ (fun declaration generation => generate settings declaration = .ok generation)
      declarations report.results
  content : report.isOk = true → report.generated.map OutputFile.content =
    some (Rust.header ++ "\n" ++ String.intercalate "\n" (report.results.map Rust.render))
  firstError : report.isOk = false → ∃ earlier failing later fault errorClass,
    declarations = earlier ++ failing :: later ∧
    (∀ declaration ∈ earlier, declaration.Succeeds settings) ∧
    generate settings failing = .error fault ∧ fault.OfClass errorClass ∧
    report.error = some (failing.name ++ ": " ++ fault.message) ∧
    report.errorKind = some errorClass ∧ report.results = [] ∧ report.generated = none

theorem reportOn_of_succeeds
    {settings : Settings} {declarations : List TypeDeclaration}
    (succeeds : ∀ declaration ∈ declarations, declaration.Succeeds settings)
    (path : Path) (output? : Option String) (overwrite : Bool) :
    reportOn path output? overwrite settings declarations =
      .ofAll path (declarations.map (TypeDeclaration.generation settings)) output?
        overwrite := by
  rw [reportOn, (judges_generateAll settings declarations).succeeds succeeds]
  rfl

theorem reportOn_of_fails
    {settings : Settings} {declarations : List TypeDeclaration} {answer : ReportedFault}
    (flaw : Judges.FirstFlaw (TypeDeclaration.Succeeds settings)
      (TypeDeclaration.FailsWith settings) declarations answer)
    (path : Path) (output? : Option String) (overwrite : Bool) :
    reportOn path output? overwrite settings declarations =
      (GenerationReport.begun path).failed answer := by
  rw [reportOn, (judges_generateAll settings declarations).fails answer flaw]

theorem allOrNothing_reportOn (path : Path) (output? : Option String) (overwrite : Bool)
    (settings : Settings) (declarations : List TypeDeclaration) :
    (reportOn path output? overwrite settings declarations).AllOrNothing settings
      declarations := by
  have judgement := judges_generateAll settings declarations
  rcases judgement.decides with succeeds | ⟨answer, flaw⟩
  · rw [reportOn_of_succeeds succeeds]
    refine ⟨⟨fun _ => succeeds, fun _ => rfl⟩, fun _ => ?_, fun _ => rfl, nofun⟩
    refine List.forall₂_map_right_iff.mpr (List.forall₂_same.mpr ?_)
    intro declaration member
    obtain ⟨generation, generated⟩ := succeeds declaration member
    rw [generated, (generation_of_generate generated).2]
  · have refused := judgement.exists_flaw_iff.mp ⟨answer, flaw⟩
    rw [reportOn_of_fails flaw]
    obtain ⟨earlier, failing, later, split, good, fault, failed, rfl⟩ := flaw
    refine ⟨⟨nofun, fun succeeds => absurd succeeds refused⟩, nofun, nofun, fun _ => ?_⟩
    exact ⟨earlier, failing, later, fault, fault.kind, split, good, failed, fault.ofClass_kind,
      rfl, rfl, rfl, rfl⟩

/-- The text of a type in a file of its own. -/
theorem content_reportOn_alone
    {settings : Settings} {declaration : TypeDeclaration} {generation : Generation}
    (generated : generate settings declaration = .ok generation)
    (path : Path) (output? : Option String) (overwrite : Bool) :
    (reportOn path output? overwrite settings [declaration]).generated.map OutputFile.content =
      some (Rust.header ++ "\n" ++ Rust.render generation) := by
  have succeeds : ∀ declared ∈ [declaration], declared.Succeeds settings := by
    intro declared member
    rw [List.mem_singleton.mp member]
    exact ⟨generation, generated⟩
  rw [reportOn_of_succeeds succeeds, GenerationReport.ofAll, List.map_singleton,
    (generation_of_generate generated).2]
  rfl

theorem generateFrom_of_loaded
    {workplace : Workplace} {path : Path} {settings? : Option Path} {settings : Settings}
    {declarations : List TypeDeclaration}
    (settingsLoaded : workplace.loadSettings settings? = .ok settings)
    (declarationsLoaded : workplace.loadDeclarations path = .ok declarations)
    (output? : Option String) (overwrite : Bool) :
    workplace.generateFrom path settings? output? overwrite =
      .ok (reportOn path output? overwrite settings declarations) := by
  rw [Workplace.generateFrom, settingsLoaded, declarationsLoaded]

/-- What comes of a declaration file, wherever its output goes: the run breaks down, the report has
a fault, or the types give code. -/
inductive Workplace.Yields (workplace : Workplace) (path : Path) (settings? : Option Path) : Prop
  | breakdown (cause : Breakdown) :
      (∀ output? overwrite,
        workplace.generateFrom path settings? output? overwrite = .error cause) →
      Yields workplace path settings?
  | fault (fault : ReportedFault) :
      (∀ output? overwrite, workplace.generateFrom path settings? output? overwrite =
        .ok ((GenerationReport.begun path).failed fault)) →
      Yields workplace path settings?
  | code (settings : Settings) (declarations : List TypeDeclaration) :
      workplace.loadSettings settings? = .ok settings →
      workplace.loadDeclarations path = .ok declarations →
      (∀ declaration ∈ declarations, declaration.Succeeds settings) →
      (∀ output? overwrite, workplace.generateFrom path settings? output? overwrite =
        .ok (.ofAll path (declarations.map (TypeDeclaration.generation settings)) output?
          overwrite)) →
      Yields workplace path settings?

theorem Workplace.yields_of_loadFault {workplace : Workplace} {path : Path}
    {settings? : Option Path} {fault : LoadFault}
    (failed : ∀ output? overwrite,
      workplace.generateFrom path settings? output? overwrite = ofLoadFault path fault) :
    workplace.Yields path settings? := by
  cases fault with
  | reported fault => exact .fault (.config fault) failed
  | brokenDown cause => exact .breakdown cause failed

/-- Where the output goes makes no difference to what comes of a declaration file. -/
theorem Workplace.yields (workplace : Workplace) (path : Path) (settings? : Option Path) :
    workplace.Yields path settings? := by
  cases settingsLoaded : workplace.loadSettings settings? with
  | error fault =>
      apply yields_of_loadFault
      intro output? overwrite
      rw [generateFrom, settingsLoaded]
  | ok settings =>
      cases declarationsLoaded : workplace.loadDeclarations path with
      | error fault =>
          apply yields_of_loadFault
          intro output? overwrite
          rw [generateFrom, settingsLoaded, declarationsLoaded]
      | ok declarations =>
          have loaded := generateFrom_of_loaded settingsLoaded declarationsLoaded
          rcases (judges_generateAll settings declarations).decides with succeeds | ⟨answer, flaw⟩
          · refine .code settings declarations settingsLoaded declarationsLoaded succeeds ?_
            intro output? overwrite
            rw [loaded, reportOn_of_succeeds succeeds]
          · refine .fault answer ?_
            intro output? overwrite
            rw [loaded, reportOn_of_fails flaw]

/-- A report on declared types has the results of all of them, each as the type gives it alone, or
no results and the error of the first type that fails, with its class; and that is the report on a
file in which these types are declared.  In any report on a file, exactly one of error and output
file is there, no error is empty, and all ways to ask whether it failed have one answer. -/
theorem generateFrom_allOrNothing (workplace : Workplace) (path : Path)
    (settings? : Option Path) (output? : Option String) (overwrite : Bool) :
    (∀ settings declarations,
      (reportOn path output? overwrite settings declarations).AllOrNothing settings
        declarations ∧
      (∀ declaration ∈ declarations, ∀ generation,
        generate settings declaration = .ok generation →
        (reportOn path output? overwrite settings [declaration]).generated.map
            OutputFile.content =
          some (Rust.header ++ "\n" ++ Rust.render generation)) ∧
      (workplace.loadSettings settings? = .ok settings →
        workplace.loadDeclarations path = .ok declarations →
        workplace.generateFrom path settings? output? overwrite =
          .ok (reportOn path output? overwrite settings declarations))) ∧
    ∀ report, workplace.generateFrom path settings? output? overwrite = .ok report →
      report.declaration = some path ∧ report.Agrees := by
  constructor
  · intro settings declarations
    refine ⟨allOrNothing_reportOn path output? overwrite settings declarations, ?_, ?_⟩
    · intro declaration _ generation generated
      exact content_reportOn_alone generated path output? overwrite
    · intro settingsLoaded declarationsLoaded
      exact generateFrom_of_loaded settingsLoaded declarationsLoaded output? overwrite
  · intro report reported
    cases workplace.yields path settings? with
    | breakdown cause broken =>
        rw [broken] at reported
        cases reported
    | fault fault failed =>
        rw [failed] at reported
        cases reported
        exact ⟨rfl, GenerationReport.agrees_failed path fault⟩
    | code settings declarations _ _ _ derived =>
        rw [derived] at reported
        cases reported
        exact ⟨rfl, GenerationReport.agrees_ofAll path _ output? overwrite⟩

/-- A folder with a file that declares an enum and a struct. -/
def enumAndStruct : Workplace where
  tree := ⟨[("e.yml", .file {
    content := "types: [\x7bname: E\x7d, \x7bname: F, kind: struct\x7d]".toList.map
      fun letter => UInt8.ofNat letter.toNat })]⟩
  folder := []

/-- The enum is the first of the two types, and nothing of it is in the report. -/
theorem generateFrom_enumAndStruct :
    ∃ declarations report,
      enumAndStruct.loadSettings none = .ok {} ∧
      enumAndStruct.loadDeclarations (.ofText "e.yml") = .ok declarations ∧
      declarations.map TypeDeclaration.name = ["E", "F"] ∧
      enumAndStruct.generateFrom (.ofText "e.yml") none none false = .ok report ∧
      report.AllOrNothing {} declarations ∧ report.Agrees ∧
      report.error = some "F: AutoError only supports enums, 'F' is a struct" ∧
      report.errorKind = some "MalformedInput" ∧ report.results = [] ∧
      report.generated = none := by
  have settingsLoaded : enumAndStruct.loadSettings none = .ok {} := by
    rfl
  have evaluated : (enumAndStruct.loadDeclarations (.ofText "e.yml")).toOption.map
      (fun declarations => (declarations.map TypeDeclaration.name,
        reportOn (.ofText "e.yml") none false {} declarations)) =
      some (["E", "F"],
        { declaration := some (.ofText "e.yml"),
          error := some "F: AutoError only supports enums, 'F' is a struct",
          errorKind := some "MalformedInput" }) := by
    decide +kernel
  cases loaded : enumAndStruct.loadDeclarations (.ofText "e.yml") with
  | error fault =>
      rw [loaded] at evaluated
      cases evaluated
  | ok declarations =>
      rw [loaded] at evaluated
      obtain ⟨names, isReport⟩ := Prod.mk.inj (Option.some.inj evaluated)
      have whole := generateFrom_allOrNothing enumAndStruct (.ofText "e.yml") none none false
      obtain ⟨allOrNothing, _, reported⟩ := whole.1 {} declarations
      have report := reported settingsLoaded loaded
      have agrees := (whole.2 _ report).2
      rw [isReport] at allOrNothing report agrees
      exact ⟨declarations, _, settingsLoaded, rfl, names, report, allOrNothing, agrees, rfl, rfl,
        rfl, rfl⟩

end ErrorDerive
