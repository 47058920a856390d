import ErrorDerive.Proofs.Generation.DefaultDisplay
import ErrorDerive.Proofs.Rust.Layout
import ErrorDerive.Proofs.Rust.VariantPatterns
import Mathlib.Data.List.Forall2

/-!
# What the generated display writes

The arm of a declared variant, read back from the generated code, fits the values of that variant
and writes the annotated text, or else the name of the variant with the texts of its fields.
-/

namespace ErrorDerive

open Rust

namespace VariantDeclaration

/-- Whether an annotation gives the text to display. -/
def Writes (declared : VariantDeclaration) (text : String) : Prop :=
  (AnnotationKey.formatStr.name, Value.text text) ∈ declared.entries

/-- What is displayed without an annotated text. -/
def defaultText (settings : Settings) (declared : VariantDeclaration) (values : List String) :
    String :=
  if values = [] then declared.name
  else declared.name ++ ": " ++ settings.fieldDelimiter.intercalate values

/-- An arm that displays a declared variant: its pattern is that of the variant, a format string
in it has a place for each argument, and it writes what is to be displayed. -/
structure Displayed (settings : Settings) (declared : VariantDeclaration) (arm : ReadArm) :
    Prop where
  annotated : ∀ text, declared.Writes text →
    arm.pattern = declared.textPattern ∧
      ∀ values : List String, values.length = declared.fields.length →
        arm.written? (declared.instanceOf values) = some text
  default : (∀ text, ¬ declared.Writes text) →
    arm.pattern = declared.fieldsPattern ∧
      ∀ values : List String, values.length = declared.fields.length →
        arm.written? (declared.instanceOf values) = some (declared.defaultText settings values)
  places : ∀ format arguments, arm.reaction = .writeFormat format arguments →
    ∃ parts, FormatString.parse? format = some parts ∧
      FormatString.places parts = arguments.length

/-! ## The template of a default display -/

/-- The template with a placeholder for each field. -/
def defaultTemplate (settings : Settings) (declared : VariantDeclaration) : String :=
  declared.name ++ ": " ++
    settings.fieldDelimiter.intercalate (List.replicate declared.fields.length placeholder)

theorem arity_defaultTemplate
    {settings : Settings} (clear : settings.delimiterIsClear = true)
    {declared : VariantDeclaration} (identifier : Text.isIdentifier declared.name = true)
    (nonempty : declared.fields ≠ []) :
    Template.arity (declared.defaultTemplate settings).toList = declared.fields.length := by
  obtain ⟨count, fields⟩ := Nat.exists_eq_add_one_of_ne_zero
    (mt List.eq_nil_of_length_eq_zero nonempty)
  have places :=
    arity_fieldTemplate identifier (Settings.contains_placeholder_eq_false clear) count
  rw [← fields] at places
  exact places

/-- Filling the template of a default display gives the default text. -/
theorem fill?_defaultTemplate
    {settings : Settings} (clear : settings.delimiterIsClear = true)
    {declared : VariantDeclaration} (identifier : Text.isIdentifier declared.name = true)
    (nonempty : declared.fields ≠ []) {values : List String}
    (sameLength : values.length = declared.fields.length) :
    Template.fill? (declared.defaultTemplate settings).toList (values.map String.toList) =
      some (declared.defaultText settings values).toList := by
  have someValues : values ≠ [] := by
    intro none
    rw [none] at sameLength
    exact nonempty (List.eq_nil_of_length_eq_zero sameLength.symm)
  have filled :=
    fill?_fieldTemplate identifier (Settings.contains_placeholder_eq_false clear) someValues
  rw [sameLength] at filled
  rw [defaultText, if_neg someValues]
  exact filled

/-! ## The arm of a declared variant -/

theorem Suits.formatStr_of_writes
    {declared : VariantDeclaration} (suits : declared.Suits) {text : String}
    (writes : declared.Writes text) : declared.form.annotations.formatStr = some text := by
  have found := suits.annotations.lookup_of_mem writes
  show (declared.entries.lookup AnnotationKey.formatStr.name).bind Value.text? = some text
  rw [found]
  rfl

theorem writes_of_formatStr
    {declared : VariantDeclaration} {text : String}
    (annotated : declared.form.annotations.formatStr = some text) : declared.Writes text := by
  obtain ⟨value, found, isText⟩ := Option.bind_eq_some_iff.mp annotated
  obtain ⟨before, after, split, _⟩ := List.lookup_eq_some_iff.mp found
  cases value with
  | text content =>
      injection isText with same
      rw [Writes, split, same]
      simp
  | _ =>
      cases isText

theorem isEmpty_bindings (settings : Settings) (declared : VariantDeclaration) :
    (declared.policy settings).displayBranch.bindings.isEmpty = true ↔ declared.fields = [] := by
  show (declared.policy settings).bindings.isEmpty = true ↔ _
  rw [bindings_policy, List.isEmpty_iff, ← List.length_eq_zero_iff, length_fieldNames,
    List.length_eq_zero_iff]

theorem Suits.displayArm_of_writes
    {declared : VariantDeclaration} (suits : declared.Suits) (settings : Settings)
    {text : String} (writes : declared.Writes text) :
    displayArm (declared.policy settings).displayBranch =
      ⟨declared.textPattern, .writeText text⟩ := by
  have display : (declared.policy settings).displayBranch.display = .literal text := by
    show declared.form.resolveDisplay settings = .literal text
    rw [Variant.resolveDisplay, suits.formatStr_of_writes writes]
  simp only [displayArm, display, isEmpty_bindings]
  exact congrArg (Arm.mk · _) declared.ofShape_textPattern

theorem displayArm_of_not_writes
    {declared : VariantDeclaration} (settings : Settings)
    (silent : ∀ text, ¬ declared.Writes text) :
    displayArm (declared.policy settings).displayBranch =
      ⟨declared.fieldsPattern,
        if declared.fields = [] then .writeText declared.name
        else .writeTemplate (declared.defaultTemplate settings)
          (fieldNames declared.fields.length)⟩ := by
  have noText : declared.form.annotations.formatStr = none := by
    rw [Option.eq_none_iff_forall_not_mem]
    intro text annotated
    exact silent text (writes_of_formatStr annotated)
  have default : declared.form.resolveDisplay settings = declared.form.defaultDisplay settings := by
    rw [Variant.resolveDisplay, noText]
  have bindings := bindings_policy settings declared
  have pattern := declared.ofShape_fieldsPattern
  by_cases empty : declared.fields = []
  · have display : (declared.policy settings).displayBranch.display = .template declared.name := by
      show declared.form.resolveDisplay settings = _
      have noField : declared.form.fields.isEmpty = true := by
        rw [List.isEmpty_iff, ← List.length_eq_zero_iff, declared.length_form_fields, empty]
        rfl
      rw [default, Variant.defaultDisplay, if_pos noField]
      rfl
    rw [empty] at pattern
    simp only [displayArm, display, isEmpty_bindings, empty, if_true]
    exact congrArg (Arm.mk · _) pattern
  · have display : (declared.policy settings).displayBranch.display =
        .template (declared.defaultTemplate settings) := by
      show declared.form.resolveDisplay settings = _
      have someField : ¬ declared.form.fields.isEmpty = true := by
        rw [List.isEmpty_iff, ← List.length_eq_zero_iff, declared.length_form_fields,
          List.length_eq_zero_iff]
        exact empty
      have placeholders : (declared.form.fields.map fun _ => placeholder) =
          List.replicate declared.fields.length placeholder := by
        rw [List.map_const', declared.length_form_fields]
      rw [default, Variant.defaultDisplay, if_neg someField, placeholders]
      rfl
    simp only [displayArm, display, isEmpty_bindings, empty, if_false]
    rw [← pattern, ← bindings]
    rfl

theorem isNamed_displayArm
    {declared : VariantDeclaration} (suits : declared.Suits)
    (identifier : Text.isIdentifier declared.name = true) (settings : Settings) :
    (displayArm (declared.policy settings).displayBranch).IsNamed := by
  by_cases annotated : ∃ text, declared.Writes text
  · obtain ⟨text, writes⟩ := annotated
    rw [suits.displayArm_of_writes settings writes]
    exact ⟨isNamed_textPattern identifier, trivial⟩
  · rw [displayArm_of_not_writes settings (not_exists.mp annotated)]
    refine ⟨isNamed_fieldsPattern identifier, ?_⟩
    split
    · exact trivial
    · exact fun _ member => isIdentifier_of_mem_fieldNames member

theorem Suits.displayed
    {declared : VariantDeclaration} (suits : declared.Suits)
    (identifier : Text.isIdentifier declared.name = true)
    {settings : Settings} (clear : settings.delimiterIsClear = true) :
    declared.Displayed settings (displayArm (declared.policy settings).displayBranch).asRead where
  annotated := by
    intro text writes
    rw [suits.displayArm_of_writes settings writes]
    refine ⟨rfl, ?_⟩
    intro values sameLength
    rw [ReadArm.written?, Arm.asRead, suits.bind?_textPattern sameLength]
    exact congrArg some String.ofList_toList
  default := by
    intro silent
    rw [displayArm_of_not_writes settings silent]
    refine ⟨rfl, ?_⟩
    intro values sameLength
    rw [ReadArm.written?, Arm.asRead, suits.bind?_fieldsPattern sameLength]
    by_cases empty : declared.fields = []
    · have noValue : values = [] := by
        rw [empty] at sameLength
        exact List.eq_nil_of_length_eq_zero sameLength
      rw [if_pos empty, defaultText, if_pos noValue]
      exact congrArg some String.ofList_toList
    · have named : (fieldNames declared.fields.length).length = values.length := by
        rw [length_fieldNames, sameLength]
      have looked := mapM_lookup_zip (nodup_fieldNames declared.fields.length) named
      have filled := fill?_defaultTemplate clear identifier empty sameLength
      rw [← FormatString.fill?_ofTemplate] at filled
      simp only [if_neg empty, Action.reaction, Reaction.written?, FormatString.parse?_ofTemplate,
        Option.bind_eq_bind, Option.bind_some, looked, filled]
      exact congrArg some String.ofList_toList
  places := by
    intro format arguments formats
    by_cases annotated : ∃ text, declared.Writes text
    · obtain ⟨text, writes⟩ := annotated
      rw [suits.displayArm_of_writes settings writes] at formats
      cases formats
    · rw [displayArm_of_not_writes settings (not_exists.mp annotated)] at formats
      by_cases empty : declared.fields = []
      · rw [if_pos empty] at formats
        cases formats
      · rw [if_neg empty] at formats
        injection formats with sameFormat sameArguments
        refine ⟨_, sameFormat ▸ FormatString.parse?_ofTemplate _, ?_⟩
        rw [FormatString.places_ofTemplate, arity_defaultTemplate clear identifier empty,
          ← sameArguments, length_fieldNames]

end VariantDeclaration

/-! ## The display of a type -/

/-- In the code that is generated for a declaration, the arms of the display implementation display
the declared variants, one after the other. -/
theorem display_of_generate
    {settings : Settings} (clear : settings.delimiterIsClear = true)
    {declaration : TypeDeclaration} {generation : Generation}
    (generated : generate settings declaration = .ok generation) :
    ∃ lines arms,
      render generation =
        conversionsText generation ++ displayText declaration.name lines ++ "\n" ++
          errorItem declaration.name generation.source ∧
      Lists lines arms ∧
      List.Forall₂ (VariantDeclaration.Displayed settings) declaration.variants arms := by
  obtain ⟨sound, rfl⟩ := generation_of_generate generated
  have displays : (declaration.generation settings).display.map displayArm =
      declaration.variants.map fun declared =>
        displayArm (declared.policy settings).displayBranch := by
    simp [TypeDeclaration.generation, TypeDeclaration.policies]
  have named : ∀ arm ∈ (declaration.generation settings).display.map displayArm,
      arm.IsNamed := by
    intro arm member
    rw [displays] at member
    obtain ⟨declared, isDeclared, rfl⟩ := List.mem_map.mp member
    exact VariantDeclaration.isNamed_displayArm (sound.variants.suit declared isDeclared)
      (sound.variants.identifiers declared isDeclared) settings
  refine ⟨_, _, ?_, lists_armLines named, ?_⟩
  · rw [render_eq, displayItem_eq]
    rfl
  · rw [displays, List.map_map, List.forall₂_map_right_iff, List.forall₂_same]
    intro declared isDeclared
    exact (sound.variants.suit declared isDeclared).displayed
      (sound.variants.identifiers declared isDeclared) clear

/-- A type with one variant of two fields. -/
def pairType : TypeDeclaration :=
  ⟨"Fault", .enum, [⟨"Pair", none, ["u8", "u8"], []⟩]⟩

/-- Settings in which braces separate the fields. -/
def bracedSettings : Settings :=
  ⟨["Error"], .lastSegment, "\x7d\x7b"⟩

theorem display_of_pairType :
    ∃ lines arm,
      render (pairType.generation bracedSettings) =
        conversionsText (pairType.generation bracedSettings) ++ displayText "Fault" lines ++ "\n" ++
          errorItem "Fault" (pairType.generation bracedSettings).source ∧
      lines.map ReadArm.ofLine? = [some arm] ∧
      arm.written? ⟨"Pair", .tuple, ["1", "2"]⟩ = some "Pair: 1\x7d\x7b2" := by
  have generated : generate bracedSettings pairType = .ok (pairType.generation bracedSettings) := by
    rfl
  obtain ⟨lines, arms, code, lists, displayed⟩ := display_of_generate (by decide) generated
  obtain ⟨arm, others, shown, none, rfl⟩ := List.forall₂_cons_left_iff.mp displayed
  rw [List.forall₂_nil_left_iff.mp none] at lists
  refine ⟨lines, arm, code, lists.read, ?_⟩
  exact (shown.default fun text writes => by cases writes).2 ["1", "2"] rfl

end ErrorDerive
