import ErrorDerive.Policy
import ErrorDerive.Proofs.Schema.Accepting
import ErrorDerive.Proofs.Template
import ErrorDerive.Text.Identifier

/-!
# Default displays

The template of a default display is the name of a variant, followed by a placeholder for each
field, with a delimiter between any two.  The name is an identifier, and no delimiter that settings
can have holds a placeholder.  So the only placeholders of the template are those of the fields,
even if a delimiter begins or ends with a brace, and rendering writes the fields one after the
other.
-/

namespace ErrorDerive

theorem Settings.contains_placeholder_eq_false
    {settings : Settings} (clear : settings.delimiterIsClear = true) :
    Text.contains placeholder settings.fieldDelimiter = false := by
  simpa [delimiterIsClear] using clear

/-- The template of a display that shows a name and a number of fields. -/
def fieldTemplate (name delimiter : String) (count : Nat) : String :=
  name ++ ": " ++ delimiter.intercalate (List.replicate count placeholder)

section Template

variable {name : String} (identifier : Text.isIdentifier name = true)

include identifier

theorem pieces_name : Template.pieces name.toList = [name.toList] :=
  Template.pieces_of_absent
    (Template.containsWord_of_noBrace (Text.not_mem_of_isIdentifierWord identifier (by decide)))

/-- A name alone takes no values. -/
theorem render_name (values : List String) :
    (Display.template name).render values =
      if values.length = 0 then .ok name else .error ⟨name, 0, values.length⟩ := by
  have noPlace : Template.arity name.toList = 0 := by
    rw [Template.arity, pieces_name identifier]
    rfl
  by_cases none : values.length = 0
  · rw [if_pos none, List.eq_nil_of_length_eq_zero none]
    apply (Display.render_template_eq_ok_iff _ _ _).mpr
    rw [Template.fill?, noPlace, pieces_name identifier]
    simp [Template.interleave]
  · rw [if_neg none]
    apply (Display.render_template_eq_error_iff _ _ _).mpr
    rw [noPlace]
    exact ⟨none, rfl⟩

variable {delimiter : String} (clear : Text.contains placeholder delimiter = false)

include clear

theorem pieces_fieldTemplate (count : Nat) :
    Template.pieces (fieldTemplate name delimiter (count + 1)).toList =
      (name ++ ": ").toList :: (List.replicate count delimiter.toList ++ [[]]) := by
  have delimiterClear : Text.containsWord ['\x7b', '\x7d'] delimiter.toList = false := by
    simpa [Text.contains, placeholder] using clear
  have frontClear : Text.containsWord ['\x7b', '\x7d'] (name ++ ": ").toList = false := by
    apply Template.containsWord_of_noBrace
    have noBrace : '\x7b' ∉ name.toList :=
      Text.not_mem_of_isIdentifierWord identifier (by decide)
    simpa using noBrace
  have letters : (fieldTemplate name delimiter (count + 1)).toList =
      (name ++ ": ").toList ++
        delimiter.toList.intercalate (List.replicate (count + 1) ['\x7b', '\x7d']) := by
    rw [fieldTemplate, String.toList_append, String.toList_intercalate, List.map_replicate]
    rfl
  rw [letters, Template.pieces_intercalate frontClear delimiterClear]

theorem arity_fieldTemplate (count : Nat) :
    Template.arity (fieldTemplate name delimiter (count + 1)).toList = count + 1 := by
  rw [Template.arity, pieces_fieldTemplate identifier clear]
  simp

/-- Filling the template puts the values in the places of the fields. -/
theorem fill?_fieldTemplate {values : List String} (nonempty : values ≠ []) :
    Template.fill? (fieldTemplate name delimiter values.length).toList
        (values.map String.toList) =
      some (name ++ ": " ++ delimiter.intercalate values).toList := by
  cases values with
  | nil =>
      exact absurd rfl nonempty
  | cons first others =>
      have pieces := pieces_fieldTemplate identifier clear others.length
      have enough : ((first :: others).map String.toList).length =
          Template.arity (fieldTemplate name delimiter (others.length + 1)).toList := by
        rw [arity_fieldTemplate identifier clear, List.length_map, List.length_cons]
      have filled := Template.interleave_replicate (name ++ ": ").toList delimiter.toList
        first.toList (others.map String.toList)
      rw [List.length_map] at filled
      have text : (name ++ ": " ++ delimiter.intercalate (first :: others)).toList =
          (name ++ ": ").toList ++
            delimiter.toList.intercalate (first.toList :: others.map String.toList) := by
        rw [String.toList_append, String.toList_intercalate, List.map_cons]
      rw [List.length_cons, Template.fill?, if_pos enough, pieces, List.map_cons, filled, text]

/-- The template takes a value for each field. -/
theorem render_fieldTemplate (count : Nat) (values : List String) :
    (Display.template (fieldTemplate name delimiter (count + 1))).render values =
      if values.length = count + 1 then .ok (name ++ ": " ++ delimiter.intercalate values)
      else .error ⟨fieldTemplate name delimiter (count + 1), count + 1, values.length⟩ := by
  by_cases enough : values.length = count + 1
  · have nonempty : values ≠ [] := by
      apply List.ne_nil_of_length_pos
      omega
    rw [if_pos enough, ← enough]
    apply (Display.render_template_eq_ok_iff _ _ _).mpr
    exact fill?_fieldTemplate identifier clear nonempty
  · rw [if_neg enough]
    apply (Display.render_template_eq_error_iff _ _ _).mpr
    rw [arity_fieldTemplate identifier clear]
    exact ⟨enough, rfl⟩

end Template

namespace Variant

theorem defaultDisplay_of_noFields {settings : Settings} {variant : Variant}
    (noFields : variant.fields = []) :
    variant.defaultDisplay settings = .template variant.name := by
  simp [defaultDisplay, noFields]

theorem defaultDisplay_of_fields {settings : Settings} {variant : Variant}
    (someFields : variant.fields ≠ []) :
    variant.defaultDisplay settings =
      .template (fieldTemplate variant.name settings.fieldDelimiter variant.fields.length) := by
  rw [defaultDisplay, if_neg (by simpa using someFields), List.map_const']
  rfl

/-- With any settings that can be read, the default display of a variant writes its name, and behind
it the values of its fields with the delimiter between them; it refuses any other number of values
than there are fields.  The values may hold anything. -/
theorem render_defaultDisplay {settings : Settings}
    (accepted : ∃ value, Settings.read value = .accepted settings) {variant : Variant}
    (identifier : Text.isIdentifier variant.name = true) (values : List String) :
    (variant.defaultDisplay settings).render values =
      if values.length = variant.fields.length then
        .ok (if values = [] then variant.name
          else variant.name ++ ": " ++ settings.fieldDelimiter.intercalate values)
      else
        .error ⟨(variant.defaultDisplay settings).text, variant.fields.length, values.length⟩ := by
  have clear := Settings.contains_placeholder_eq_false
    ((Settings.exists_read_iff settings).mp accepted)
  by_cases noFields : variant.fields = []
  · rw [defaultDisplay_of_noFields noFields, render_name identifier, noFields, List.length_nil]
    by_cases none : values = []
    · rw [if_pos none]
      rfl
    · have different : values.length ≠ 0 := mt List.eq_nil_of_length_eq_zero none
      rw [if_neg different, if_neg different]
      rfl
  · obtain ⟨count, length⟩ := Nat.exists_eq_add_one_of_ne_zero
      (mt List.eq_nil_of_length_eq_zero noFields)
    rw [defaultDisplay_of_fields noFields, length, render_fieldTemplate identifier clear]
    by_cases none : values = []
    · have different : values.length ≠ count + 1 := by
        rw [none, List.length_nil]
        omega
      rw [if_neg different, if_neg different]
      rfl
    · rw [if_neg none]
      rfl

end Variant

/-- A variant with three fields. -/
def tripleVariant : Variant where
  name := "Triple"
  shape := .tuple
  fields := [⟨0, "u8"⟩, ⟨1, "u8"⟩, ⟨2, "u8"⟩]

/-- Settings with a delimiter that is a placeholder the wrong way round. -/
def reversedSettings : Settings where
  fieldDelimiter := "\x7d\x7b"

/-- Braces of the delimiter and of the values are written as they are, and two values for three
fields are refused. -/
theorem render_defaultDisplay_tripleVariant :
    (tripleVariant.defaultDisplay reversedSettings).render ["\x7b", "\x7b\x7d", "c"] =
        .ok "Triple: \x7b\x7d\x7b\x7b\x7d\x7d\x7bc" ∧
      (tripleVariant.defaultDisplay reversedSettings).render ["a", "b"] =
        .error ⟨"Triple: \x7b\x7d\x7d\x7b\x7b\x7d\x7d\x7b\x7b\x7d", 3, 2⟩ := by
  have accepted : ∃ value, Settings.read value = .accepted reversedSettings :=
    ⟨.mapping [(.text "field_delimiter", .text "\x7d\x7b")], rfl⟩
  have identifier : Text.isIdentifier tripleVariant.name = true := by
    decide
  have rendered := Variant.render_defaultDisplay accepted identifier
  exact ⟨rendered ["\x7b", "\x7b\x7d", "c"], rendered ["a", "b"]⟩

end ErrorDerive
