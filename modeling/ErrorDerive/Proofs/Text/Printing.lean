import ErrorDerive.Json
import ErrorDerive.Text.Styling

/-!
# Texts that print as they are

A plain text holds neither the mark of a surrogate nor the beginning of a styling sequence, so it
loses nothing when it is printed.  Every document is laid out as a plain text of ASCII letters.
-/

namespace ErrorDerive

namespace Text

/-- A letter that neither marks a surrogate nor begins a styling sequence. -/
def IsPlainLetter (letter : Char) : Prop :=
  letter ≠ mark ∧ letter ≠ escapeLetter

/-- An ASCII letter that begins no styling sequence. -/
def IsAsciiLetter (letter : Char) : Prop :=
  letter.toNat < 0x80 ∧ letter ≠ escapeLetter

/-- A text of letters of one kind. -/
def IsOf (ofKind : Char → Prop) (text : String) : Prop :=
  ∀ letter ∈ text.toList, ofKind letter

/-- A text of plain letters. -/
abbrev IsPlain (text : String) : Prop := IsOf IsPlainLetter text

/-- A text of ASCII letters without a styling sequence. -/
abbrev IsAscii (text : String) : Prop := IsOf IsAsciiLetter text

instance (letter : Char) : Decidable (IsPlainLetter letter) :=
  inferInstanceAs (Decidable (letter ≠ mark ∧ letter ≠ escapeLetter))

instance (letter : Char) : Decidable (IsAsciiLetter letter) :=
  inferInstanceAs (Decidable (letter.toNat < 0x80 ∧ letter ≠ escapeLetter))

instance (ofKind : Char → Prop) [DecidablePred ofKind] (text : String) :
    Decidable (IsOf ofKind text) :=
  List.decidableBAll ofKind text.toList

section

variable {ofKind : Char → Prop}

@[simp]
theorem isOf_append_iff (first second : String) :
    IsOf ofKind (first ++ second) ↔ IsOf ofKind first ∧ IsOf ofKind second := by
  simp only [IsOf, String.toList_append, List.mem_append, or_imp, forall_and]

theorem isOf_ofList_iff (word : List Char) :
    IsOf ofKind (String.ofList word) ↔ ∀ letter ∈ word, ofKind letter := by
  rw [IsOf, String.toList_ofList]

theorem isOf_intercalate {separator : String} (separates : IsOf ofKind separator)
    {texts : List String} (all : ∀ text ∈ texts, IsOf ofKind text) :
    IsOf ofKind (String.intercalate separator texts) := by
  induction texts with
  | nil =>
      simp [IsOf]
  | cons first rest ih =>
      have ofFirst : IsOf ofKind first := all first List.mem_cons_self
      have ofRest := ih fun text member => all text (List.mem_cons_of_mem first member)
      cases rest with
      | nil =>
          simpa using ofFirst
      | cons second others =>
          rw [String.intercalate_cons_cons]
          simp [ofFirst, separates, ofRest]

end

theorem IsAsciiLetter.isPlainLetter {letter : Char} (ascii : IsAsciiLetter letter) :
    IsPlainLetter letter := by
  refine ⟨?_, ascii.2⟩
  rintro rfl
  exact absurd ascii.1 (by decide)

theorem IsAscii.isPlain {text : String} (ascii : IsAscii text) : IsPlain text :=
  fun letter member => (ascii letter member).isPlainLetter

/-! ## What is printed of a plain text -/

theorem codesFrom_append_of_noMark {word : List Char} (noMark : mark ∉ word) (seen : List Nat)
    (rest : List Char) :
    codesFrom false seen (word ++ rest) =
      codesFrom false ((word.map Char.toNat).reverse ++ seen) rest := by
  induction word generalizing seen with
  | nil =>
      rfl
  | cons letter others ih =>
      simp only [List.mem_cons, not_or] at noMark
      rw [List.cons_append, codesFrom, if_neg Bool.false_ne_true, if_neg (Ne.symm noMark.1),
        ih noMark.2]
      simp

theorem codesFrom_of_noMark {word : List Char} (noMark : mark ∉ word) (seen : List Nat) :
    codesFrom false seen word = seen.reverse ++ word.map Char.toNat := by
  have whole := codesFrom_append_of_noMark noMark seen []
  rw [List.append_nil] at whole
  simp [whole, codesFrom]

theorem not_isSurrogate_toNat (letter : Char) : isSurrogate letter.toNat = false := by
  have valid : letter.toNat < 0xD800 ∨ 0xDFFF < letter.toNat ∧ letter.toNat < 0x110000 :=
    letter.valid
  simp only [isSurrogate, Bool.and_eq_false_iff, decide_eq_false_iff_not]
  omega

theorem IsPlain.codePoints_eq {text : String} (plain : IsPlain text) :
    codePoints text = text.toList.map Char.toNat := by
  have noMark : mark ∉ text.toList := fun member => (plain mark member).1 rfl
  rw [codePoints, codesFrom_of_noMark noMark, List.reverse_nil, List.nil_append]

theorem IsPlain.withoutStyling_eq {text : String} (plain : IsPlain text) :
    withoutStyling text = text :=
  withoutStyling_of_absent fun member => (plain escapeLetter member).2 rfl

/-! ## What is not printed -/

theorem mem_codesFrom_of_mem_seen {seen : List Nat} {code : Nat} (member : code ∈ seen)
    (afterMark : Bool) (word : List Char) : code ∈ codesFrom afterMark seen word := by
  induction word generalizing afterMark seen with
  | nil =>
      exact List.mem_reverse.mpr member
  | cons letter rest ih =>
      rw [codesFrom]
      split
      · exact ih (List.mem_cons_of_mem _ member) false
      · split
        · exact ih member true
        · exact ih (List.mem_cons_of_mem _ member) false

/-- A surrogate is kept in letters that begin no styling sequence. -/
theorem escapeLetter_notMem_kept {code : Nat} (surrogate : isSurrogate code = true) :
    escapeLetter ∉ kept code := by
  have bounds : 0xD800 ≤ code ∧ code ≤ 0xDFFF := by simpa [isSurrogate] using surrogate
  have shown : (Char.ofNat (code + standInDistance)).toNat = code + standInDistance :=
    toNat_ofNat_of_whole (by unfold standInDistance; omega)
      (by simp [isSurrogate, standInDistance]; omega)
  intro member
  simp only [kept, surrogate, if_true, List.mem_cons, List.not_mem_nil, or_false] at member
  rcases member with isMark | isStandIn
  · exact absurd isMark (by decide)
  · have equal := congrArg Char.toNat isStandIn
    rw [shown] at equal
    have : escapeLetter.toNat = 0x1B := rfl
    omega

theorem IsPlain.holdsSurrogate_append {front : String} (plain : IsPlain front) {code : Nat}
    (surrogate : isSurrogate code = true) (rest : String) :
    holdsSurrogate (front ++ (ofCodePoints [code] ++ rest)) = true := by
  have small : code < 0x110000 := by
    have bounds : 0xD800 ≤ code ∧ code ≤ 0xDFFF := by simpa [isSurrogate] using surrogate
    omega
  have noMark : mark ∉ front.toList := fun member => (plain mark member).1 rfl
  have member : code ∈ codePoints (front ++ (ofCodePoints [code] ++ rest)) := by
    simp only [codePoints, ofCodePoints, List.flatMap_singleton, String.toList_append,
      String.toList_ofList]
    rw [codesFrom_append_of_noMark noMark, codesFrom_kept small]
    exact mem_codesFrom_of_mem_seen List.mem_cons_self false _
  rw [holdsSurrogate, List.any_eq_true]
  exact ⟨code, member, surrogate⟩

/-- Leaving out the styling leaves a surrogate that comes before any. -/
theorem IsPlain.withoutStyling_append {front : String} (plain : IsPlain front) {code : Nat}
    (surrogate : isSurrogate code = true) (rest : String) :
    withoutStyling (front ++ (ofCodePoints [code] ++ rest)) =
      front ++ (ofCodePoints [code] ++ withoutStyling rest) := by
  have absent : escapeLetter ∉ front.toList := fun member => (plain escapeLetter member).2 rfl
  have absentNext : escapeLetter ∉ (ofCodePoints [code]).toList := by
    rw [ofCodePoints, List.flatMap_singleton, String.toList_ofList]
    exact escapeLetter_notMem_kept surrogate
  rw [withoutStyling_append_of_absent absent, withoutStyling_append_of_absent absentNext]

end Text

/-! ## Documents -/

namespace Json

open Text

theorem isAsciiLetter_of_between {code : Nat} (low : 0x20 ≤ code) (high : code ≤ 0x7E) :
    IsAsciiLetter (Char.ofNat code) := by
  have shown : (Char.ofNat code).toNat = code :=
    toNat_ofNat_of_whole (by omega) (by simp [isSurrogate]; omega)
  constructor
  · omega
  · intro same
    have equal := congrArg Char.toNat same
    rw [shown] at equal
    have : escapeLetter.toNat = 0x1B := rfl
    omega

theorem isAsciiLetter_hexDigit {digit : Nat} (small : digit < 16) :
    IsAsciiLetter (hexDigit digit) := by
  unfold hexDigit
  split
  · exact isAsciiLetter_of_between (by omega) (by omega)
  · exact isAsciiLetter_of_between (by omega) (by omega)

theorem isAsciiLetter_of_mem_hexDigits {width number : Nat} {letter : Char}
    (member : letter ∈ hexDigits width number) : IsAsciiLetter letter := by
  induction width generalizing number with
  | zero =>
      cases member
  | succ width ih =>
      rcases List.mem_append.mp member with earlier | last
      · exact ih earlier
      · rw [List.mem_singleton.mp last]
        exact isAsciiLetter_hexDigit (Nat.mod_lt number (by decide))

theorem isAsciiLetter_of_mem_unitEscape {code : Nat} {letter : Char}
    (member : letter ∈ unitEscape code) : IsAsciiLetter letter := by
  simp only [unitEscape, List.mem_cons] at member
  rcases member with rfl | rfl | digit
  · decide
  · decide
  · exact isAsciiLetter_of_mem_hexDigits digit

theorem isAsciiLetter_of_mem_escapedCode {code : Nat} {letter : Char}
    (member : letter ∈ escapedCode code) : IsAsciiLetter letter := by
  have ofPair : ∀ second, IsAsciiLetter second → letter ∈ ['\\', second] →
      IsAsciiLetter letter := by
    intro second ascii pair
    simp only [List.mem_cons, List.not_mem_nil, or_false] at pair
    rcases pair with rfl | rfl
    · decide
    · exact ascii
  unfold escapedCode at member
  simp only at member
  -- One case for each escape with a letter of its own, then the three ways without one.
  split at member
  · exact ofPair '"' (by decide) member
  split at member
  · exact ofPair '\\' (by decide) member
  split at member
  · exact ofPair 'n' (by decide) member
  split at member
  · exact ofPair 'r' (by decide) member
  split at member
  · exact ofPair 't' (by decide) member
  split at member
  · exact ofPair 'b' (by decide) member
  split at member
  · exact ofPair 'f' (by decide) member
  split at member
  · next inRange =>
      simp only [Bool.and_eq_true, decide_eq_true_eq] at inRange
      rw [List.mem_singleton.mp member]
      exact isAsciiLetter_of_between inRange.1 inRange.2
  split at member
  · exact isAsciiLetter_of_mem_unitEscape member
  · rcases List.mem_append.mp member with upper | lower
    · exact isAsciiLetter_of_mem_unitEscape upper
    · exact isAsciiLetter_of_mem_unitEscape lower

theorem isAscii_quoted (content : String) : IsAscii (quoted content) := by
  rw [quoted]
  refine (isOf_ofList_iff _).mpr ?_
  intro letter member
  simp only [List.mem_cons, List.mem_append, List.mem_flatMap, List.not_mem_nil, or_false] at member
  rcases member with rfl | ⟨code, _, escaped⟩ | rfl
  · decide
  · exact isAsciiLetter_of_mem_escapedCode escaped
  · decide

theorem isAsciiLetter_of_isDigit {letter : Char} (digit : letter.isDigit = true) :
    IsAsciiLetter letter := by
  constructor
  · have bounds := Char.isDigit_iff_toNat.mp digit
    have : '9'.toNat = 0x39 := rfl
    omega
  · rintro rfl
    exact absurd digit (by decide)

theorem isAscii_repr (number : Nat) : IsAscii number.repr := by
  intro letter member
  rw [Nat.toList_repr] at member
  exact isAsciiLetter_of_isDigit (Nat.isDigit_of_mem_toDigits (by decide) (by decide) member)

theorem isAscii_toString (number : Int) : IsAscii (toString number) := by
  cases number with
  | ofNat size =>
      exact isAscii_repr size
  | negSucc size =>
      have asciiSign : IsAscii "-" := by decide
      exact (isOf_append_iff "-" _).mpr ⟨asciiSign, isAscii_repr (size + 1)⟩

theorem isAscii_newLine (depth : Nat) : IsAscii (newLine depth) := by
  rw [newLine]
  refine (isOf_ofList_iff _).mpr ?_
  intro letter member
  rcases List.mem_cons.mp member with rfl | blank
  · decide
  · rw [List.eq_of_mem_replicate blank]
    decide

theorem isAscii_block {opening closing : String} (asciiOpening : IsAscii opening)
    (asciiClosing : IsAscii closing) (depth : Nat) {items : List String}
    (ascii : ∀ item ∈ items, IsAscii item) : IsAscii (block opening closing depth items) := by
  have asciiComma : IsAscii "," := by decide
  have asciiItems : IsAscii (String.intercalate ("," ++ newLine (depth + 1)) items) :=
    isOf_intercalate (by simp [asciiComma, isAscii_newLine]) ascii
  unfold block
  split
  · simp [asciiOpening, asciiClosing]
  · simp [asciiOpening, asciiClosing, asciiItems, isAscii_newLine]

mutual

theorem isAscii_prettyAt (depth : Nat) : ∀ document : Json, IsAscii (prettyAt depth document)
  | null => by
    have ascii : IsAscii "null" := by decide
    rwa [prettyAt]
  | bool flag => by
    have ascii : IsAscii (if flag then "true" else "false") := by cases flag <;> decide
    rwa [prettyAt]
  | int number => by
    rw [prettyAt]
    exact isAscii_toString number
  | text content => by
    rw [prettyAt]
    exact isAscii_quoted content
  | list items => by
    rw [prettyAt]
    exact isAscii_block (by decide) (by decide) depth (isAscii_prettyItems (depth + 1) items)
  | object members => by
    rw [prettyAt]
    exact isAscii_block (by decide) (by decide) depth (isAscii_prettyMembers (depth + 1) members)

theorem isAscii_prettyItems (depth : Nat) :
    ∀ items : List Json, ∀ item ∈ prettyItems depth items, IsAscii item
  | [] => by simp [prettyItems]
  | item :: rest => by
    rw [prettyItems, List.forall_mem_cons]
    exact ⟨isAscii_prettyAt depth item, isAscii_prettyItems depth rest⟩

theorem isAscii_prettyMembers (depth : Nat) :
    ∀ members : List (String × Json), ∀ item ∈ prettyMembers depth members, IsAscii item
  | [] => by simp [prettyMembers]
  | (name, content) :: rest => by
    have asciiColon : IsAscii ": " := by decide
    rw [prettyMembers, List.forall_mem_cons]
    refine ⟨?_, isAscii_prettyMembers depth rest⟩
    simp [isAscii_quoted, asciiColon, isAscii_prettyAt depth content]

end

theorem isAscii_pretty (document : Json) : IsAscii document.pretty :=
  isAscii_prettyAt 0 document

end Json

end ErrorDerive
