import ErrorDerive.Rust.Literal
import ErrorDerive.Text.Surrogate

/-!
# Reading literals back

A text written as a literal is read back letter by letter, whatever source follows it, and no
control character stands in a literal.  So nothing in a text can end its literal early, and no
literal is the beginning of another.

* `Literal.Delimits` says this of one literal and the word that it stands for;
* `quote_delimits` is the result for texts.
-/

namespace ErrorDerive.Rust

/-- A character has an escape of its own, or is written by its code, or stands for itself. -/
theorem escapedLetter_cases (letter : Char) :
    letter ∈ ['\\', '"', '\n', '\r', '\t'] ∨
      (letter.toNat < 128 ∧
        escapedLetter letter =
          '\\' :: 'u' :: '\x7b' :: (Nat.toDigits 16 letter.toNat ++ ['\x7d'])) ∨
      (letter ∉ ['\\', '"', '\n', '\r', '\t'] ∧ 0x20 ≤ letter.toNat ∧ letter.toNat ≠ 0x7F ∧
        escapedLetter letter = [letter]) := by
  by_cases special : letter ∈ ['\\', '"', '\n', '\r', '\t']
  · exact Or.inl special
  have different := special
  simp only [List.mem_cons, List.not_mem_nil, not_or, not_false_eq_true, and_true] at different
  obtain ⟨backslash, quoteMark, lineFeed, return_, tab⟩ := different
  rw [escapedLetter, if_neg backslash, if_neg quoteMark, if_neg lineFeed, if_neg return_,
    if_neg tab]
  split
  next control =>
    simp only [Bool.or_eq_true, decide_eq_true_eq] at control
    exact Or.inr (Or.inl ⟨by omega, rfl⟩)
  next plain =>
    simp only [Bool.or_eq_true, decide_eq_true_eq, not_or] at plain
    exact Or.inr (Or.inr ⟨special, by omega, plain.2, rfl⟩)

namespace Literal

private theorem digitValue?_digitChar :
    ∀ digit < 16, Numeral.digitValue? (Nat.digitChar digit) = some digit ∧
      Nat.digitChar digit ≠ '\x7d' ∧ Nat.digitChar digit ≠ '_' := by
  decide

theorem readRest?_digit
    {digit : Nat} (small : digit < 16) (value count : Nat) (few : count < 6)
    (rest : List Char) :
    readRest? (.inCode value count) (Nat.digitChar digit :: rest) =
      readRest? (.inCode (value * 16 + digit) (count + 1)) rest := by
  obtain ⟨digitValue, notBrace, notLine⟩ := digitValue?_digitChar digit small
  rw [readRest?.eq_def]
  simp only [notBrace, notLine, digitValue, few, decide_false, Bool.false_and, if_false, if_true,
    Bool.false_eq_true]

/-- The digits of a small code point, between braces, are read as its character. -/
theorem readRest?_code
    {letter : Char} (small : letter.toNat < 128) (rest : List Char) :
    readRest? (.inCode 0 0) (Nat.toDigits 16 letter.toNat ++ '\x7d' :: rest) =
      prepend letter (readRest? (.between false) rest) := by
  have character : characterOf? letter.toNat = some letter := by
    have low : letter.toNat < 0xD800 := by omega
    simp [characterOf?, low]
  by_cases short : letter.toNat < 16
  · rw [Nat.toDigits_of_lt_base short, List.singleton_append,
      readRest?_digit short 0 0 (by decide)]
    simp [readRest?, character]
  · have high : letter.toNat / 16 < 16 := by omega
    have low : letter.toNat % 16 < 16 := by omega
    have joined : letter.toNat / 16 * 16 + letter.toNat % 16 = letter.toNat := by omega
    rw [Nat.toDigits_of_base_le (by decide) (by omega), Nat.toDigits_of_lt_base high]
    simp only [List.cons_append, List.nil_append]
    rw [readRest?_digit high 0 0 (by decide), readRest?_digit low _ _ (by decide)]
    simp [readRest?, character, joined]

/-- Each letter of a literal is read back by itself. -/
theorem readRest?_escapedLetter (letter : Char) (rest : List Char) :
    readRest? (.between false) (escapedLetter letter ++ rest) =
      prepend letter (readRest? (.between false) rest) := by
  rcases escapedLetter_cases letter with special | ⟨small, coded⟩ | ⟨notSpecial, _, _, itself⟩
  · simp only [List.mem_cons, List.not_mem_nil, or_false] at special
    rcases special with rfl | rfl | rfl | rfl | rfl
    all_goals rfl
  · rw [coded, List.cons_append, List.cons_append, List.cons_append, List.append_assoc,
      List.singleton_append, readRest?, readRest?_code small]
  · simp only [List.mem_cons, List.not_mem_nil, or_false, not_or] at notSpecial
    simp [itself, readRest?, notSpecial]

theorem readRest?_flatMap_escapedLetter (word rest : List Char) :
    readRest? (.between false) (word.flatMap escapedLetter ++ '"' :: rest) = some (word, rest) := by
  induction word with
  | nil =>
      rfl
  | cons letter others inductionHypothesis =>
      rw [List.flatMap_cons, List.append_assoc, readRest?_escapedLetter, inductionHypothesis]
      rfl

/-- A literal is read back to its text, and reading stops where the literal ends. -/
theorem read?_quoteWord (word rest : List Char) :
    read? (quoteWord word ++ rest) = some (word, rest) := by
  rw [quoteWord, List.cons_append, List.append_assoc]
  exact readRest?_flatMap_escapedLetter word rest

end Literal

private theorem all_printable_toDigits {code : Nat} (small : code < 128) :
    (Nat.toDigits 16 code).all (fun shown => 0x20 ≤ shown.toNat && shown.toNat < 0x7F) =
      true := by
  have checked : ((List.range 128).all fun code => (Nat.toDigits 16 code).all fun shown =>
      0x20 ≤ shown.toNat && shown.toNat < 0x7F) = true := by
    decide
  exact List.all_eq_true.mp checked code (List.mem_range.mpr small)

/-- A character is written as itself, or else as an escape of printable ASCII characters. -/
theorem escapedLetter_self_or_printable (letter : Char) :
    (escapedLetter letter = [letter] ∧ 0x20 ≤ letter.toNat ∧ letter.toNat ≠ 0x7F) ∨
      (escapedLetter letter).all (fun shown => 0x20 ≤ shown.toNat && shown.toNat < 0x7F) =
        true := by
  rcases escapedLetter_cases letter with special | ⟨small, coded⟩ | ⟨_, low, high, itself⟩
  · right
    have checked : (['\\', '"', '\n', '\r', '\t'].all fun letter => (escapedLetter letter).all
        fun shown => 0x20 ≤ shown.toNat && shown.toNat < 0x7F) = true := by
      decide
    exact List.all_eq_true.mp checked letter special
  · right
    rw [coded, List.all_cons, List.all_cons, List.all_cons, List.all_append,
      all_printable_toDigits small]
    decide
  · left
    exact ⟨itself, low, high⟩

/-- A literal holds no control character, so it stands on one line. -/
theorem shown_of_mem_quoteWord
    {word : List Char} {shown : Char} (member : shown ∈ quoteWord word) :
    0x20 ≤ shown.toNat ∧ shown.toNat ≠ 0x7F := by
  rw [quoteWord, List.mem_cons, List.mem_append, List.mem_flatMap, List.mem_singleton] at member
  rcases member with rfl | ⟨letter, _, isMember⟩ | rfl
  · decide
  · rcases escapedLetter_self_or_printable letter with ⟨itself, low, high⟩ | printable
    · rw [itself, List.mem_singleton] at isMember
      subst isMember
      exact ⟨low, high⟩
    · have bounds := List.all_eq_true.mp printable shown isMember
      simp only [Bool.and_eq_true, decide_eq_true_eq] at bounds
      omega
  · decide

theorem lineFeed_not_mem_quoteWord (word : List Char) : '\n' ∉ quoteWord word := by
  intro member
  exact absurd (shown_of_mem_quoteWord member).1 (by decide)

/-! ## Where a literal ends -/

namespace Literal

/-- In front of any source, a reader takes the literal for the word and leaves the source; and no
control character stands in the literal. -/
structure Delimits (literal word : List Char) : Prop where
  read : ∀ after, read? (literal ++ after) = some (word, after)
  shown : ∀ letter ∈ literal, 0x20 ≤ letter.toNat ∧ letter.toNat ≠ 0x7F

theorem delimits_quoteWord (word : List Char) : Delimits (quoteWord word) word where
  read := read?_quoteWord word
  shown := fun _ member => shown_of_mem_quoteWord member

/-- Reading the longer literal ends where the shorter one ends. -/
theorem Delimits.eq_of_isPrefix
    {literal word other otherWord : List Char} (delimits : Delimits literal word)
    (otherDelimits : Delimits other otherWord) (front : literal <+: other) :
    word = otherWord := by
  obtain ⟨after, rfl⟩ := front
  have whole := otherDelimits.read []
  rw [List.append_nil, delimits.read after] at whole
  exact congrArg Prod.fst (Option.some.inj whole)

end Literal

/-! ## Texts without surrogates -/

private theorem flatMap_keptLetter
    {word : List Char} (noMark : Text.mark ∉ word) : word.flatMap Text.keptLetter = word := by
  induction word with
  | nil =>
      rfl
  | cons letter others inductionHypothesis =>
      rw [List.mem_cons, not_or] at noMark
      rw [List.flatMap_cons, inductionHypothesis noMark.2, Text.keptLetter,
        if_neg (Ne.symm noMark.1)]
      rfl

/-- Escaping does not see how a text keeps its characters. -/
private theorem flatMap_escapedLetter_keptLetter (letter : Char) :
    (Text.keptLetter letter).flatMap escapedLetter =
      (escapedLetter letter).flatMap Text.keptLetter := by
  by_cases isMark : letter = Text.mark
  · subst isMark
    decide
  · have noMark : Text.mark ∉ escapedLetter letter := by
      intro member
      rcases escapedLetter_self_or_printable letter with ⟨itself, _⟩ | printable
      · rw [itself, List.mem_singleton] at member
        exact isMark member.symm
      · exact absurd (List.all_eq_true.mp printable _ member) (by decide)
    rw [flatMap_keptLetter noMark, Text.keptLetter, if_neg isMark, List.flatMap_singleton]

/-- The literal of a text with given characters has the characters of their literal. -/
theorem quote_ofLetters (letters : List Char) :
    quote (Text.ofLetters letters) = Text.ofLetters (quoteWord letters) := by
  have quoteMark : Text.keptLetter '"' = ['"'] := by
    decide
  have letterwise : (letters.flatMap Text.keptLetter).flatMap escapedLetter =
      (letters.flatMap escapedLetter).flatMap Text.keptLetter := by
    simp only [List.flatMap_assoc, flatMap_escapedLetter_keptLetter]
  rw [quote, Text.ofLetters, Text.ofLetters, String.toList_ofList, quoteWord, quoteWord,
    letterwise, List.flatMap_cons, List.flatMap_append, List.flatMap_singleton, quoteMark]
  rfl

/-! ## Literals of texts -/

/-- No text can break out of its literal: whatever follows the literal, a reader gets the text and
stops behind it.  This holds of every text, and so of every row of characters.  Different texts have
different literals, and none of these is the beginning of another. -/
theorem quote_delimits :
    (∀ text : String, Literal.Delimits (quote text).toList text.toList) ∧
      (∀ letters : List Char, ∃ literal,
        quote (Text.ofLetters letters) = Text.ofLetters literal ∧
          Literal.Delimits literal letters) ∧
      Function.Injective quote ∧
      ∀ text other : String, (quote text).toList <+: (quote other).toList ↔ text = other := by
  have delimits : ∀ text : String, Literal.Delimits (quote text).toList text.toList := by
    intro text
    rw [quote, String.toList_ofList]
    exact Literal.delimits_quoteWord text.toList
  have same : ∀ text other : String, (quote text).toList <+: (quote other).toList →
      text = other := by
    intro text other front
    exact String.toList_injective ((delimits text).eq_of_isPrefix (delimits other) front)
  refine ⟨delimits, ?_, ?_, ?_⟩
  · intro letters
    exact ⟨quoteWord letters, quote_ofLetters letters, Literal.delimits_quoteWord letters⟩
  · intro text other equal
    exact same text other (equal ▸ List.prefix_refl (quote text).toList)
  · intro text other
    constructor
    · exact same text other
    · intro equal
      exact equal ▸ List.prefix_refl (quote text).toList

end ErrorDerive.Rust
