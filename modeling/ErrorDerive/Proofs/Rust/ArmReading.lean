import ErrorDerive.Proofs.Rust.LiteralReading
import ErrorDerive.Rust.Item
import ErrorDerive.Text.Identifier

/-!
# Reading arms back

A reader for the lines of a match, as a reader of Rust takes them: a pattern on a variant of
`Self`, an arrow, and one of four things to do.  String literals are read by their escapes.

* `ReadArm.ofLine?` is the reader;
* `ReadArm.ofLine?_text` says what it finds on the line of an arm whose names are identifiers.
-/

namespace ErrorDerive.Rust

open Text (isPrefixOf?_append isPrefixOf?_of_ne cutAtFirst?_append)

/-- What an arm does, as its source says. -/
inductive Reaction where
  /-- Writes a text. -/
  | writeText (text : List Char)
  /-- Writes a format string with the named arguments. -/
  | writeFormat (format : List Char) (arguments : List String)
  /-- Returns the cause that a name is bound to. -/
  | returnCause (name : String)
  /-- Returns that there is no cause. -/
  | returnNone
  deriving DecidableEq, Repr, Inhabited

/-- An arm as it is read. -/
structure ReadArm where
  pattern : Pattern
  reaction : Reaction
  deriving DecidableEq, Repr, Inhabited

/-! ## The reader -/

/-- The name that a word is, spaces in front of it apart. -/
def readName? (word : List Char) : Option String :=
  let letters := word.dropWhile (· = ' ')
  if Text.isIdentifierWord letters then some (String.ofList letters) else none

/-- The names that stand in a word between commas. -/
def readNames? (word : List Char) : Option (List String) :=
  if word = [] then some [] else (Text.cutAtEach ',' word).mapM readName?

/-- The fields that a pattern on a variant shows between its parentheses. -/
def Pattern.ofFields? (variant : String) (word : List Char) : Option Pattern :=
  if word = ['.', '.'] then some (.ignoring variant)
  else (readNames? word).map (.binding variant)

/-- Reads a pattern at the front of a source. -/
def Pattern.read? (source : List Char) : Option (Pattern × List Char) := do
  let source ← "Self::".toList.isPrefixOf? source
  let variant ← readName? (source.takeWhile Text.continuesIdentifier)
  match source.dropWhile Text.continuesIdentifier with
  | '(' :: rest =>
    let (fields, rest) ← Text.cutAtFirst? (· = ')') rest
    let pattern ← Pattern.ofFields? variant fields
    return (pattern, rest)
  | rest => return (.plain variant, rest)

/-- The names of arguments, each behind a comma and a space. -/
def readArguments? : List Char → Option (List String)
  | [] => some []
  | ',' :: ' ' :: word => readNames? word
  | _ => none

/-- Reads what an arm does at the front of a source. -/
def Reaction.read? (source : List Char) : Option (Reaction × List Char) :=
  match "f.write_str(".toList.isPrefixOf? source with
  | some source => do
    let (text, source) ← Literal.read? source
    let source ← [')'].isPrefixOf? source
    return (.writeText text, source)
  | none =>
    match "write!(f, ".toList.isPrefixOf? source with
    | some source => do
      let (format, source) ← Literal.read? source
      let (word, source) ← Text.cutAtFirst? (· = ')') source
      let arguments ← readArguments? word
      return (.writeFormat format arguments, source)
    | none =>
      match "Some(".toList.isPrefixOf? source with
      | some source => do
        let (word, source) ← Text.cutAtFirst? (· = ')') source
        let name ← readName? word
        return (.returnCause name, source)
      | none => do
        let source ← "None".toList.isPrefixOf? source
        return (.returnNone, source)

/-- Reads an arm that takes up a line. -/
def ReadArm.ofLine? (line : String) : Option ReadArm := do
  let (pattern, source) ← Pattern.read? (line.toList.dropWhile (· = ' '))
  let source ← " => ".toList.isPrefixOf? source
  let (reaction, source) ← Reaction.read? source
  if source = [','] then some ⟨pattern, reaction⟩ else none

/-! ## Names -/

theorem readName?_toList
    {name : String} (identifier : Text.isIdentifier name = true) :
    readName? name.toList = some name := by
  have kept : name.toList.dropWhile (· = ' ') = name.toList := by
    have noSpace : ' ' ∉ name.toList := Text.not_mem_of_isIdentifierWord identifier (by decide)
    cases letters : name.toList with
    | nil =>
        rfl
    | cons letter rest =>
        rw [letters, List.mem_cons, not_or] at noSpace
        simp [Ne.symm noSpace.1]
  have isWord : Text.isIdentifierWord name.toList = true := identifier
  simp [readName?, kept, isWord]

theorem readName?_space (word : List Char) : readName? (' ' :: word) = readName? word := by
  simp [readName?]

private theorem cutAtEach_intercalate
    {first : List Char} {others : List (List Char)}
    (absent : ∀ word ∈ first :: others, ',' ∉ word) :
    Text.cutAtEach ',' (List.intercalate [',', ' '] (first :: others)) =
      first :: others.map (' ' :: ·) := by
  induction others generalizing first with
  | nil =>
      rw [List.intercalate_singleton]
      exact Text.cutAtEach_of_absent (absent first List.mem_cons_self)
  | cons second rest inductionHypothesis =>
      have laterAbsent : ∀ word ∈ (' ' :: second) :: rest, ',' ∉ word := by
        intro word member
        rcases List.mem_cons.mp member with rfl | member
        · simpa using absent second (by simp)
        · exact absent word (by simp [member])
      rw [List.intercalate_cons_cons, List.append_assoc, List.cons_append,
        Text.cutAtEach_append (absent first List.mem_cons_self), List.cons_append,
        List.nil_append, ← List.intercalate_cons_cons_left, inductionHypothesis laterAbsent]
      rfl

private theorem mapM_readName?
    {names : List String} (identifiers : ∀ name ∈ names, Text.isIdentifier name = true) :
    (names.map fun name => ' ' :: name.toList).mapM readName? = some names := by
  induction names with
  | nil =>
      rfl
  | cons first others inductionHypothesis =>
      rw [List.map_cons, List.mapM_cons, readName?_space,
        readName?_toList (identifiers first List.mem_cons_self),
        inductionHypothesis fun name member => identifiers name (List.mem_cons_of_mem first member)]
      rfl

theorem toList_commaSeparated (names : List String) :
    (commaSeparated names).toList = List.intercalate [',', ' '] (names.map String.toList) := by
  rw [commaSeparated, String.toList_intercalate]
  rfl

/-- Identifiers between commas are read back. -/
theorem readNames?_commaSeparated
    {names : List String} (identifiers : ∀ name ∈ names, Text.isIdentifier name = true) :
    readNames? (commaSeparated names).toList = some names := by
  rw [toList_commaSeparated]
  cases names with
  | nil =>
      rfl
  | cons first others =>
      have firstRead := readName?_toList (identifiers first List.mem_cons_self)
      have othersRead := mapM_readName? fun name member =>
        identifiers name (List.mem_cons_of_mem first member)
      have absent : ∀ word ∈ (first :: others).map String.toList, ',' ∉ word := by
        intro word member
        obtain ⟨name, isName, rfl⟩ := List.mem_map.mp member
        exact Text.not_mem_of_isIdentifierWord (identifiers name isName) (by decide)
      have cut := cutAtEach_intercalate absent
      have nonempty : List.intercalate [',', ' '] ((first :: others).map String.toList) ≠ [] := by
        intro empty
        rw [List.map_cons] at empty
        rw [empty] at cut
        injection cut with noLetters _
        have identifier := identifiers first List.mem_cons_self
        rw [Text.isIdentifier, ← noLetters] at identifier
        cases identifier
      rw [List.map_cons] at nonempty
      rw [readNames?, List.map_cons, if_neg nonempty, cut, List.mapM_cons, firstRead, List.map_map]
      exact congrArg (fun read? => read? >>= fun read => some (first :: read)) othersRead

/-! ## Patterns and what an arm does -/

/-- A pattern in which all names are identifiers. -/
def Pattern.IsNamed : Pattern → Prop
  | plain variant => Text.isIdentifier variant = true
  | ignoring variant => Text.isIdentifier variant = true
  | binding variant names =>
    Text.isIdentifier variant = true ∧ ∀ name ∈ names, Text.isIdentifier name = true

def Action.IsNamed : Action → Prop
  | writeText _ => True
  | writeTemplate _ arguments => ∀ name ∈ arguments, Text.isIdentifier name = true
  | returnCause name => Text.isIdentifier name = true
  | returnNone => True

def Action.reaction : Action → Reaction
  | writeText text => .writeText text.toList
  | writeTemplate template arguments =>
    .writeFormat (FormatString.ofTemplate template.toList) arguments
  | returnCause name => .returnCause name
  | returnNone => .returnNone

theorem takeWhile_identifier
    {variant : String} (identifier : Text.isIdentifier variant = true) (mark : Char)
    (stops : Text.continuesIdentifier mark = false) (rest : List Char) :
    (variant.toList ++ mark :: rest).takeWhile Text.continuesIdentifier = variant.toList ∧
      (variant.toList ++ mark :: rest).dropWhile Text.continuesIdentifier = mark :: rest := by
  have continues : ∀ letter ∈ variant.toList, Text.continuesIdentifier letter = true :=
    fun letter member => Text.continues_of_isIdentifierWord identifier member
  constructor
  · rw [List.takeWhile_append_of_pos continues, List.takeWhile_cons_of_neg (by simp [stops]),
      List.append_nil]
  · rw [List.dropWhile_append_of_pos continues, List.dropWhile_cons_of_neg (by simp [stops])]

theorem mem_intercalate
    {separator : List Char} {words : List (List Char)} {letter : Char}
    (member : letter ∈ separator.intercalate words) :
    letter ∈ separator ∨ ∃ word ∈ words, letter ∈ word := by
  induction words with
  | nil =>
      simp at member
  | cons first others inductionHypothesis =>
      cases others with
      | nil =>
          rw [List.intercalate_singleton] at member
          exact Or.inr ⟨first, List.mem_cons_self, member⟩
      | cons second rest =>
          rw [List.intercalate_cons_cons, List.mem_append, List.mem_append] at member
          rcases member with (inFirst | inSeparator) | later
          · exact Or.inr ⟨first, List.mem_cons_self, inFirst⟩
          · exact Or.inl inSeparator
          · rcases inductionHypothesis later with inSeparator | ⟨word, isWord, inWord⟩
            · exact Or.inl inSeparator
            · exact Or.inr ⟨word, List.mem_cons_of_mem first isWord, inWord⟩

theorem not_mem_commaSeparated
    {names : List String} (identifiers : ∀ name ∈ names, Text.isIdentifier name = true)
    (mark : Char) (stops : Text.continuesIdentifier mark = false) (notComma : mark ≠ ',')
    (notSpace : mark ≠ ' ') :
    mark ∉ (commaSeparated names).toList := by
  intro member
  rw [toList_commaSeparated] at member
  rcases mem_intercalate member with inSeparator | ⟨word, isWord, inWord⟩
  · exact absurd inSeparator (by simp [notComma, notSpace])
  · obtain ⟨name, isName, rfl⟩ := List.mem_map.mp isWord
    exact Text.not_mem_of_isIdentifierWord (identifiers name isName) stops inWord

/-- A pattern in front of a space is read back. -/
theorem Pattern.read?_text
    {pattern : Pattern} (named : pattern.IsNamed) (rest : List Char) :
    Pattern.read? (pattern.text.toList ++ ' ' :: rest) = some (pattern, ' ' :: rest) := by
  cases pattern with
  | plain variant =>
      obtain ⟨taken, dropped⟩ := takeWhile_identifier named ' ' (by decide) rest
      rw [Pattern.text, String.toList_append, List.append_assoc, Pattern.read?,
        isPrefixOf?_append]
      simp only [Option.bind_eq_bind, Option.bind_some, taken, dropped, readName?_toList named]
      rfl
  | ignoring variant =>
      obtain ⟨taken, dropped⟩ := takeWhile_identifier named '(' (by decide)
        (['.', '.'] ++ ')' :: ' ' :: rest)
      have text : (Pattern.ignoring variant).text.toList ++ ' ' :: rest =
          "Self::".toList ++ (variant.toList ++ '(' :: (['.', '.'] ++ ')' :: ' ' :: rest)) := by
        simp [Pattern.text]
      rw [text, Pattern.read?, isPrefixOf?_append]
      simp only [Option.bind_eq_bind, Option.bind_some, taken, dropped, readName?_toList named,
        cutAtFirst?_append (by decide : ')' ∉ ['.', '.'])]
      rfl
  | binding variant names =>
      obtain ⟨variantNamed, namesNamed⟩ := named
      obtain ⟨taken, dropped⟩ := takeWhile_identifier variantNamed '(' (by decide)
        ((commaSeparated names).toList ++ ')' :: ' ' :: rest)
      have text : (Pattern.binding variant names).text.toList ++ ' ' :: rest =
          "Self::".toList ++
            (variant.toList ++ '(' :: ((commaSeparated names).toList ++ ')' :: ' ' :: rest)) := by
        simp [Pattern.text]
      have closed := not_mem_commaSeparated namesNamed ')' (by decide) (by decide) (by decide)
      have notDots : (commaSeparated names).toList ≠ ['.', '.'] := by
        intro dots
        have noDot := not_mem_commaSeparated namesNamed '.' (by decide) (by decide) (by decide)
        rw [dots] at noDot
        exact noDot List.mem_cons_self
      rw [text, Pattern.read?, isPrefixOf?_append]
      simp only [Option.bind_eq_bind, Option.bind_some, taken, dropped,
        readName?_toList variantNamed, cutAtFirst?_append closed, Pattern.ofFields?,
        if_neg notDots, readNames?_commaSeparated namesNamed]
      rfl

theorem toList_join_arguments (first : String) (others : List String) :
    (String.join ((first :: others).map (", " ++ ·))).toList =
      ',' :: ' ' :: (commaSeparated (first :: others)).toList := by
  induction others generalizing first with
  | nil =>
      simp [toList_commaSeparated]
  | cons second rest inductionHypothesis =>
      have later := inductionHypothesis second
      rw [toList_commaSeparated] at later ⊢
      rw [List.map_cons, String.join_cons, String.toList_append, later, String.toList_append]
      simp [List.intercalate_cons_cons]

theorem readArguments?_join
    {arguments : List String} (identifiers : ∀ name ∈ arguments, Text.isIdentifier name = true) :
    readArguments? (String.join (arguments.map (", " ++ ·))).toList = some arguments := by
  cases arguments with
  | nil =>
      rfl
  | cons first others =>
      rw [toList_join_arguments, readArguments?]
      exact readNames?_commaSeparated identifiers

theorem not_mem_join_arguments
    {arguments : List String} (identifiers : ∀ name ∈ arguments, Text.isIdentifier name = true)
    (mark : Char) (stops : Text.continuesIdentifier mark = false) (notComma : mark ≠ ',')
    (notSpace : mark ≠ ' ') :
    mark ∉ (String.join (arguments.map (", " ++ ·))).toList := by
  have absent : ∀ name ∈ arguments, mark ∉ name.toList := fun name member =>
    Text.not_mem_of_isIdentifierWord (identifiers name member) stops
  simpa [notComma, notSpace] using absent

/-- An action in front of a comma is read back. -/
theorem Reaction.read?_text
    {action : Action} (named : action.IsNamed) (rest : List Char) :
    Reaction.read? (action.text.toList ++ ',' :: rest) = some (action.reaction, ',' :: rest) := by
  cases action with
  | writeText text =>
      have split : (Action.writeText text).text.toList ++ ',' :: rest =
          "f.write_str(".toList ++ (quoteWord text.toList ++ ([')'] ++ ',' :: rest)) := by
        simp [Action.text, quote]
      rw [split, Reaction.read?, isPrefixOf?_append]
      simp only [Literal.read?_quoteWord, Option.bind_eq_bind, Option.bind_some,
        isPrefixOf?_append]
      rfl
  | writeTemplate template arguments =>
      have split : (Action.writeTemplate template arguments).text.toList ++ ',' :: rest =
          "write!(f, ".toList ++ (quoteWord (FormatString.ofTemplate template.toList) ++
            ((String.join (arguments.map (", " ++ ·))).toList ++ ')' :: ',' :: rest)) := by
        simp [Action.text, FormatString.quote]
      have closed := not_mem_join_arguments named ')' (by decide) (by decide) (by decide)
      have noText : ∀ source, "f.write_str(".toList.isPrefixOf? ("write!(f, ".toList ++ source) =
          none :=
        fun _ => isPrefixOf?_of_ne (by decide) _ _
      rw [split, Reaction.read?, noText, isPrefixOf?_append]
      simp only [Literal.read?_quoteWord, Option.bind_eq_bind, Option.bind_some,
        cutAtFirst?_append closed, readArguments?_join named]
      rfl
  | returnCause name =>
      have split : (Action.returnCause name).text.toList ++ ',' :: rest =
          "Some(".toList ++ (name.toList ++ ')' :: ',' :: rest) := by
        simp [Action.text]
      have closed : ')' ∉ name.toList := Text.not_mem_of_isIdentifierWord named (by decide)
      have noText : ∀ source, "f.write_str(".toList.isPrefixOf? ("Some(".toList ++ source) =
          none :=
        fun _ => isPrefixOf?_of_ne (by decide) _ _
      have noFormat : ∀ source, "write!(f, ".toList.isPrefixOf? ("Some(".toList ++ source) =
          none :=
        fun _ => isPrefixOf?_of_ne (by decide) _ _
      rw [split, Reaction.read?, noText, noFormat, isPrefixOf?_append]
      simp only [Option.bind_eq_bind, Option.bind_some, cutAtFirst?_append closed,
        readName?_toList named]
      rfl
  | returnNone =>
      rfl

/-! ## Lines -/

/-- An arm in which all names are identifiers. -/
structure Arm.IsNamed (arm : Arm) : Prop where
  pattern : arm.pattern.IsNamed
  action : arm.action.IsNamed

def Arm.asRead (arm : Arm) : ReadArm :=
  ⟨arm.pattern, arm.action.reaction⟩

theorem Pattern.toList_text (pattern : Pattern) :
    ∃ others, pattern.text.toList = 'S' :: others := by
  cases pattern with
  | plain variant =>
      exact ⟨_, String.toList_append⟩
  | ignoring variant =>
      exact ⟨_, by simp only [Pattern.text, String.toList_append]; rfl⟩
  | binding variant names =>
      exact ⟨_, by simp only [Pattern.text, String.toList_append]; rfl⟩

/-- The line of an arm whose names are identifiers is read as that arm. -/
theorem ReadArm.ofLine?_text {arm : Arm} (named : arm.IsNamed) (depth : Nat) :
    ReadArm.ofLine? (indent depth ++ arm.text) = some arm.asRead := by
  have line : (indent depth ++ arm.text).toList.dropWhile (· = ' ') =
      arm.pattern.text.toList ++ ' ' :: ("=> ".toList ++ (arm.action.text.toList ++ [','])) := by
    obtain ⟨others, text⟩ := Pattern.toList_text arm.pattern
    have blanks : ∀ letter ∈ List.replicate (4 * depth) ' ', decide (letter = ' ') = true := by
      intro letter member
      rw [List.eq_of_mem_replicate member]
      rfl
    rw [indent, String.toList_append, String.toList_ofList, List.dropWhile_append_of_pos blanks,
      Arm.text, String.toList_append, String.toList_append, String.toList_append, text,
      List.cons_append, List.cons_append, List.cons_append, List.dropWhile_cons_of_neg (by decide)]
    simp
  have arrow : ∀ source : List Char,
      " => ".toList.isPrefixOf? (' ' :: ("=> ".toList ++ source)) = some source :=
    isPrefixOf?_append " => ".toList
  rw [ReadArm.ofLine?, line, Pattern.read?_text named.pattern]
  simp only [Option.bind_eq_bind, Option.bind_some, arrow, Reaction.read?_text named.action]
  rfl

theorem lineFeed_not_mem_of_isIdentifier
    {name : String} (identifier : Text.isIdentifier name = true) : '\n' ∉ name.toList :=
  Text.not_mem_of_isIdentifierWord identifier (by decide)

theorem Pattern.IsNamed.lineFeed_not_mem_text
    {pattern : Pattern} (named : pattern.IsNamed) : '\n' ∉ pattern.text.toList := by
  cases pattern with
  | plain variant =>
      have variantLine := lineFeed_not_mem_of_isIdentifier named
      simpa [Pattern.text] using variantLine
  | ignoring variant =>
      have variantLine := lineFeed_not_mem_of_isIdentifier named
      simpa [Pattern.text] using variantLine
  | binding variant names =>
      have variantLine := lineFeed_not_mem_of_isIdentifier named.1
      have namesLine := not_mem_commaSeparated named.2 '\n' (by decide) (by decide) (by decide)
      simpa [Pattern.text] using ⟨variantLine, namesLine⟩

theorem Action.IsNamed.lineFeed_not_mem_text
    {action : Action} (named : action.IsNamed) : '\n' ∉ action.text.toList := by
  cases action with
  | writeText text =>
      have literalLine := lineFeed_not_mem_quoteWord text.toList
      simpa [Action.text, quote] using literalLine
  | writeTemplate template arguments =>
      have literalLine := lineFeed_not_mem_quoteWord (FormatString.ofTemplate template.toList)
      have argumentsLine := not_mem_join_arguments named '\n' (by decide) (by decide) (by decide)
      simp only [Action.text, FormatString.quote, String.toList_append, String.toList_ofList,
        List.mem_append, literalLine, argumentsLine, or_false]
      decide
  | returnCause name =>
      have nameLine := lineFeed_not_mem_of_isIdentifier named
      simpa [Action.text] using nameLine
  | returnNone =>
      decide

/-- The text of an arm takes up one line. -/
theorem Arm.IsNamed.lineFeed_not_mem_text
    {arm : Arm} (named : arm.IsNamed) : '\n' ∉ arm.text.toList := by
  have patternLine := named.pattern.lineFeed_not_mem_text
  have actionLine := named.action.lineFeed_not_mem_text
  simpa [Arm.text] using ⟨patternLine, actionLine⟩

end ErrorDerive.Rust
