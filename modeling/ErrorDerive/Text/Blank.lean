/-!
# Blanks

The characters that count as blank space, and the two ways of taking them out of a text.

* `strip` removes them at both ends; `strip_strip` says that once is enough;
* `removeBlanks` removes them everywhere.
-/

namespace ErrorDerive.Text

/-- The characters that separate words: blanks, line breaks and the four separator controls. -/
def isBlank (letter : Char) : Bool :=
  let code := letter.toNat
  (9 ≤ code && code ≤ 13) || (28 ≤ code && code ≤ 32) || code == 0x85 || code == 0xA0 ||
    code == 0x1680 || (0x2000 ≤ code && code ≤ 0x200A) || code == 0x2028 || code == 0x2029 ||
    code == 0x202F || code == 0x205F || code == 0x3000

/-- Drops the letters at the end of a word that satisfy a test. -/
def dropEnd (test : Char → Bool) (word : List Char) : List Char :=
  (word.reverse.dropWhile test).reverse

/-- A word without the blanks at its two ends. -/
def stripWord (word : List Char) : List Char :=
  dropEnd isBlank (word.dropWhile isBlank)

/-- A text without the blanks at its two ends. -/
def strip (text : String) : String :=
  String.ofList (stripWord text.toList)

/-- A text without any blank. -/
def removeBlanks (text : String) : String :=
  String.ofList (text.toList.filter (!isBlank ·))

/-- Whether nothing but blanks stands in a text. -/
def isAllBlank (text : String) : Bool :=
  text.toList.all isBlank

theorem dropWhile_dropWhile (test : Char → Bool) (word : List Char) :
    (word.dropWhile test).dropWhile test = word.dropWhile test := by
  induction word with
  | nil => rfl
  | cons letter rest inductionHypothesis =>
    cases hold : test letter with
    | true => simp [hold, inductionHypothesis]
    | false => simp [hold]

/-- Dropping at the end keeps a first letter that fails the test. -/
theorem dropEnd_cons {test : Char → Bool} {letter : Char} (fails : test letter = false)
    (rest : List Char) : dropEnd test (letter :: rest) = letter :: dropEnd test rest := by
  unfold dropEnd
  rw [List.reverse_cons, List.dropWhile_append]
  split
  next empty =>
    have nothing : rest.reverse.dropWhile test = [] := by simpa using empty
    simp [nothing, fails]
  next => simp

theorem dropEnd_dropEnd (test : Char → Bool) (word : List Char) :
    dropEnd test (dropEnd test word) = dropEnd test word := by
  simp [dropEnd, dropWhile_dropWhile]

theorem stripWord_stripWord (word : List Char) : stripWord (stripWord word) = stripWord word := by
  unfold stripWord
  generalize trimmed : word.dropWhile isBlank = rest
  cases rest with
  | nil => rfl
  | cons letter rest =>
    have fails : isBlank letter = false := by
      have notBlank := List.head_dropWhile_not isBlank (l := word) (by simp [trimmed])
      simpa [trimmed] using notBlank
    rw [dropEnd_cons fails, List.dropWhile_cons, fails]
    simp [dropEnd_cons fails, dropEnd_dropEnd]

@[simp] theorem strip_strip (text : String) : strip (strip text) = strip text := by
  simp [strip, stripWord_stripWord]

end ErrorDerive.Text
