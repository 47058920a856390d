/-!
# Lines

* `unifyBreaks` writes each carriage return, alone or before a line feed, as one line feed: the
  form in which text files are read;
* `splitLines` cuts a text at every line boundary that Unicode knows.
-/

namespace ErrorDerive.Text

/-- Writes the pair of carriage return and line feed, and a lone carriage return, as a line
feed. -/
def unifyBreaksWord : List Char → List Char
  | [] => []
  | '\r' :: '\n' :: rest => '\n' :: unifyBreaksWord rest
  | letter :: rest => (if letter = '\r' then '\n' else letter) :: unifyBreaksWord rest

/-- A text with the line feed as its only line break. -/
def unifyBreaks (text : String) : String :=
  String.ofList (unifyBreaksWord text.toList)

/-- Whether a character ends a line by itself. -/
def endsLine (letter : Char) : Bool :=
  let code := letter.toNat
  (10 ≤ code && code ≤ 13) || (28 ≤ code && code ≤ 30) || code == 0x85 || code == 0x2028 ||
    code == 0x2029

/-- Cuts a word into lines; `line` holds the letters of the current line in reverse order. -/
private def linesFrom (line : List Char) : List Char → List (List Char)
  | [] => if line.isEmpty then [] else [line.reverse]
  | '\r' :: '\n' :: rest => line.reverse :: linesFrom [] rest
  | letter :: rest =>
    if endsLine letter then line.reverse :: linesFrom [] rest else linesFrom (letter :: line) rest

/-- The lines of a word without their ends; the last line need not be ended. -/
def splitLinesWord (word : List Char) : List (List Char) :=
  linesFrom [] word

/-- The lines of a text without their ends. -/
def splitLines (text : String) : List String :=
  (splitLinesWord text.toList).map String.ofList

theorem unifyBreaksWord_of_noReturn {word : List Char} (absent : '\r' ∉ word) :
    unifyBreaksWord word = word := by
  fun_induction unifyBreaksWord word with
  | case1 => rfl
  | case2 rest => simp at absent
  | case3 letter rest _ inductionHypothesis =>
    simp only [List.mem_cons, not_or] at absent
    simp [inductionHypothesis absent.2, Ne.symm absent.1]

end ErrorDerive.Text
