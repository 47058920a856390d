/-!
# Segments

Cutting a word at occurrences of a separator.

* `contains` asks whether a word occurs in another;
* `afterLast` is the part of a word after the rightmost occurrence of a separator;
* `cutAtFirst?` cuts a word at its first letter that satisfies a condition;
* `cutAtEach` cuts a word at every occurrence of a letter.
-/

namespace ErrorDerive.Text

/-- Whether the letters of `needle` stand next to each other somewhere in a word. -/
def containsWord (needle : List Char) : List Char → Bool
  | [] => needle.isEmpty
  | letter :: rest => needle.isPrefixOf (letter :: rest) || containsWord needle rest

def contains (needle text : String) : Bool :=
  containsWord needle.toList text.toList

/-- What follows the rightmost occurrence of a separator in a word, if it occurs. -/
def afterLast? (separator : List Char) : List Char → Option (List Char)
  | [] => separator.isPrefixOf? []
  | letter :: rest =>
    match afterLast? separator rest with
    | some segment => some segment
    | none => separator.isPrefixOf? (letter :: rest)

/-- What follows the rightmost occurrence of a separator, or the whole word without one. -/
def afterLast (separator word : List Char) : List Char :=
  (afterLast? separator word).getD word

/-- The parts of a word before and after its first letter that satisfies a condition, if it has
one; the letter itself is left out. -/
def cutAtFirst? (condition : Char → Bool) : List Char → Option (List Char × List Char)
  | [] => none
  | letter :: rest =>
    if condition letter then some ([], rest)
    else (cutAtFirst? condition rest).map fun (before, after) => (letter :: before, after)

/-- The parts of a word between the occurrences of a letter. -/
def cutAtEach (mark : Char) : List Char → List (List Char)
  | [] => [[]]
  | letter :: rest =>
    if letter = mark then [] :: cutAtEach mark rest
    else (cutAtEach mark rest).modifyHead (letter :: ·)

theorem isPrefixOf?_append (word rest : List Char) :
    word.isPrefixOf? (word ++ rest) = some rest := by
  induction word with
  | nil => rfl
  | cons letter others inductionHypothesis =>
    show (if letter == letter then others.isPrefixOf? (others ++ rest) else none) = some rest
    rw [if_pos (beq_self_eq_true letter), inductionHypothesis]

theorem isPrefixOf?_of_ne {first second : Char} (different : first ≠ second)
    (word source : List Char) : (first :: word).isPrefixOf? (second :: source) = none := by
  show (if first == second then word.isPrefixOf? source else none) = none
  rw [if_neg (by simpa using different)]

theorem afterLast?_of_absent {mark : Char} {word : List Char} (absent : mark ∉ word)
    (separator : List Char) : afterLast? (mark :: separator) word = none := by
  induction word with
  | nil => rfl
  | cons letter rest inductionHypothesis =>
    simp only [List.mem_cons, not_or] at absent
    rw [afterLast?, inductionHypothesis absent.2]
    exact isPrefixOf?_of_ne absent.1 separator rest

/-- A word without the first letter of a separator is its own last segment. -/
theorem afterLast_of_absent {mark : Char} {word : List Char} (absent : mark ∉ word)
    (separator : List Char) : afterLast (mark :: separator) word = word := by
  rw [afterLast, afterLast?_of_absent absent separator, Option.getD_none]

/-- What follows two equal letters is the last segment behind such a pair, unless it holds the
letter itself. -/
theorem afterLast_append_pair {mark : Char} {segment : List Char} (absent : mark ∉ segment)
    (front : List Char) : afterLast [mark, mark] (front ++ mark :: mark :: segment) = segment := by
  -- The second letter of the pair must not make a pair with the segment.
  have second : afterLast? [mark, mark] (mark :: segment) = none := by
    rw [afterLast?, afterLast?_of_absent absent]
    show (if mark == mark then [mark].isPrefixOf? segment else none) = none
    rw [if_pos (beq_self_eq_true mark)]
    cases segment with
    | nil => rfl
    | cons letter rest =>
      simp only [List.mem_cons, not_or] at absent
      exact isPrefixOf?_of_ne absent.1 [] rest
  have found : afterLast? [mark, mark] (front ++ mark :: mark :: segment) = some segment := by
    induction front with
    | nil =>
      rw [List.nil_append, afterLast?, second]
      exact isPrefixOf?_append [mark, mark] segment
    | cons letter others inductionHypothesis =>
      rw [List.cons_append, afterLast?, inductionHypothesis]
  rw [afterLast, found, Option.getD_some]

theorem cutAtFirst?_append {mark : Char} {word : List Char} (absent : mark ∉ word)
    (rest : List Char) : cutAtFirst? (· = mark) (word ++ mark :: rest) = some (word, rest) := by
  induction word with
  | nil => simp [cutAtFirst?]
  | cons letter others inductionHypothesis =>
    rw [List.mem_cons, not_or] at absent
    rw [List.cons_append, cutAtFirst?, inductionHypothesis absent.2]
    simp [Ne.symm absent.1]

theorem cutAtEach_of_absent {mark : Char} {word : List Char} (absent : mark ∉ word) :
    cutAtEach mark word = [word] := by
  induction word with
  | nil => rfl
  | cons letter rest inductionHypothesis =>
    simp only [List.mem_cons, not_or] at absent
    simp [cutAtEach, Ne.symm absent.1, inductionHypothesis absent.2]

/-- A part without the letter, followed by the letter, is the first part. -/
theorem cutAtEach_append {mark : Char} {part : List Char} (absent : mark ∉ part)
    (rest : List Char) : cutAtEach mark (part ++ mark :: rest) = part :: cutAtEach mark rest := by
  induction part with
  | nil => simp [cutAtEach]
  | cons letter part inductionHypothesis =>
    simp only [List.mem_cons, not_or] at absent
    simp [cutAtEach, Ne.symm absent.1, inductionHypothesis absent.2]

end ErrorDerive.Text
