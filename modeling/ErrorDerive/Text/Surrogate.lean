/-!
# Surrogates

Among the code points are 2048 surrogates, which are no characters: an encoding in units of 16 bits
spells a character beyond the basic plane with two of them. An escape in a file can still ask for a
surrogate, and two surrogates side by side are not the character that they would spell there.

A text keeps a surrogate in two characters, a mark and a stand-in, and the mark itself in two marks.
Every other character is kept as it is.

* `ofCodePoints` is the text with the given code points, and `codePoints` reads them back;
* `codePoints_ofCodePoints` says that nothing is lost, so two texts are equal only if their code
  points are;
* `letters?` are the characters of a text, which one with a surrogate has not.
-/

namespace ErrorDerive.Text

def isSurrogate (code : Nat) : Bool :=
  0xD800 ≤ code && code ≤ 0xDFFF

/-- The character in front of a stand-in. It is the last of the basic plane and means nothing. -/
def mark : Char := Char.ofNat 0xFFFF

/-- How far the stand-ins lie above the surrogates. -/
def standInDistance : Nat := 0x800

/-- How a text keeps a character. -/
def keptLetter (letter : Char) : List Char :=
  if letter = mark then [mark, mark] else [letter]

/-- How a text keeps a code point. -/
def kept (code : Nat) : List Char :=
  if isSurrogate code then [mark, Char.ofNat (code + standInDistance)]
  else keptLetter (Char.ofNat code)

/-- The code point that a character after a mark stands for. -/
def markedCode (letter : Char) : Nat :=
  if letter = mark then mark.toNat else letter.toNat - standInDistance

/-- Reads code points, the first of them after a mark or not; `seen` has the earlier ones, last one
first. No text that is kept ends with a lone mark. -/
def codesFrom (afterMark : Bool) (seen : List Nat) : List Char → List Nat
  | [] => seen.reverse
  | letter :: rest =>
    if afterMark then codesFrom false (markedCode letter :: seen) rest
    else if letter = mark then codesFrom true seen rest
    else codesFrom false (letter.toNat :: seen) rest

def codePoints (text : String) : List Nat :=
  codesFrom false [] text.toList

def ofCodePoints (codes : List Nat) : String :=
  String.ofList (codes.flatMap kept)

def ofLetters (letters : List Char) : String :=
  String.ofList (letters.flatMap keptLetter)

/-- Whether a text holds a surrogate. -/
def holdsSurrogate (text : String) : Bool :=
  (codePoints text).any isSurrogate

/-- The characters of a text, if it holds no surrogate. -/
def letters? (text : String) : Option (List Char) :=
  if holdsSurrogate text then none else some ((codePoints text).map Char.ofNat)

theorem toNat_ofNat_of_whole {code : Nat} (small : code < 0x110000)
    (whole : isSurrogate code = false) : (Char.ofNat code).toNat = code := by
  have valid : code.isValidChar := by
    simp only [isSurrogate, Bool.and_eq_false_iff, decide_eq_false_iff_not] at whole
    unfold Nat.isValidChar
    omega
  rw [Char.ofNat, dif_pos valid]
  rfl

theorem codesFrom_keptLetter (letter : Char) (seen : List Nat) (rest : List Char) :
    codesFrom false seen (keptLetter letter ++ rest) =
      codesFrom false (letter.toNat :: seen) rest := by
  unfold keptLetter
  split
  case isTrue same => simp [codesFrom, markedCode, same]
  case isFalse different => simp [codesFrom, different]

theorem codesFrom_kept {code : Nat} (small : code < 0x110000) (seen : List Nat)
    (rest : List Char) :
    codesFrom false seen (kept code ++ rest) = codesFrom false (code :: seen) rest := by
  cases surrogate : isSurrogate code with
  | false =>
    simp only [kept, surrogate, Bool.false_eq_true, if_false, codesFrom_keptLetter,
      toNat_ofNat_of_whole small surrogate]
  | true =>
    have bounds : 0xD800 ≤ code ∧ code ≤ 0xDFFF := by simpa [isSurrogate] using surrogate
    have shown : (Char.ofNat (code + standInDistance)).toNat = code + standInDistance :=
      toNat_ofNat_of_whole (by unfold standInDistance; omega)
        (by simp [isSurrogate, standInDistance]; omega)
    have different : Char.ofNat (code + standInDistance) ≠ mark := by
      intro same
      have equal := congrArg Char.toNat same
      rw [shown] at equal
      have : mark.toNat = 0xFFFF := rfl
      unfold standInDistance at equal
      omega
    simp [kept, surrogate, codesFrom, markedCode, different, shown]

private theorem codesFrom_flatMap {codes : List Nat} (small : ∀ code ∈ codes, code < 0x110000)
    (seen : List Nat) : codesFrom false seen (codes.flatMap kept) = seen.reverse ++ codes := by
  induction codes generalizing seen with
  | nil => simp [codesFrom]
  | cons code rest inductionHypothesis =>
    rw [List.flatMap_cons, codesFrom_kept (small code List.mem_cons_self),
      inductionHypothesis fun later member => small later (List.mem_cons_of_mem _ member)]
    simp

/-- The code points that a text was made of can be read back. -/
theorem codePoints_ofCodePoints {codes : List Nat} (small : ∀ code ∈ codes, code < 0x110000) :
    codePoints (ofCodePoints codes) = codes := by
  simp [codePoints, ofCodePoints, codesFrom_flatMap small]

end ErrorDerive.Text
