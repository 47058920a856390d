import ErrorDerive.Proofs.Text.Printing
import ErrorDerive.Text.Utf8

/-!
# Encoded texts

The bytes of a text are read back as the same code points.
-/

namespace ErrorDerive.Text

/-! ## One character -/

theorem toNat_lt (letter : Char) : letter.toNat < 0x110000 := by
  have valid : letter.toNat < 0xD800 ∨ 0xDFFF < letter.toNat ∧ letter.toNat < 0x110000 :=
    letter.valid
  omega

theorem continuation_of_bits {byte : UInt8} {bits : Nat} (value : byte.toNat = 0x80 + bits)
    (bound : bits < 64) : isContinuation byte = true ∧ continuationBits byte = bits := by
  unfold isContinuation continuationBits
  rw [value]
  refine ⟨?_, by omega⟩
  simp only [Bool.and_eq_true, decide_eq_true_eq]
  omega

theorem leadingChar?_one {lead : UInt8} {code : Nat} (first : lead.toNat = code)
    (small : code < 0x80) (rest : List UInt8) :
    leadingChar? (lead :: rest) = some (Char.ofNat code, 1) := by
  unfold leadingChar?
  simp only [first, if_pos small]

theorem leadingChar?_two {lead second : UInt8} {top low : Nat} (first : lead.toNat = 0xC0 + top)
    (next : second.toNat = 0x80 + low) (bound : 2 ≤ top ∧ top < 32) (lowBound : low < 64)
    (rest : List UInt8) :
    leadingChar? (lead :: second :: rest) = some (Char.ofNat (top * 64 + low), 2) := by
  obtain ⟨continues, bits⟩ := continuation_of_bits next lowBound
  have notSingle : ¬ 0xC0 + top < 0x80 := by omega
  have range : 0xC2 ≤ 0xC0 + top ∧ 0xC0 + top ≤ 0xDF := by omega
  simp [leadingChar?, first, notSingle, continues, bits, range]

theorem leadingChar?_three {lead second third : UInt8} {top middle low : Nat}
    (first : lead.toNat = 0xE0 + top) (next : second.toNat = 0x80 + middle)
    (last : third.toNat = 0x80 + low) (bound : top < 16) (middleBound : middle < 64)
    (lowBound : low < 64) (range : 0x800 ≤ top * 4096 + middle * 64 + low)
    (whole : isSurrogate (top * 4096 + middle * 64 + low) = false) (rest : List UInt8) :
    leadingChar? (lead :: second :: third :: rest) =
      some (Char.ofNat (top * 4096 + middle * 64 + low), 3) := by
  obtain ⟨continues, bits⟩ := continuation_of_bits next middleBound
  obtain ⟨ends, lastBits⟩ := continuation_of_bits last lowBound
  have notSingle : ¬ 0xE0 + top < 0x80 := by omega
  have notPair : ¬ 0xE0 + top ≤ 0xDF := by omega
  have isTriple : 0xE0 + top ≤ 0xEF := by omega
  have notOverlong : ¬ top * 4096 + middle * 64 + low < 0x800 := by omega
  have notHalf : 0xD800 ≤ top * 4096 + middle * 64 + low →
      0xDFFF < top * 4096 + middle * 64 + low := by
    simp only [isSurrogate, Bool.and_eq_false_iff, decide_eq_false_iff_not] at whole
    omega
  simpa [leadingChar?, first, notSingle, continues, bits, notPair, ends, lastBits, isTriple,
    range] using notHalf

theorem leadingChar?_four {lead second third fourth : UInt8} {top upper middle low : Nat}
    (first : lead.toNat = 0xF0 + top) (next : second.toNat = 0x80 + upper)
    (after : third.toNat = 0x80 + middle) (last : fourth.toNat = 0x80 + low) (bound : top < 5)
    (upperBound : upper < 64) (middleBound : middle < 64) (lowBound : low < 64)
    (range : 0x10000 ≤ top * 262144 + upper * 4096 + middle * 64 + low ∧
      top * 262144 + upper * 4096 + middle * 64 + low ≤ 0x10FFFF) (rest : List UInt8) :
    leadingChar? (lead :: second :: third :: fourth :: rest) =
      some (Char.ofNat (top * 262144 + upper * 4096 + middle * 64 + low), 4) := by
  obtain ⟨continues, bits⟩ := continuation_of_bits next upperBound
  obtain ⟨goesOn, moreBits⟩ := continuation_of_bits after middleBound
  obtain ⟨ends, lastBits⟩ := continuation_of_bits last lowBound
  have notSingle : ¬ 0xF0 + top < 0x80 := by omega
  have notPair : ¬ 0xF0 + top ≤ 0xDF := by omega
  have notTriple : ¬ 0xF0 + top ≤ 0xEF := by omega
  have isFour : 0xF0 + top ≤ 0xF4 := by omega
  simpa [leadingChar?, first, notSingle, continues, bits, notPair, goesOn, moreBits, notTriple,
    ends, lastBits, isFour] using range

theorem toNat_ofNat_of_byte {number lead bits : Nat} (value : number = lead + bits)
    (small : lead + bits < 256) : (UInt8.ofNat number).toNat = lead + bits := by
  rw [UInt8.toNat_ofNat', value, Nat.mod_eq_of_lt small]

/-- A character is read off the front of its bytes. -/
theorem leadingChar?_utf8EncodeChar (letter : Char) (rest : List UInt8) :
    leadingChar? (String.utf8EncodeChar letter ++ rest) =
      some (letter, (String.utf8EncodeChar letter).length) := by
  have whole := not_isSurrogate_toNat letter
  have bound := toNat_lt letter
  have same : letter = Char.ofNat letter.toNat := (Char.ofNat_toNat letter).symm
  have value : letter.val.toNat = letter.toNat := rfl
  simp only [String.utf8EncodeChar, value]
  generalize letter.toNat = code at whole bound same
  subst same
  -- One range of code points for each number of bytes.
  split
  · exact leadingChar?_one (by rw [UInt8.toNat_ofNat']; omega) (by omega) rest
  split
  · have digits : code = code / 64 % 32 * 64 + code % 64 := by omega
    have read := leadingChar?_two
      (toNat_ofNat_of_byte (Nat.add_comm (code / 64 % 32) 0xC0) (by omega))
      (toNat_ofNat_of_byte (Nat.add_comm (code % 64) 0x80) (by omega)) (by omega) (by omega) rest
    rw [← digits] at read
    exact read
  split
  · have digits : code = code / 4096 % 16 * 4096 + code / 64 % 64 * 64 + code % 64 := by omega
    have read := leadingChar?_three
      (toNat_ofNat_of_byte (Nat.add_comm (code / 4096 % 16) 0xE0) (by omega))
      (toNat_ofNat_of_byte (Nat.add_comm (code / 64 % 64) 0x80) (by omega))
      (toNat_ofNat_of_byte (Nat.add_comm (code % 64) 0x80) (by omega))
      (by omega) (by omega) (by omega) (by omega) (digits ▸ whole) rest
    rw [← digits] at read
    exact read
  · have digits : code = code / 262144 % 8 * 262144 + code / 4096 % 64 * 4096 +
        code / 64 % 64 * 64 + code % 64 := by
      omega
    have read := leadingChar?_four
      (toNat_ofNat_of_byte (Nat.add_comm (code / 262144 % 8) 0xF0) (by omega))
      (toNat_ofNat_of_byte (Nat.add_comm (code / 4096 % 64) 0x80) (by omega))
      (toNat_ofNat_of_byte (Nat.add_comm (code / 64 % 64) 0x80) (by omega))
      (toNat_ofNat_of_byte (Nat.add_comm (code % 64) 0x80) (by omega))
      (by omega) (by omega) (by omega) (by omega) (by omega) rest
    rw [← digits] at read
    exact read

/-! ## A whole text -/

theorem readingsFrom_append (skipped rest : List UInt8) :
    readingsFrom skipped.length (skipped ++ rest) = readingsFrom 0 rest := by
  induction skipped with
  | nil =>
      rfl
  | cons byte others ih =>
      rw [List.cons_append, List.length_cons, readingsFrom, ih]

theorem readings_utf8EncodeChar_append (letter : Char) (rest : List UInt8) :
    readings (String.utf8EncodeChar letter ++ rest) = some letter :: readings rest := by
  have leading := leadingChar?_utf8EncodeChar letter rest
  unfold readings
  cases bytes : String.utf8EncodeChar letter with
  | nil =>
      exact absurd bytes String.utf8EncodeChar_ne_nil
  | cons lead others =>
      rw [bytes, List.cons_append] at leading
      rw [List.cons_append, readingsFrom]
      simp only [leading, List.length_cons, Nat.add_sub_cancel]
      rw [readingsFrom_append]

theorem readings_flatMap_utf8EncodeChar (letters : List Char) :
    readings (letters.flatMap String.utf8EncodeChar) = letters.map some := by
  induction letters with
  | nil =>
      rfl
  | cons letter rest ih =>
      rw [List.flatMap_cons, readings_utf8EncodeChar_append, ih, List.map_cons]

theorem decode?_flatMap_utf8EncodeChar (letters : List Char) :
    decode? (letters.flatMap String.utf8EncodeChar) = some (ofLetters letters) := by
  have all : (letters.map some).mapM id = some letters := by
    induction letters with
    | nil =>
        rfl
    | cons letter rest ih =>
        simp [List.mapM_cons, ih]
  rw [decode?, readings_flatMap_utf8EncodeChar, all, Option.map_some]

theorem codePoints_ofLetters (letters : List Char) :
    codePoints (ofLetters letters) = letters.map Char.toNat := by
  have general : ∀ seen, codesFrom false seen (letters.flatMap keptLetter) =
      seen.reverse ++ letters.map Char.toNat := by
    induction letters with
    | nil =>
        simp [codesFrom]
    | cons letter rest ih =>
        intro seen
        rw [List.flatMap_cons, codesFrom_keptLetter, ih]
        simp
  rw [codePoints, ofLetters, String.toList_ofList, general, List.reverse_nil, List.nil_append]

theorem small_of_mem_codesFrom {word : List Char} {afterMark : Bool} {seen : List Nat}
    (small : ∀ code ∈ seen, code < 0x110000) {code : Nat}
    (member : code ∈ codesFrom afterMark seen word) : code < 0x110000 := by
  induction word generalizing afterMark seen with
  | nil =>
      exact small code (List.mem_reverse.mp member)
  | cons letter rest ih =>
      have smallMarked : markedCode letter < 0x110000 := by
        have bound := toNat_lt letter
        unfold markedCode
        split
        · decide
        · omega
      rw [codesFrom] at member
      split at member
      · exact ih (List.forall_mem_cons.mpr ⟨smallMarked, small⟩) member
      · split at member
        · exact ih small member
        · exact ih (List.forall_mem_cons.mpr ⟨toNat_lt letter, small⟩) member

/-- A text that can be encoded is read back from its bytes, code point by code point. -/
theorem decode?_of_encode? {text : String} {bytes : List UInt8}
    (encoded : encode? text = some bytes) :
    ∃ decoded, decode? bytes = some decoded ∧ codePoints decoded = codePoints text := by
  rw [encode?, Option.map_eq_some_iff] at encoded
  obtain ⟨letters, isWhole, rfl⟩ := encoded
  refine ⟨ofLetters letters, decode?_flatMap_utf8EncodeChar letters, ?_⟩
  rw [codePoints_ofLetters]
  unfold letters? at isWhole
  split at isWhole
  · cases isWhole
  · next whole =>
      injection isWhole with same
      have identity : ∀ code ∈ codePoints text, (Char.ofNat code).toNat = code := by
        intro code member
        have small : code < 0x110000 := small_of_mem_codesFrom (by simp) member
        have notHalf : isSurrogate code = false := by
          simp only [holdsSurrogate, List.any_eq_true, not_exists, not_and,
            Bool.not_eq_true] at whole
          exact whole code member
        exact toNat_ofNat_of_whole small notHalf
      rw [← same, List.map_map]
      exact (List.map_congr_left identity).trans (List.map_id _)

theorem encode?_eq_none_iff (text : String) :
    encode? text = none ↔ holdsSurrogate text = true := by
  unfold encode? letters?
  split
  · next half =>
      simp [half]
  · next whole =>
      simp [whole]

end ErrorDerive.Text
