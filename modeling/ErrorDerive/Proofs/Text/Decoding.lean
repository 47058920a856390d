import ErrorDerive.Proofs.Text.Encoding
import ErrorDerive.Text.Lines

/-!
# Decoded bytes

What the bytes of a file say about its text.

* `eq_flatMap_of_decode?` says that bytes that can be decoded are those of the decoded text, so a
  text has no other bytes than its own;
* `ofLetters_injective` and `unifyBreaks_ofLetters` carry questions about texts over to letters;
* `unifyBreaksWord_eq_self_iff` says that one kind of line break changes nothing about a word
  exactly if it has no carriage return.
-/

namespace ErrorDerive.Text

/-! ## One character -/

theorem eq_ofNat_toNat (byte : UInt8) {number : Nat} (value : number % 256 = byte.toNat) :
    UInt8.ofNat number = byte := by
  apply UInt8.toNat_inj.mp
  rw [UInt8.toNat_ofNat', value]

theorem bounds_of_isContinuation {byte : UInt8} (continues : isContinuation byte = true) :
    ∃ bits, byte.toNat = 0x80 + bits ∧ bits < 64 ∧ continuationBits byte = bits := by
  simp only [isContinuation, Bool.and_eq_true, decide_eq_true_eq] at continues
  refine ⟨continuationBits byte, ?_, ?_, rfl⟩
  · unfold continuationBits
    omega
  · unfold continuationBits
    omega

theorem utf8EncodeChar_one {letter : Char} {lead : UInt8} (code : letter.toNat = lead.toNat)
    (small : lead.toNat < 0x80) : String.utf8EncodeChar letter = [lead] := by
  have value : letter.val.toNat = letter.toNat := rfl
  simp only [String.utf8EncodeChar, value, code]
  rw [if_pos (by omega), UInt8.ofNat_toNat]

theorem utf8EncodeChar_two {letter : Char} {lead second : UInt8} {top low : Nat}
    (code : letter.toNat = top * 64 + low) (first : lead.toNat = 0xC0 + top)
    (next : second.toNat = 0x80 + low) (bound : 2 ≤ top ∧ top < 32) (lowBound : low < 64) :
    String.utf8EncodeChar letter = [lead, second] := by
  have value : letter.val.toNat = letter.toNat := rfl
  simp only [String.utf8EncodeChar, value, code]
  rw [if_neg (by omega), if_pos (by omega), eq_ofNat_toNat lead (by omega),
    eq_ofNat_toNat second (by omega)]

theorem utf8EncodeChar_three {letter : Char} {lead second third : UInt8} {top middle low : Nat}
    (code : letter.toNat = top * 4096 + middle * 64 + low) (first : lead.toNat = 0xE0 + top)
    (next : second.toNat = 0x80 + middle) (last : third.toNat = 0x80 + low) (bound : top < 16)
    (middleBound : middle < 64) (lowBound : low < 64)
    (range : 0x800 ≤ top * 4096 + middle * 64 + low) :
    String.utf8EncodeChar letter = [lead, second, third] := by
  have value : letter.val.toNat = letter.toNat := rfl
  simp only [String.utf8EncodeChar, value, code]
  rw [if_neg (by omega), if_neg (by omega), if_pos (by omega),
    eq_ofNat_toNat lead (by omega), eq_ofNat_toNat second (by omega),
    eq_ofNat_toNat third (by omega)]

theorem utf8EncodeChar_four {letter : Char} {lead second third fourth : UInt8}
    {top upper middle low : Nat}
    (code : letter.toNat = top * 262144 + upper * 4096 + middle * 64 + low)
    (first : lead.toNat = 0xF0 + top) (next : second.toNat = 0x80 + upper)
    (after : third.toNat = 0x80 + middle) (last : fourth.toNat = 0x80 + low) (bound : top < 5)
    (upperBound : upper < 64) (middleBound : middle < 64) (lowBound : low < 64)
    (range : 0x10000 ≤ top * 262144 + upper * 4096 + middle * 64 + low) :
    String.utf8EncodeChar letter = [lead, second, third, fourth] := by
  have value : letter.val.toNat = letter.toNat := rfl
  simp only [String.utf8EncodeChar, value, code]
  rw [if_neg (by omega), if_neg (by omega), if_neg (by omega),
    eq_ofNat_toNat lead (by omega), eq_ofNat_toNat second (by omega),
    eq_ofNat_toNat third (by omega), eq_ofNat_toNat fourth (by omega)]

/-- Some bytes at the front are the bytes of a character, as many as given. -/
def BeginsWith (bytes : List UInt8) (letter : Char) (width : Nat) : Prop :=
  ∃ rest, bytes = String.utf8EncodeChar letter ++ rest ∧
    (String.utf8EncodeChar letter).length = width

theorem beginsWith_of_eq {own : List UInt8} {letter : Char}
    (same : String.utf8EncodeChar letter = own) (rest : List UInt8) :
    BeginsWith (own ++ rest) letter own.length :=
  ⟨rest, by rw [same], by rw [same]⟩

theorem isSurrogate_eq_false_iff {code : Nat} :
    isSurrogate code = false ↔ code < 0xD800 ∨ 0xDFFF < code := by
  simp only [isSurrogate, Bool.and_eq_false_iff, decide_eq_false_iff_not]
  omega

/-- A character of four bytes. -/
theorem beginsWith_of_four {lead second third : UInt8} {rest : List UInt8} {letter : Char}
    {width : Nat} (leading : leadingChar? (lead :: second :: third :: rest) = some (letter, width))
    (notSingle : ¬ lead.toNat < 0x80) (noPair : ¬ (0xC2 ≤ lead.toNat ∧ lead.toNat ≤ 0xDF))
    (noTriple : ¬ (0xE0 ≤ lead.toNat ∧ lead.toNat ≤ 0xEF))
    (continues : isContinuation second = true) (goesOn : isContinuation third = true) :
    BeginsWith (lead :: second :: third :: rest) letter width := by
  obtain ⟨upper, next, upperBound, upperBits⟩ := bounds_of_isContinuation continues
  obtain ⟨middle, after, middleBound, middleBits⟩ := bounds_of_isContinuation goesOn
  cases rest with
  | nil =>
      simp [leadingChar?, notSingle, continues, noPair, goesOn, noTriple] at leading
  | cons fourth rest =>
      cases ends : isContinuation fourth with
      | false =>
          simp [leadingChar?, notSingle, continues, noPair, goesOn, noTriple, ends] at leading
      | true =>
          obtain ⟨low, last, lowBound, lowBits⟩ := bounds_of_isContinuation ends
          by_cases four : 0xF0 ≤ lead.toNat ∧ lead.toNat ≤ 0xF4
          · obtain ⟨top, first⟩ := Nat.exists_eq_add_of_le four.1
            simp only [leadingChar?, continues, goesOn, ends, upperBits, middleBits, lowBits,
              first, Bool.not_true, Bool.and_eq_true, Bool.or_eq_true, decide_eq_true_eq,
              Bool.false_eq_true, if_false, Nat.add_sub_cancel_left] at leading
            rw [if_neg (by omega), if_neg (by omega), if_neg (by omega),
              if_pos (by omega)] at leading
            split at leading
            next =>
              cases leading
            next valid =>
              obtain ⟨rfl, rfl⟩ := Prod.mk.inj (Option.some.inj leading)
              have code : (Char.ofNat (top * 262144 + upper * 4096 + middle * 64 + low)).toNat =
                  top * 262144 + upper * 4096 + middle * 64 + low :=
                toNat_ofNat_of_whole (by omega) (isSurrogate_eq_false_iff.mpr (by omega))
              exact beginsWith_of_eq (utf8EncodeChar_four code first next after last (by omega)
                upperBound middleBound lowBound (by omega)) rest
          · simp [leadingChar?, notSingle, continues, noPair, goesOn, noTriple, ends,
              four] at leading

/-- A character of three bytes or four. -/
theorem beginsWith_of_longer {lead second third : UInt8} {rest : List UInt8} {letter : Char}
    {width : Nat} (leading : leadingChar? (lead :: second :: third :: rest) = some (letter, width))
    (large : 0x80 ≤ lead.toNat) (noPair : ¬ (0xC2 ≤ lead.toNat ∧ lead.toNat ≤ 0xDF))
    (continues : isContinuation second = true) :
    BeginsWith (lead :: second :: third :: rest) letter width := by
  have notSingle : ¬ lead.toNat < 0x80 := by omega
  cases goesOn : isContinuation third with
  | false =>
      simp [leadingChar?, notSingle, continues, noPair, goesOn] at leading
  | true =>
      by_cases triple : 0xE0 ≤ lead.toNat ∧ lead.toNat ≤ 0xEF
      · obtain ⟨upper, next, upperBound, upperBits⟩ := bounds_of_isContinuation continues
        obtain ⟨middle, after, middleBound, middleBits⟩ := bounds_of_isContinuation goesOn
        obtain ⟨top, first⟩ := Nat.exists_eq_add_of_le triple.1
        simp only [leadingChar?, continues, goesOn, upperBits, middleBits, first, Bool.not_true,
          Bool.and_eq_true, Bool.or_eq_true, decide_eq_true_eq, Bool.false_eq_true,
          if_false, Nat.add_sub_cancel_left] at leading
        rw [if_neg (by omega), if_neg (by omega), if_pos (by omega)] at leading
        split at leading
        next =>
          cases leading
        next valid =>
          obtain ⟨rfl, rfl⟩ := Prod.mk.inj (Option.some.inj leading)
          have code : (Char.ofNat (top * 4096 + upper * 64 + middle)).toNat =
              top * 4096 + upper * 64 + middle :=
            toNat_ofNat_of_whole (by omega) (isSurrogate_eq_false_iff.mpr (by omega))
          exact beginsWith_of_eq (utf8EncodeChar_three code first next after (by omega) upperBound
            middleBound (by omega)) rest
      · exact beginsWith_of_four leading notSingle noPair triple continues goesOn

/-- A character after a first byte that does not stand alone. -/
theorem beginsWith_of_large {lead : UInt8} {rest : List UInt8} {letter : Char} {width : Nat}
    (leading : leadingChar? (lead :: rest) = some (letter, width)) (large : 0x80 ≤ lead.toNat) :
    BeginsWith (lead :: rest) letter width := by
  have notSingle : ¬ lead.toNat < 0x80 := by omega
  cases rest with
  | nil =>
      simp [leadingChar?, notSingle] at leading
  | cons second rest =>
      cases continues : isContinuation second with
      | false =>
          simp [leadingChar?, notSingle, continues] at leading
      | true =>
          obtain ⟨bits, next, bound, same⟩ := bounds_of_isContinuation continues
          by_cases pair : 0xC2 ≤ lead.toNat ∧ lead.toNat ≤ 0xDF
          · obtain ⟨top, first⟩ := Nat.exists_eq_add_of_le (show 0xC0 ≤ lead.toNat by omega)
            rw [leadingChar?_two first next (by omega) bound] at leading
            obtain ⟨rfl, rfl⟩ := Prod.mk.inj (Option.some.inj leading)
            have code : (Char.ofNat (top * 64 + bits)).toNat = top * 64 + bits :=
              toNat_ofNat_of_whole (by omega) (isSurrogate_eq_false_iff.mpr (by omega))
            exact beginsWith_of_eq (utf8EncodeChar_two code first next (by omega) bound) rest
          · cases rest with
            | nil =>
                simp [leadingChar?, notSingle, continues, pair] at leading
            | cons third rest =>
                exact beginsWith_of_longer leading large pair continues

/-- A character is read only off the front of its own bytes. -/
theorem beginsWith_of_leadingChar? {bytes : List UInt8} {letter : Char} {width : Nat}
    (leading : leadingChar? bytes = some (letter, width)) : BeginsWith bytes letter width := by
  cases bytes with
  | nil =>
      cases leading
  | cons lead rest =>
      by_cases small : lead.toNat < 0x80
      · rw [leadingChar?_one rfl small] at leading
        obtain ⟨rfl, rfl⟩ := Prod.mk.inj (Option.some.inj leading)
        have code : (Char.ofNat lead.toNat).toNat = lead.toNat :=
          toNat_ofNat_of_whole (by omega) (isSurrogate_eq_false_iff.mpr (by omega))
        exact beginsWith_of_eq (utf8EncodeChar_one code small) rest
      · exact beginsWith_of_large leading (by omega)

/-! ## Whole texts -/

/-- Bytes that give characters only are the bytes of these characters. -/
theorem eq_flatMap_of_readings {bytes : List UInt8} {letters : List Char}
    (read : readings bytes = letters.map some) :
    bytes = letters.flatMap String.utf8EncodeChar := by
  induction letters generalizing bytes with
  | nil =>
      cases bytes with
      | nil =>
          rfl
      | cons lead rest =>
          rw [readings, readingsFrom] at read
          split at read
          · cases read
          · cases read
  | cons letter others inductionHypothesis =>
      cases bytes with
      | nil =>
          cases read
      | cons lead rest =>
          rw [readings, readingsFrom] at read
          split at read
          next found width leading =>
            obtain ⟨behind, split, length⟩ := beginsWith_of_leadingChar? leading
            rw [List.map_cons] at read
            injection read with same later
            cases same
            have whole := readings_utf8EncodeChar_append letter behind
            rw [← split, readings, readingsFrom] at whole
            simp only [leading] at whole
            injection whole with _ remaining
            rw [split, List.flatMap_cons, ← inductionHypothesis (remaining.symm.trans later)]
          next =>
            rw [List.map_cons] at read
            injection read with same _
            cases same

theorem readings_eq_of_decode? {bytes : List UInt8} {text : String}
    (decoded : decode? bytes = some text) :
    ∃ letters, text = ofLetters letters ∧ readings bytes = letters.map some := by
  rw [decode?, Option.map_eq_some_iff] at decoded
  obtain ⟨letters, whole, rfl⟩ := decoded
  refine ⟨letters, rfl, ?_⟩
  generalize readings bytes = read at whole
  induction read generalizing letters with
  | nil =>
      cases whole
      rfl
  | cons first others inductionHypothesis =>
      rw [List.mapM_cons] at whole
      cases first with
      | none =>
          cases whole
      | some letter =>
          cases remaining : others.mapM id with
          | none =>
              simp [remaining] at whole
          | some later =>
              simp only [id, remaining, Option.bind_eq_bind, Option.bind_some, Option.pure_def,
                Option.some.injEq] at whole
              rw [← whole, inductionHypothesis later remaining, List.map_cons]

/-- Bytes that can be decoded are those of the decoded text. -/
theorem eq_flatMap_of_decode? {bytes : List UInt8} {text : String}
    (decoded : decode? bytes = some text) :
    ∃ letters, text = ofLetters letters ∧ bytes = letters.flatMap String.utf8EncodeChar := by
  obtain ⟨letters, isText, read⟩ := readings_eq_of_decode? decoded
  exact ⟨letters, isText, eq_flatMap_of_readings read⟩

theorem decodeDropping_flatMap_utf8EncodeChar (letters : List Char) :
    decodeDropping (letters.flatMap String.utf8EncodeChar) = ofLetters letters := by
  rw [decodeDropping, readings_flatMap_utf8EncodeChar, List.filterMap_map]
  exact congrArg ofLetters List.filterMap_some

theorem ofLetters_injective : Function.Injective ofLetters := by
  intro first second same
  have codes := congrArg codePoints same
  rw [codePoints_ofLetters, codePoints_ofLetters] at codes
  exact (List.map_inj_right fun _ _ => Char.toNat_inj.mp).mp codes

theorem ofLetters_ne_empty {letters : List Char} (nonempty : letters ≠ []) :
    ofLetters letters ≠ "" :=
  fun empty => nonempty (ofLetters_injective empty)

/-! ## Texts as they are kept -/

/-- A text whose surrogates and marks are kept in two characters each, as those of any code points
are. -/
def IsKept (text : String) : Prop :=
  ∃ codes : List Nat, (∀ code ∈ codes, code < 0x110000) ∧ text = ofCodePoints codes

theorem kept_of_whole {code : Nat} (whole : isSurrogate code = false) :
    kept code = keptLetter (Char.ofNat code) := by
  simp [kept, whole]

/-- The bytes of a text that is kept are those of its letters. -/
theorem IsKept.letters_of_encode? {text : String} (isKept : IsKept text) {bytes : List UInt8}
    (encoded : encode? text = some bytes) :
    ∃ letters, text = ofLetters letters ∧ bytes = letters.flatMap String.utf8EncodeChar := by
  obtain ⟨codes, small, rfl⟩ := isKept
  rw [encode?, Option.map_eq_some_iff] at encoded
  obtain ⟨letters, isWhole, rfl⟩ := encoded
  refine ⟨letters, ?_, rfl⟩
  rw [letters?, holdsSurrogate, codePoints_ofCodePoints small] at isWhole
  split at isWhole
  next =>
    cases isWhole
  next whole =>
    cases isWhole
    have letterwise : ∀ code ∈ codes, kept code = keptLetter (Char.ofNat code) := by
      intro code member
      apply kept_of_whole
      rw [Bool.eq_false_iff]
      intro half
      exact whole (List.any_eq_true.mpr ⟨code, member, half⟩)
    rw [ofCodePoints, ofLetters, List.flatMap_map, List.flatMap_def, List.flatMap_def,
      List.map_congr_left letterwise]

/-! ## Line breaks -/

theorem carriageReturn_notMem_unifyBreaksWord (word : List Char) :
    '\r' ∉ unifyBreaksWord word := by
  fun_induction unifyBreaksWord word with
  | case1 =>
      exact List.not_mem_nil
  | case2 rest inductionHypothesis =>
      simp [inductionHypothesis]
  | case3 letter rest _ inductionHypothesis =>
      by_cases isReturn : letter = '\r'
      · simp [isReturn, inductionHypothesis]
      · simp [isReturn, inductionHypothesis, Ne.symm isReturn]

/-- Only a carriage return is written as anything else. -/
theorem unifyBreaksWord_eq_self_iff (word : List Char) :
    unifyBreaksWord word = word ↔ '\r' ∉ word := by
  constructor
  · intro same
    rw [← same]
    exact carriageReturn_notMem_unifyBreaksWord word
  · exact unifyBreaksWord_of_noReturn

theorem unifyBreaksWord_ne_nil {word : List Char} (nonempty : word ≠ []) :
    unifyBreaksWord word ≠ [] := by
  fun_cases unifyBreaksWord word with
  | case1 =>
      exact absurd rfl nonempty
  | case2 rest =>
      simp
  | case3 letter rest =>
      simp

theorem unifyBreaksWord_cons {letter : Char} {rest : List Char}
    (apart : letter = '\r' → rest.head? ≠ some '\n') :
    unifyBreaksWord (letter :: rest) =
      (if letter = '\r' then '\n' else letter) :: unifyBreaksWord rest := by
  rw [unifyBreaksWord]
  intro others isReturn isPair
  exact apart isReturn (by rw [isPair]; rfl)

theorem head?_flatMap_keptLetter (letters : List Char) :
    (letters.flatMap keptLetter).head? = letters.head? := by
  cases letters with
  | nil =>
      rfl
  | cons letter rest =>
      rw [List.flatMap_cons, keptLetter]
      split
      next same =>
        rw [same]
        rfl
      next =>
        rfl

/-- Line breaks are written in one way whether or not a text keeps its marks twice. -/
theorem unifyBreaks_ofLetters (letters : List Char) :
    unifyBreaks (ofLetters letters) = ofLetters (unifyBreaksWord letters) := by
  rw [unifyBreaks, ofLetters, ofLetters, String.toList_ofList]
  congr 1
  fun_induction unifyBreaksWord letters with
  | case1 =>
      rfl
  | case2 rest inductionHypothesis =>
      have returnKept : keptLetter '\r' = ['\r'] := by decide
      have feedKept : keptLetter '\n' = ['\n'] := by decide
      simp only [List.flatMap_cons, returnKept, feedKept, List.singleton_append, unifyBreaksWord,
        inductionHypothesis]
  | case3 letter rest noPair inductionHypothesis =>
      rw [List.flatMap_cons, List.flatMap_cons, ← inductionHypothesis]
      by_cases isMark : letter = mark
      · subst isMark
        have marksKept : keptLetter mark = [mark, mark] := by decide
        have noReturn : mark ≠ '\r' := by decide
        rw [if_neg noReturn, marksKept, List.cons_append, List.singleton_append,
          unifyBreaksWord_cons (fun isReturn => absurd isReturn noReturn),
          unifyBreaksWord_cons (fun isReturn => absurd isReturn noReturn), if_neg noReturn]
        rfl
      · have alone : letter = '\r' → (rest.flatMap keptLetter).head? ≠ some '\n' := by
          intro isReturn isFeed
          rw [head?_flatMap_keptLetter] at isFeed
          obtain ⟨others, rfl⟩ := List.head?_eq_some_iff.mp isFeed
          exact noPair others isReturn rfl
        have isKept : keptLetter letter = [letter] := if_neg isMark
        rw [isKept, List.singleton_append, unifyBreaksWord_cons alone]
        by_cases isReturn : letter = '\r'
        · rw [if_pos isReturn]
          rfl
        · rw [if_neg isReturn, isKept]
          rfl

theorem carriageReturn_mem_ofLetters_iff (letters : List Char) :
    '\r' ∈ (ofLetters letters).toList ↔ '\r' ∈ letters := by
  have isReturn : ∀ letter, '\r' ∈ keptLetter letter ↔ '\r' = letter := by
    intro letter
    unfold keptLetter
    split
    next same =>
      simp [same, mark]
    next =>
      exact List.mem_singleton
  rw [ofLetters, String.toList_ofList, List.mem_flatMap]
  simp only [isReturn, exists_eq_right']

end ErrorDerive.Text
