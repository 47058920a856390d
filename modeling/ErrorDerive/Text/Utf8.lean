import ErrorDerive.Text.Surrogate

/-!
# UTF-8

Texts as bytes. A surrogate has no bytes, so a text that holds one cannot be encoded. Reading comes
in two ways.

* `decode?` refuses bytes that are not UTF-8;
* `decodeDropping` leaves out every byte that is not part of a well-formed character.
-/

namespace ErrorDerive.Text

/-- The bytes of a text, if it holds no surrogate. -/
def encode? (text : String) : Option (List UInt8) :=
  (letters? text).map fun letters => letters.flatMap String.utf8EncodeChar

/-- The number of bytes that a text takes up. -/
def byteCount (text : String) : Nat :=
  ((codePoints text).map fun code => (Char.ofNat code).utf8Size).foldl (· + ·) 0

/-- Whether a byte continues a character begun earlier. -/
def isContinuation (byte : UInt8) : Bool :=
  0x80 ≤ byte.toNat && byte.toNat ≤ 0xBF

/-- The six bits that a continuation byte carries. -/
def continuationBits (byte : UInt8) : Nat :=
  byte.toNat - 0x80

/-- The well-formed character that a byte sequence begins with, and the number of its bytes.
No character has two forms, so overlong sequences and surrogates are refused. -/
def leadingChar? : List UInt8 → Option (Char × Nat)
  | [] => none
  | lead :: rest =>
    let first := lead.toNat
    if first < 0x80 then some (Char.ofNat first, 1)
    else match rest with
      | [] => none
      | second :: rest =>
        if !isContinuation second then none
        else if 0xC2 ≤ first && first ≤ 0xDF then
          some (Char.ofNat ((first - 0xC0) * 64 + continuationBits second), 2)
        else match rest with
          | [] => none
          | third :: rest =>
            if !isContinuation third then none
            else if 0xE0 ≤ first && first ≤ 0xEF then
              let code := (first - 0xE0) * 4096 + continuationBits second * 64 +
                continuationBits third
              if code < 0x800 || (0xD800 ≤ code && code ≤ 0xDFFF) then none
              else some (Char.ofNat code, 3)
            else match rest with
              | [] => none
              | fourth :: _ =>
                if !isContinuation fourth then none
                else if 0xF0 ≤ first && first ≤ 0xF4 then
                  let code := (first - 0xF0) * 262144 + continuationBits second * 4096 +
                    continuationBits third * 64 + continuationBits fourth
                  if code < 0x10000 || 0x10FFFF < code then none
                  else some (Char.ofNat code, 4)
                else none

/-- Reads bytes after skipping the given number of them; ill-formed bytes yield `none`. -/
def readingsFrom : Nat → List UInt8 → List (Option Char)
  | _, [] => []
  | skipped + 1, _ :: rest => readingsFrom skipped rest
  | 0, lead :: rest =>
    match leadingChar? (lead :: rest) with
    | some (letter, width) => some letter :: readingsFrom (width - 1) rest
    | none => none :: readingsFrom 0 rest

/-- The characters of a byte sequence, with `none` in the place of each ill-formed byte. -/
def readings (bytes : List UInt8) : List (Option Char) :=
  readingsFrom 0 bytes

/-- The text that the bytes encode, if they are well-formed UTF-8. -/
def decode? (bytes : List UInt8) : Option String :=
  ((readings bytes).mapM id).map ofLetters

/-- The text of the well-formed characters among the bytes. -/
def decodeDropping (bytes : List UInt8) : String :=
  ofLetters ((readings bytes).filterMap id)

end ErrorDerive.Text
