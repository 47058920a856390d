/-!
# Base 64

Bytes written as letters, six bits each. Characters outside the alphabet are skipped, and reading
stops where padding completes a group of four.
-/

namespace ErrorDerive.Yaml.Base64

/-- The six bits that a letter stands for. -/
def sixBits? (letter : Char) : Option Nat :=
  let code := letter.toNat
  if 65 ≤ code && code ≤ 90 then some (code - 65)
  else if 97 ≤ code && code ≤ 122 then some (code - 71)
  else if 48 ≤ code && code ≤ 57 then some (code + 4)
  else if letter = '+' then some 62
  else if letter = '/' then some 63
  else none

/-- A reader inside a group of four letters: how many have been read, how much padding has been
seen since, and the bits that do not fill a byte yet. -/
structure Group where
  letters : Nat := 0
  padding : Nat := 0
  bits : Nat := 0

/-- Reads one letter that stands for six bits: the bytes it completes, and the group after it. -/
def Group.read (group : Group) (six : Nat) : List UInt8 × Group :=
  match group.letters with
  | 0 => ([], { letters := 1, bits := six })
  | 1 => ([UInt8.ofNat (group.bits * 4 + six / 16)], { letters := 2, bits := six % 16 })
  | 2 => ([UInt8.ofNat (group.bits * 16 + six / 4)], { letters := 3, bits := six % 4 })
  | _ => ([UInt8.ofNat (group.bits * 64 + six)], {})

/-- Reads the rest of the letters; they must end with a complete group. -/
def decodeFrom (group : Group) : List Char → Option (List UInt8)
  | [] => if group.letters = 0 then some [] else none
  | letter :: rest =>
    if letter = '=' then
      if 2 ≤ group.letters then
        if 4 ≤ group.letters + group.padding + 1 then some []
        else decodeFrom { group with padding := group.padding + 1 } rest
      else decodeFrom group rest
    else match sixBits? letter with
      | none => decodeFrom group rest
      | some six =>
        let (bytes, after) := group.read six
        (decodeFrom after rest).map (bytes ++ ·)

/-- The bytes that letters stand for. -/
def decode? (letters : List Char) : Option (List UInt8) :=
  decodeFrom {} letters

end ErrorDerive.Yaml.Base64
