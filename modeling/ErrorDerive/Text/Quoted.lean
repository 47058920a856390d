import ErrorDerive.Text.PrintableTable
import ErrorDerive.Text.Surrogate

/-!
# Quoted texts

The form in which texts and byte strings are shown inside messages: between quotes, on one line,
with every code point that cannot be shown as itself written as an escape.

The apostrophe is the quote unless the text holds an apostrophe and no double quote.

* `quoted` and `quotedBytes` are texts and byte strings between quotes;
* `spelled` is a text without quotes in which only surrogates are escapes.
-/

namespace ErrorDerive.Text

def isPrintable (code : Nat) : Bool :=
  printableLow.holds code || printableBasic.holds code || printableHigh.holds code

/-- One hexadecimal digit, in lower case. -/
def hexDigit (number : Nat) : Char :=
  if number < 10 then Char.ofNat (48 + number) else Char.ofNat (87 + number)

/-- The lowest `width` hexadecimal digits of a number. -/
def hexDigits : Nat → Nat → List Char
  | 0, _ => []
  | width + 1, number => hexDigits width (number / 16) ++ [hexDigit (number % 16)]

/-- The quote in which a word is written. -/
def quoteFor (word : List Char) : Char :=
  if word.contains '\'' && !word.contains '"' then '"' else '\''

/-- How one code point stands between quotes. -/
def quotedCode (quote : Char) (code : Nat) : List Char :=
  let letter := Char.ofNat code
  if letter = quote || letter = '\\' then ['\\', letter]
  else if letter = '\t' then ['\\', 't']
  else if letter = '\n' then ['\\', 'n']
  else if letter = '\r' then ['\\', 'r']
  else if isPrintable code then [letter]
  else if code ≤ 0xFF then '\\' :: 'x' :: hexDigits 2 code
  else if code ≤ 0xFFFF then '\\' :: 'u' :: hexDigits 4 code
  else '\\' :: 'U' :: hexDigits 8 code

/-- A text between quotes. -/
def quoted (text : String) : String :=
  let quote := quoteFor text.toList
  String.ofList (quote :: ((codePoints text).flatMap (quotedCode quote) ++ [quote]))

/-- How one byte stands between quotes: as an ASCII character where it is a printable one. -/
def quotedByte (quote : Char) (byte : UInt8) : List Char :=
  if byte.toNat < 0x7F then quotedCode quote byte.toNat
  else '\\' :: 'x' :: hexDigits 2 byte.toNat

/-- A byte string between quotes, marked by a leading `b`. -/
def quotedBytes (bytes : List UInt8) : String :=
  let quote := quoteFor (bytes.map fun byte => Char.ofNat byte.toNat)
  String.ofList ('b' :: quote :: (bytes.flatMap (quotedByte quote) ++ [quote]))

/-- How one code point stands in a text that is spelled out. -/
def spelledCode (code : Nat) : List Char :=
  if isSurrogate code then '\\' :: 'u' :: hexDigits 4 code else kept code

/-- A text with every surrogate spelled as an escape. -/
def spelled (text : String) : String :=
  String.ofList ((codePoints text).flatMap spelledCode)

end ErrorDerive.Text
