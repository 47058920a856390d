import ErrorDerive.Text.Surrogate
import ErrorDerive.Value.SetOrder
import ErrorDerive.Yaml.Document

/-!
# Processes

What a process brings along that neither the files nor the arguments decide: the order in which the
items of a set come out, how far it may descend, and what its output can show.
-/

namespace ErrorDerive

/-- The first character of the line about a file that was written. -/
def checkMark : Char := '✅'

/-- The code points that an output can show. A text with any other one is refused. -/
structure OutputEncoding where
  has : Nat → Bool
  hasAscii : ∀ code, code < 0x80 → has code = true
  /-- Only the encodings of all characters have the check mark. -/
  isWhole : has checkMark.toNat = true → ∀ code, Text.isSurrogate code = false → has code = true

namespace OutputEncoding

theorem unicode_hasAscii (code : Nat) (small : code < 0x80) : (!Text.isSurrogate code) = true := by
  simp only [Text.isSurrogate, Bool.not_eq_true', Bool.and_eq_false_iff, decide_eq_false_iff_not]
  omega

theorem unicode_isWhole (_ : (!Text.isSurrogate checkMark.toNat) = true) (code : Nat)
    (whole : Text.isSurrogate code = false) : (!Text.isSurrogate code) = true := by
  rw [whole]
  rfl

/-- The encoding of all characters, which has no surrogates. -/
def unicode : OutputEncoding where
  has code := !Text.isSurrogate code
  hasAscii := unicode_hasAscii
  isWhole := unicode_isWhole

end OutputEncoding

instance : Inhabited OutputEncoding := ⟨.unicode⟩

/-- What a process brings along. -/
structure Process where
  order : SetOrder := .asAdded
  descent : Yaml.Descent := {}
  encoding : OutputEncoding := .unicode
  deriving Inhabited

end ErrorDerive
