/-!
# Text/Utf8 — strings as bytes

Paths and names are measured, compared and cut in bytes.  `bytes` and `decode` move between a
string and its UTF-8 form (`decode_bytes`); `dropBytes` cuts bytes off the front, and
`boundaryAtMost` finds the last place not beyond a limit where a text can be cut without splitting
a character.
-/

namespace PosixVfs

/-- A string of bytes. -/
abbrev Bytes := List UInt8

namespace Text

/-- The UTF-8 bytes of `s`. -/
def bytes (s : String) : Bytes := s.toByteArray.data.toList

/-- The text that `b` encodes, if it is valid UTF-8. -/
def decode (b : Bytes) : Option String := String.fromUTF8? ⟨b.toArray⟩

theorem decode_bytes (s : String) : decode (bytes s) = some s := by
  have h : (⟨s.toByteArray.data⟩ : ByteArray).IsValidUTF8 := s.isValidUTF8
  simp [decode, bytes, String.fromUTF8?, h]
  rfl

/-- The length of `s` in bytes. -/
def size (s : String) : Nat := (bytes s).length

/-- The bytes of `s` begin with those of `front`. -/
def startsWith (s front : String) : Bool := (bytes front).isPrefixOf (bytes s)

/-- The bytes of `s` end with those of `back`. -/
def endsWith (s back : String) : Bool := (bytes back).isSuffixOf (bytes s)

/-- `s` without its first `n` bytes; the empty text if that would split a character. -/
def dropBytes (s : String) (n : Nat) : String := (decode ((bytes s).drop n)).getD ""

/-- What follows `front` in `s`, if `s` begins with it. -/
def after? (s front : String) : Option String :=
  if startsWith s front then some (dropBytes s (size front)) else none

/-- A byte that goes on with a character begun before it. -/
def isContinuation (b : UInt8) : Bool := b &&& 0xC0 == 0x80

/-- Between byte `n - 1` and byte `n` no character is split. -/
def isBoundary (b : Bytes) (n : Nat) : Bool :=
  n == 0 || n == b.length || (b[n]?).any (!isContinuation ·)

/-- The last boundary that is not beyond `n`, found by walking back from `n`. -/
def boundaryAtMost (b : Bytes) : Nat → Nat
  | 0 => 0
  | n + 1 => if isBoundary b (n + 1) then n + 1 else boundaryAtMost b n

theorem boundaryAtMost_le (b : Bytes) (n : Nat) : boundaryAtMost b n ≤ n := by
  induction n with
  | zero => exact Nat.le_refl 0
  | succ n ih =>
      unfold boundaryAtMost
      split
      · exact Nat.le_refl _
      · exact Nat.le_succ_of_le ih

end Text

end PosixVfs
