import PosixVfs.Text.Utf8

/-!
# Text/Fixed — text buffers of fixed size

A `FixedText n` is a buffer of `n` bytes whose front holds a text.  Writing a text overwrites the
front only: what stood behind it stays, and two buffers are equal when all their bytes are.  A text
that does not fit is cut at the last character boundary that does.
-/

namespace PosixVfs

/-- A buffer of `n` bytes of which the first `length` are a text. -/
structure FixedText (n : Nat) where
  bytes : Bytes
  length : Nat
  length_bytes : bytes.length = n
  length_le : length ≤ n
  deriving DecidableEq

namespace FixedText

variable {n : Nat}

/-- The zeroed buffer, which holds the empty text. -/
def empty : FixedText n := ⟨List.replicate n 0, 0, by simp, Nat.zero_le n⟩

instance : Inhabited (FixedText n) := ⟨empty⟩

/-- The text at the front of the buffer. -/
def text (t : FixedText n) : String := (Text.decode (t.bytes.take t.length)).getD ""

/-- How many bytes of `s` a buffer of `n` bytes takes: as many whole characters as fit. -/
def fitting (n : Nat) (s : String) : Nat :=
  Text.boundaryAtMost (Text.bytes s) (min (Text.size s) n)

theorem fitting_le (n : Nat) (s : String) : fitting n s ≤ min (Text.size s) n :=
  Text.boundaryAtMost_le _ _

/-- Write `s` over the front of the buffer. -/
def write (t : FixedText n) (s : String) : FixedText n where
  bytes := (Text.bytes s).take (fitting n s) ++ t.bytes.drop (fitting n s)
  length := fitting n s
  length_bytes := by
    have h := fitting_le n s
    simp only [Text.size, Nat.le_min] at h
    simp [t.length_bytes]
    omega
  length_le := Nat.le_trans (fitting_le n s) (Nat.min_le_right _ _)

/-- A zeroed buffer with `s` written to it. -/
def ofString (s : String) : FixedText n := empty.write s

end FixedText

end PosixVfs
