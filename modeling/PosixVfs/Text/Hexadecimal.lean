/-!
# Text/Hexadecimal — numbers in base sixteen

Flag words and code points are written in lower-case hexadecimal without leading zeros.
-/

namespace PosixVfs.Text

/-- The lower-case hexadecimal digits of `n`, without leading zeros. -/
def hexDigits (n : Nat) : String := String.ofList (Nat.toDigits 16 n)

/-- `n` in hexadecimal behind the mark `0x`. -/
def hex (n : Nat) : String := "0x" ++ hexDigits n

end PosixVfs.Text
