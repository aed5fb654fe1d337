import PosixVfs.Text.ExtendingMark
import PosixVfs.Text.Hexadecimal
import PosixVfs.Text.Unprintable

/-!
# Text/Quoted — a text between quotes, fit for one line

Quotes and backslashes are marked by a backslash, the common controls have a letter, and every
other character that cannot be seen by itself is written by its code point, as in `\u{301}`.
-/

namespace PosixVfs.Text

/-- The code point of `c` in braces. -/
def codePoint (c : Char) : String := "\\u\x7b" ++ hexDigits c.toNat ++ "\x7d"

/-- How `c` is written between quotes. -/
def escape (c : Char) : String :=
  match c with
  | '\x00' => "\\0"
  | '\t' => "\\t"
  | '\r' => "\\r"
  | '\n' => "\\n"
  | '"' => "\\\""
  | '\\' => "\\\\"
  | c => if isExtendingMark c || isUnprintable c then codePoint c else c.toString

/-- `s` between quotes. -/
def quote (s : String) : String := "\"" ++ String.join (s.toList.map escape) ++ "\""

end PosixVfs.Text
