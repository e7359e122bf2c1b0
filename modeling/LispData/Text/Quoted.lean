import LispData.Text.Delimited
import LispData.Text.Unshowable
/-!
# Quoted texts — a text shown so that nothing in it can be mistaken

Diagnostics show a text between double quotes. NUL, tab, newline, carriage
return, the double quote and the backslash have a short escape each; any other
character that has no safe appearance is given by its code point in
hexadecimal, between braces; the rest are shown as they are.
-/

namespace LispData

namespace Quoted

/-- The code point of `c` in lower-case hexadecimal, as an escape. -/
def codePoint (c : Char) : List Char :=
  '\\' :: 'u' :: '\x7b' :: (Nat.toDigits 16 c.toNat ++ ['\x7d'])

/-- The characters that stand for `c` in a quoted text. -/
def code (c : Char) : List Char :=
  match c with
  | '\x00' => ['\\', '0']
  | '\t' => ['\\', 't']
  | '\n' => ['\\', 'n']
  | '\r' => ['\\', 'r']
  | '"' => ['\\', '"']
  | '\\' => ['\\', '\\']
  | c => if unshowable.contains c then codePoint c else [c]

/-- A character that is shown as it is is neither the quote nor the escape
character. -/
theorem ne_of_showable {c : Char} (h : unshowable.contains c = false) : c ≠ '"' ∧ c ≠ '\\' := by
  constructor <;> rintro rfl <;> revert h <;> decide +kernel

end Quoted

/-- The text `s` as diagnostics show it. -/
def quoted (s : String) : String :=
  delimited Quoted.code s

end LispData
