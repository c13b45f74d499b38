import Rowgate.Text.Hidden
/-
Texts in double quotes, as error messages show them.

A quote and a backslash are written behind a backslash, the tab, line feed, carriage return and the
null character by their letter, and a hidden character by its number in braces. So the closing quote
of a quoted text is the only bare one.
-/
set_option autoImplicit false

namespace Rowgate.Text

/-- The lower case hexadecimal digits of a number. -/
def hexDigits (n : Nat) : List Char := Nat.toDigits 16 n

/-- The written form of one character inside quotes. -/
def quoteChar (c : Char) : List Char :=
  match c with
  | '"' => ['\\', '"']
  | '\\' => ['\\', '\\']
  | '\t' => ['\\', 't']
  | '\n' => ['\\', 'n']
  | '\r' => ['\\', 'r']
  | '\x00' => ['\\', '0']
  | c => if isHidden c then ['\\', 'u', '\x7b'] ++ hexDigits c.toNat ++ ['\x7d'] else [c]

/-- The text in double quotes. -/
def quoted (s : String) : String :=
  "\"" ++ String.ofList (s.toList.flatMap quoteChar) ++ "\""

end Rowgate.Text
