/-
QUOTED TEXT: a text between double quotes, every character that could mislead a reader written by name or number.

A quote and a backslash are preceded by a backslash, NUL, tab, carriage return and line feed have one-letter names, and
what is not printable or would attach to the character before it is written as its code point in braces.
-/
import Trialbook.Text.Printable

namespace Trialbook.Text

/-- code point in lower-case hexadecimal digits -/
def hex (n : Nat) : List Char := Nat.toDigits 16 n

/-- one character inside a quoted text -/
def quotedChar (c : Char) : List Char :=
  match c with
  | '"' => ['\\', '"']
  | '\\' => ['\\', '\\']
  | '\x00' => ['\\', '0']
  | '\t' => ['\\', 't']
  | '\r' => ['\\', 'r']
  | '\n' => ['\\', 'n']
  | c =>
    if isCombining c || !isPrintable c then ['\\', 'u', '\x7b'] ++ hex c.toNat ++ ['\x7d']
    else [c]

/-- a text between double quotes -/
def quoted (s : String) : String :=
  String.ofList ('"' :: s.toList.flatMap quotedChar ++ ['"'])

end Trialbook.Text
