/-
HEXADECIMAL: code points in upper-case digits, a fixed number of them.
-/
namespace Trialbook.Text

/-- upper-case hexadecimal digit -/
def hexDigit (n : Nat) : Char :=
  if n % 16 < 10 then Char.ofNat ('0'.toNat + n % 16) else Char.ofNat ('A'.toNat + (n % 16 - 10))

/-- the last `width` hexadecimal digits of a number -/
def hexDigits : Nat → Nat → List Char
  | 0, _ => []
  | width + 1, n => hexDigits width (n / 16) ++ [hexDigit n]

end Trialbook.Text
