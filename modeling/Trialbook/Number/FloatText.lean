/-
FLOAT TEXT: reading and writing floating-point numbers.

A `FloatLayout` says how the shortest digits of a number are laid out: which powers of ten are written positionally,
whether a whole number keeps its point, how an exponent is spelled, and the words for what is not finite. Reading takes
a sign, digits with at most one point among them, and an exponent, or one of the words `inf`, `infinity` and `nan` in
any case; the value is the nearest number.
-/
import Trialbook.Number.Integer
import Trialbook.Number.Shortest

namespace Trialbook

/-- decisions of one way of writing floating-point numbers -/
structure FloatLayout where
  /-- least and greatest power of ten of the first digit written without an exponent; none: never an exponent -/
  positional : Option (Int × Int)
  /-- a whole number written positionally ends in `.0` -/
  wholePoint : Bool
  /-- an exponent that is not negative has a plus sign -/
  exponentPlus : Bool
  infinity : String
  nan : String
  tie : Shortest.Tie

namespace FloatLayout

/-- diagnostic texts: always a point or an exponent -/
def diagnostic : FloatLayout := ⟨some (-4, 15), true, false, "inf", "NaN", .up⟩

/-- plain texts: never an exponent, and no point in a whole number -/
def plain : FloatLayout := ⟨none, false, false, "inf", "NaN", .up⟩

/-- data files: positional from `0.00001` on, and a sign before every exponent -/
def data : FloatLayout := ⟨some (-5, 15), true, true, "null", "null", .even⟩

/-- digits with a point after the first `n` of them, zeros supplied on either side -/
def point (wholePoint : Bool) (digits : String) (n : Int) : String :=
  let ds := digits.toList
  if n ≤ 0 then "0." ++ String.ofList (List.replicate (-n).toNat '0') ++ digits
  else if (ds.length : Int) ≤ n then
    digits ++ String.ofList (List.replicate (n.toNat - ds.length) '0') ++ (if wholePoint then ".0" else "")
  else String.ofList (ds.take n.toNat) ++ "." ++ String.ofList (ds.drop n.toNat)

/-- the magnitude of a finite number, given its digits -/
def magnitude (l : FloatLayout) (d : Shortest.Decimal) : String :=
  let digits := Nat.repr d.digits
  let first : Int := d.exponent + digits.length - 1
  let inside := match l.positional with
    | none => true
    | some (low, high) => decide (low ≤ first ∧ first ≤ high)
  if inside then point l.wholePoint digits (first + 1)
  else point false digits 1 ++ "e" ++ (if l.exponentPlus ∧ 0 ≤ first then "+" else "") ++ Integer.text first

/-- text of a number -/
def write (l : FloatLayout) (x : Binary64) : String :=
  if x.isNaN then l.nan
  else
    let sign := if x.negative then "-" else ""
    if x.isFinite then sign ++ l.magnitude (Shortest.ofBinary64 l.tie x) else sign ++ l.infinity

end FloatLayout

/-! ## Reading -/

namespace FloatText

def isDigit (c : Char) : Bool := '0' ≤ c && c ≤ '9'

def lower (c : Char) : Char := if 'A' ≤ c ∧ c ≤ 'Z' then Char.ofNat (c.toNat + 32) else c

/-- an exponent part, to the end of the text; nothing at all counts as zero -/
def exponent? : List Char → Option Int
  | [] => some 0
  | c :: cs => if c = 'e' ∨ c = 'E' then Integer.signed? 10 cs else none

/-- digits, at most one point and an exponent -/
def decimal? (cs : List Char) : Option (Nat × Int) :=
  let whole := cs.takeWhile isDigit
  let rest := cs.dropWhile isDigit
  let (frac, rest) := match rest with
    | '.' :: r => (r.takeWhile isDigit, r.dropWhile isDigit)
    | r => ([], r)
  if whole.isEmpty && frac.isEmpty then none
  else do
    let e ← exponent? rest
    let digits ← (whole ++ frac).mapM (Integer.digit? 10)
    return (Integer.ofDigits 10 digits, e - frac.length)

/-- an unsigned number or one of the words for what is not finite -/
def magnitude? (negative : Bool) (cs : List Char) : Option Binary64 :=
  match decimal? cs with
  | some (digits, e) => some (Binary64.ofDecimal negative digits e)
  | none =>
    let word := String.ofList (cs.map lower)
    if word = "inf" ∨ word = "infinity" then some (.infinity negative)
    else if word = "nan" then some (.nan negative)
    else none

/-- an optional sign and a number -/
def read? : List Char → Option Binary64
  | '-' :: cs => magnitude? true cs
  | '+' :: cs => magnitude? false cs
  | cs => magnitude? false cs

end FloatText

end Trialbook
