/-
SHORTEST DIGITS: the decimal of fewest digits that reads back as a given finite number.

The reals that round to `m · 2 ^ q` form an interval, closed when `m` is even. For one digit, two digits, and so on,
the two neighbours of the number on the decimal grid of that many digits are tried: the first grid with a neighbour in
the interval wins, of two neighbours the nearer, and an exact tie goes the way the caller says.
-/
import Trialbook.Number.Binary64

namespace Trialbook.Shortest

/-- `digits · 10 ^ exponent`, the digits not ending in zero unless they are zero -/
structure Decimal where
  digits : Nat
  exponent : Int
  deriving DecidableEq, Repr

/-- which of two equally near decimals is taken -/
inductive Tie where
  | up
  | even
  deriving DecidableEq, Repr

/-! ## Powers of ten -/

/-- the greatest `k` with `10 ^ k ≤ n`, for `n` not zero -/
def log10 (n : Nat) : Nat := (Nat.repr n).length - 1

/-- the greatest `k` with `10 ^ k ≤ num / den` -/
def decimalExponent (num den : Nat) : Int :=
  if den ≤ num then log10 (num / den)
  else
    let a := log10 (den / num)
    if den ≤ num * Nat.pow 10 a then -(a : Int) else -(a : Int) - 1

/-- `c · 10 ^ k` as a quotient -/
def gridPoint (c : Nat) (k : Int) : Nat × Nat :=
  if 0 ≤ k then (c * Nat.pow 10 k.toNat, 1) else (c, Nat.pow 10 (-k).toNat)

/-- takes the factors ten out of the digits -/
def strip : Nat → Nat → Int → Decimal
  | 0, c, k => ⟨c, k⟩
  | n + 1, c, k => if c % 10 = 0 ∧ c ≠ 0 then strip n (c / 10) (k + 1) else ⟨c, k⟩

/-! ## The interval and the search -/

/-- the reals between `low / den` and `high / den` read back as `value / den`, the ends too when `closed` -/
structure Interval where
  low : Nat
  value : Nat
  high : Nat
  den : Nat
  closed : Bool

/-- the interval of a finite number; below a power of two the numbers lie twice as close -/
def interval (x : Binary64) : Interval :=
  let m := x.significand
  let q := x.scale - 2
  let below := if x.fraction.val = 0 ∧ 1 < x.exponent.val then 1 else 2
  let (f, d) := if 0 ≤ q then (Nat.pow 2 q.toNat, 1) else (1, Nat.pow 2 (-q).toNat)
  ⟨(4 * m - below) * f, 4 * m * f, (4 * m + 2) * f, d, m % 2 == 0⟩

def Interval.contains (i : Interval) (c : Nat) (k : Int) : Bool :=
  let (n, d) := gridPoint c k
  if i.closed then decide (i.low * d ≤ n * i.den ∧ n * i.den ≤ i.high * d)
  else decide (i.low * d < n * i.den ∧ n * i.den < i.high * d)

/-- of the neighbours `c` and `c + 1` on the grid of step `10 ^ k`, the one to take, if the interval has one -/
def Interval.choose (i : Interval) (tie : Tie) (k : Int) : Option Nat :=
  let (n, d) := if 0 ≤ k then (i.value, i.den * Nat.pow 10 k.toNat) else (i.value * Nat.pow 10 (-k).toNat, i.den)
  let c := n / d
  let r := n % d
  match i.contains c k, i.contains (c + 1) k with
  | false, false => none
  | true, false => some c
  | false, true => some (c + 1)
  | true, true =>
    if 2 * r < d then some c
    else if d < 2 * r then some (c + 1)
    else match tie with
      | .up => some (c + 1)
      | .even => some (if c % 2 = 0 then c else c + 1)

/-- tries grids from step `10 ^ k` downwards -/
def Interval.search (i : Interval) (tie : Tie) : Nat → Int → Decimal
  | 0, k => ⟨i.value / i.den, k⟩
  | n + 1, k =>
    match i.choose tie k with
    | some c => strip 20 c k
    | none => i.search tie n (k - 1)

/-- the magnitude of a finite number in fewest digits -/
def ofBinary64 (tie : Tie) (x : Binary64) : Decimal :=
  if x.isZero then ⟨0, 0⟩
  else
    let i := interval x
    i.search tie 18 (decimalExponent i.value i.den)

end Trialbook.Shortest
