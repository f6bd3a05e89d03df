/-
BINARY64: floating-point numbers as the three fields of their encoding.

A number is a sign, an exponent field of eleven bits and a fraction field of fifty-two. A finite one denotes exactly
`significand · 2 ^ scale`, with the sign; everything here is arithmetic on natural numbers and integers, so each
operation can be reasoned about. `nearest` rounds a quotient to the closest number, a tie going to the even
significand; `whole?` is the integer that a finite number denotes exactly.
-/
namespace Trialbook

/-- a sign, an exponent field and a fraction field -/
structure Binary64 where
  negative : Bool
  exponent : Fin 2048
  fraction : Fin 4503599627370496
  deriving DecidableEq, Repr

namespace Binary64

/-! ## What the fields denote -/

/-- the all-ones exponent marks infinities and the numbers that are none -/
def isFinite (x : Binary64) : Bool := x.exponent.val != 2047

/-- no number at all -/
def isNaN (x : Binary64) : Bool := x.exponent.val == 2047 && x.fraction.val != 0

/-- the significand of a finite number, the leading bit supplied unless the exponent field is zero -/
def significand (x : Binary64) : Nat :=
  if x.exponent.val = 0 then x.fraction.val else Nat.pow 2 52 + x.fraction.val

/-- the power of two that the significand of a finite number is multiplied by -/
def scale (x : Binary64) : Int := (max x.exponent.val 1 : Nat) - 1075

/-- zero of either sign -/
def isZero (x : Binary64) : Bool := x.exponent.val == 0 && x.fraction.val == 0

/-- numeric equality: the two zeros are equal, and what is no number equals nothing -/
def equal (x y : Binary64) : Bool :=
  !x.isNaN && !y.isNaN && (decide (x = y) || (x.isZero && y.isZero))

/-! ## Constants and sign -/

def zero : Binary64 := ⟨false, 0, 0⟩

def one : Binary64 := ⟨false, 1023, 0⟩

def infinity (negative : Bool) : Binary64 := ⟨negative, 2047, 0⟩

def nan (negative : Bool) : Binary64 := ⟨negative, 2047, 2251799813685248⟩

/-- the number of the opposite sign -/
def neg (x : Binary64) : Binary64 := { x with negative := !x.negative }

/-! ## Rounding -/

/-- the nearest integer to a quotient, a tie going to the even one -/
def roundDiv (num den : Nat) : Nat :=
  let t := num / den
  let r := num % den
  if den < 2 * r ∨ (2 * r = den ∧ t % 2 = 1) then t + 1 else t

/-- the number of a sign whose exponent and fraction fields, read as one, are `n`; infinite when they are too large -/
def ofFields (negative : Bool) (n : Nat) : Binary64 :=
  if h : n / 4503599627370496 < 2047 then
    ⟨negative, ⟨n / 4503599627370496, by omega⟩, ⟨n % 4503599627370496, Nat.mod_lt _ (by decide)⟩⟩
  else infinity negative

/-- `num / den` divided by `2 ^ q`, as a quotient -/
def shift (num den : Nat) (q : Int) : Nat × Nat :=
  if 0 ≤ q then (num, den * Nat.pow 2 q.toNat) else (num * Nat.pow 2 (-q).toNat, den)

/-- the power of two of the last significand bit of `num / den` -/
def lastBit (num den : Nat) : Int :=
  let e : Int := (Nat.log2 num : Int) - Nat.log2 den
  let (n, d) := shift num den e
  max (-1074) (if d ≤ n then e - 52 else e - 53)

/-- the number nearest to `num / den`; carrying into the exponent is adding to the joined fields -/
def nearest (negative : Bool) (num den : Nat) : Binary64 :=
  if num = 0 then ⟨negative, 0, 0⟩
  else
    let q := lastBit num den
    let (n, d) := shift num den q
    ofFields negative ((q + 1074).toNat * Nat.pow 2 52 + roundDiv n d)

/-- the number nearest to an integer -/
def ofInt (n : Int) : Binary64 := nearest (n < 0) n.natAbs 1

/-- the number nearest to `digits · 10 ^ exponent`; far outside the range of finite numbers no power is formed -/
def ofDecimal (negative : Bool) (digits : Nat) (exponent : Int) : Binary64 :=
  let size : Int := (Nat.repr digits).length
  if digits = 0 ∨ exponent + size < -330 then ⟨negative, 0, 0⟩
  else if 330 < exponent + size then infinity negative
  else if 0 ≤ exponent then nearest negative (digits * Nat.pow 10 exponent.toNat) 1
  else nearest negative digits (Nat.pow 10 (-exponent).toNat)

/-! ## Integers -/

/-- the magnitude of a finite number when it is a whole number -/
def wholeMagnitude? (x : Binary64) : Option Nat :=
  if 0 ≤ x.scale then some (x.significand * Nat.pow 2 x.scale.toNat)
  else
    let d := Nat.pow 2 (-x.scale).toNat
    if x.significand % d = 0 then some (x.significand / d) else none

/-- the integer that a finite number denotes exactly -/
def whole? (x : Binary64) : Option Int :=
  if x.isFinite then
    x.wholeMagnitude?.map fun n => if x.negative then -(n : Int) else (n : Int)
  else none

end Binary64

end Trialbook
