/-
WHOLE FLOATS: floating-point numbers that become integers.

A finite number denotes exactly `significand · 2 ^ scale` with its sign (`Binary64.toRat`), which may be an integer. A
value of kind `float` becomes the integer of sixty-four bits that it denotes, if it denotes one, except for the least:
its magnitude is not below `2 ^ 63`, although it is in range.

Results:
- `Binary64.wholeMagnitude?_eq_some_iff`, `Binary64.whole?_eq_some_iff`: the integer that is found is the exact number.
- `not_every_whole_float_converts`: the least integer is denoted by a number that becomes no integer.
- `whole_float_converts`: every other one does, and nothing is rounded, wrapped or cut off.
-/
import Mathlib.Tactic
import Trialbook.Proofs.Coercions

namespace Trialbook

/-! ## What a number denotes -/

namespace Binary64

/-- the number that a finite one denotes -/
def toRat (x : Binary64) : ℚ :=
  let magnitude : ℚ := x.significand * 2 ^ x.scale
  if x.negative then -magnitude else magnitude

variable {x : Binary64}

/-- a magnitude is found just when it is the exact one -/
theorem wholeMagnitude?_eq_some_iff {n : Nat} :
    x.wholeMagnitude? = some n ↔ (x.significand : ℚ) * 2 ^ x.scale = n := by
  unfold wholeMagnitude?
  split
  next large =>
    obtain ⟨k, scale⟩ := Int.eq_ofNat_of_zero_le large
    have cast : (x.significand : ℚ) * 2 ^ (k : ℤ) = (x.significand * 2 ^ k : ℕ) := by
      rw [zpow_natCast]
      push_cast
      rfl
    rw [scale, Int.toNat_natCast, cast, Nat.cast_inj, Option.some.injEq]
    rfl
  next small =>
    obtain ⟨k, scale⟩ := Int.eq_ofNat_of_zero_le (Int.neg_nonneg.2 (Int.not_le.1 small).le)
    have opposite : x.scale = -(k : ℤ) := by rw [← scale, Int.neg_neg]
    have positive : (2 : ℚ) ^ k ≠ 0 := pow_ne_zero k two_ne_zero
    -- a quotient by a power of two is `n` just when `n` times the power is divided
    have divided : (x.significand : ℚ) * 2 ^ (-(k : ℤ)) = n ↔ x.significand = n * 2 ^ k := by
      rw [zpow_neg, zpow_natCast, mul_inv_eq_iff_eq_mul₀ positive]
      exact_mod_cast Iff.rfl
    rw [scale, Int.toNat_natCast, opposite, divided]
    change (if x.significand % 2 ^ k = 0 then some (x.significand / 2 ^ k) else none) = some n ↔ _
    constructor
    · intro found
      split_ifs at found with whole
      obtain rfl := Option.some.inj found
      exact (Nat.div_mul_cancel (Nat.dvd_of_mod_eq_zero whole)).symm
    · intro multiple
      rw [multiple, Nat.mul_mod_left, if_pos rfl, Nat.mul_div_cancel n (Nat.two_pow_pos k)]

/-- the integer with a sign and a magnitude -/
def signed (negative : Bool) (m : ℕ) : ℤ := if negative then -m else m

theorem whole?_of_isFinite (finite : x.isFinite = true) : x.whole? = x.wholeMagnitude?.map (signed x.negative) := by
  rw [whole?, if_pos finite]
  cases x.wholeMagnitude? <;> rfl

theorem cast_signed (negative : Bool) (m : ℕ) : (signed negative m : ℚ) = if negative then -(m : ℚ) else m := by
  cases negative <;> simp [signed]

/-- an integer is found just when it is the number denoted -/
theorem whole?_eq_some_iff {n : ℤ} : x.whole? = some n ↔ x.isFinite = true ∧ x.toRat = n := by
  cases finite : x.isFinite with
  | false => simp [whole?, finite]
  | true =>
    rw [whole?_of_isFinite finite, Option.map_eq_some_iff]
    constructor
    · rintro ⟨m, magnitude, rfl⟩
      refine ⟨rfl, ?_⟩
      rw [toRat, wholeMagnitude?_eq_some_iff.1 magnitude, cast_signed]
    · rintro ⟨-, denoted⟩
      have positive : (0 : ℚ) ≤ x.significand * 2 ^ x.scale := by positivity
      have natural : (x.significand : ℚ) * 2 ^ x.scale = n.natAbs := by
        rw [Nat.cast_natAbs, Int.cast_abs, ← denoted, toRat]
        split
        · rw [abs_neg, abs_of_nonneg positive]
        · rw [abs_of_nonneg positive]
      refine ⟨n.natAbs, wholeMagnitude?_eq_some_iff.2 natural, Int.cast_injective (α := ℚ) ?_⟩
      rw [cast_signed, ← natural, ← denoted, toRat]

end Binary64

/-! ## Main result -/

namespace Value

variable {x : Binary64}

/-- the integer found is the number denoted, and not the least -/
theorem floatToInt?_eq_some_iff {i : Int64} :
    floatToInt? x = some i ↔ x.isFinite = true ∧ x.toRat = i.toInt ∧ i ≠ Int64.minValue := by
  have bound : Nat.pow 2 63 = 2 ^ 63 := rfl
  rw [floatToInt?, Option.bind_eq_some_iff, Integer.ne_minValue_iff]
  constructor
  · rintro ⟨n, whole, found⟩
    split_ifs at found with below
    obtain ⟨finite, denoted⟩ := Binary64.whole?_eq_some_iff.1 whole
    have range : -2 ^ 63 ≤ n ∧ n ≤ 2 ^ 63 - 1 := by omega
    obtain ⟨j, rfl⟩ := Integer.exists_toInt_iff.2 range
    rw [Int64.ofInt_toInt] at found
    obtain rfl := Option.some.inj found
    exact ⟨finite, denoted, by omega⟩
  · rintro ⟨finite, denoted, more⟩
    have upper := (Integer.exists_toInt_iff.1 ⟨i, rfl⟩).2
    refine ⟨i.toInt, Binary64.whole?_eq_some_iff.2 ⟨finite, denoted⟩, ?_⟩
    rw [if_pos (by omega), Int64.ofInt_toInt]

end Value

/-- the float that denotes the least integer of sixty-four bits -/
def leastInteger : Binary64 := ⟨true, ⟨1086, by decide⟩, ⟨0, by decide⟩⟩

theorem toRat_leastInteger : leastInteger.toRat = Int64.minValue.toInt := by
  have scale : leastInteger.scale = 11 := rfl
  have significand : leastInteger.significand = 2 ^ 52 := rfl
  have least : Int64.minValue.toInt = -2 ^ 63 := rfl
  rw [Binary64.toRat, scale, significand, least]
  norm_num [leastInteger]

/-- it is in range, and becomes no integer -/
theorem not_every_whole_float_converts : ¬ ∀ (x : Binary64) (i : Int64),
    (Value.float x).convert? .int = some (.int i) ↔ x.isFinite = true ∧ x.toRat = i.toInt := by
  intro claim
  have converted := (claim leastInteger Int64.minValue).2 ⟨rfl, toRat_leastInteger⟩
  exact absurd converted (by decide +kernel)

/-- **A float becomes the integer that it denotes**, if it is finite, denotes an integer of sixty-four bits, and that is
not the least. It becomes nothing else, and becomes nothing just when it is not finite or denotes no integer of
magnitude below `2 ^ 63`. -/
theorem whole_float_converts (x : Binary64) :
    (∀ v, (Value.float x).convert? .int = some v ↔
      ∃ i : Int64, v = .int i ∧ x.isFinite = true ∧ x.toRat = i.toInt ∧ i ≠ Int64.minValue) ∧
    ((Value.float x).convert? .int = none ↔
      ¬ (x.isFinite = true ∧ ∃ n : ℤ, x.toRat = n ∧ -2 ^ 63 < n ∧ n ≤ 2 ^ 63 - 1)) := by
  have converts : (Value.float x).convert? .int = (Value.floatToInt? x).map .int := rfl
  rw [converts]
  constructor
  · intro v
    rw [Option.map_eq_some_iff]
    constructor
    · rintro ⟨i, found, rfl⟩
      exact ⟨i, rfl, Value.floatToInt?_eq_some_iff.1 found⟩
    · rintro ⟨i, rfl, denotes⟩
      exact ⟨i, Value.floatToInt?_eq_some_iff.2 denotes, rfl⟩
  · rw [Option.map_eq_none_iff]
    constructor
    · rintro nothing ⟨finite, n, denoted, lower, upper⟩
      obtain ⟨i, rfl⟩ := Integer.exists_toInt_iff.2 ⟨lower.le, upper⟩
      rw [Value.floatToInt?_eq_some_iff.2 ⟨finite, denoted, Integer.ne_minValue_iff.2 lower⟩] at nothing
      cases nothing
    · intro none
      refine Option.eq_none_iff_forall_ne_some.2 fun i found => none ?_
      obtain ⟨finite, denoted, more⟩ := Value.floatToInt?_eq_some_iff.1 found
      exact ⟨finite, i.toInt, denoted, Integer.ne_minValue_iff.1 more, (Integer.exists_toInt_iff.1 ⟨i, rfl⟩).2⟩

end Trialbook
