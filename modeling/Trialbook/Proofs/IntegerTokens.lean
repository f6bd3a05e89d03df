/-
INTEGER TOKENS: the number that an integer token denotes, and what is read from it.

A numeral is a row of digits of a base, single underscores allowed between them; before digits of base sixteen, eight or
two stand a zero and a letter, and perhaps one more underscore (`Numeral`). Letter case does not count. It denotes its
digits by their places, most significant first, and may be of any length.

Results:
- `Digits.lowered`: the digits of a numeral are what is left of it without underscores and letter case.
- `integer?_of_prefixed`, `integer?_of_decimal`: the base that is read is the one that was meant.
- `integer?_of_suffixed`: what ends in one of the letters after a number is no integer.
- `numeral_value`: a numeral is read as the number it denotes, if that is in range.
-/
import Mathlib.Data.Nat.Digits.Defs
import Trialbook.Proofs.Coercions
import Trialbook.Proofs.StringEscapes

namespace Trialbook.NumberLiteral

/-! ## Numerals -/

/-- a character is the digit `d` of a base, as a small or a capital letter from ten on -/
def IsDigit (base : Nat) (c : Char) (d : Nat) : Prop :=
  d < base ∧ (c = Nat.digitChar d ∨ c = (Nat.digitChar d).toUpper)

instance (base : Nat) (c : Char) (d : Nat) : Decidable (IsDigit base c d) := inferInstanceAs (Decidable (_ ∧ _))

/-- one or more digits of a base, with single underscores between them -/
inductive Digits (base : Nat) : List Char → List Nat → Prop where
  | last {c : Char} {d : Nat} : IsDigit base c d → Digits base [c] [d]
  | next {c : Char} {d : Nat} {cs : List Char} {ds : List Nat} : IsDigit base c d → Digits base cs ds →
    Digits base (c :: cs) (d :: ds)
  | spaced {c : Char} {d : Nat} {cs : List Char} {ds : List Nat} : IsDigit base c d → Digits base cs ds →
    Digits base (c :: '_' :: cs) (d :: ds)

/-- the letters that introduce a base after a zero -/
def letters : List (Char × Nat) := [('x', 16), ('X', 16), ('o', 8), ('O', 8), ('b', 2), ('B', 2)]

/-- an integer token without a suffix, and the number that its digits denote by their places -/
inductive Numeral : List Char → Nat → Prop where
  | decimal {cs : List Char} {ds : List Nat} : Digits 10 cs ds → Numeral cs (Nat.ofDigits 10 ds.reverse)
  | prefixed {l : Char} {base : Nat} {cs : List Char} {ds : List Nat} : (l, base) ∈ letters → Digits base cs ds →
    Numeral ('0' :: l :: cs) (Nat.ofDigits base ds.reverse)
  | prefixedSpaced {l : Char} {base : Nat} {cs : List Char} {ds : List Nat} : (l, base) ∈ letters → Digits base cs ds →
    Numeral ('0' :: l :: '_' :: cs) (Nat.ofDigits base ds.reverse)

variable {base n : Nat} {c d : Char} {cs ks : List Char} {ds : List Nat} {token : String}

/-! ## Digits -/

/-- a text without underscores and letter case -/
def lowered (cs : List Char) : List Char := (cs.filter (· != '_')).map FloatText.lower

theorem lowered_toList (token : String) : (digitsOf token).map FloatText.lower = lowered token.toList := rfl

theorem lowered_underscore (cs : List Char) : lowered ('_' :: cs) = lowered cs := rfl

theorem lowered_cons (other : c ≠ '_') (cs : List Char) : lowered (c :: cs) = FloatText.lower c :: lowered cs := by
  rw [lowered, List.filter_cons_of_pos (by simpa using other), List.map_cons, lowered]

/-- a digit is no underscore, and has its value in either letter case -/
theorem IsDigit.lower {d : Nat} (h : IsDigit base c d) (few : base ≤ 16) :
    c ≠ '_' ∧ Integer.digitValue (FloatText.lower c) = d := by
  have small : ∀ d < 16, Nat.digitChar d ≠ '_' ∧ Integer.digitValue (FloatText.lower (Nat.digitChar d)) = d := by
    decide
  have capital : ∀ d < 16, (Nat.digitChar d).toUpper ≠ '_' ∧
      Integer.digitValue (FloatText.lower (Nat.digitChar d).toUpper) = d := by decide
  have few : d < 16 := h.1.trans_le few
  rcases h.2 with rfl | rfl
  · exact small d few
  · exact capital d few

theorem Digits.lowered (h : Digits base cs ds) (few : base ≤ 16) :
    (lowered cs).map Integer.digitValue = ds ∧ ds ≠ [] ∧ ∀ d ∈ ds, d < base := by
  induction h with
  | last digit =>
    obtain ⟨other, value⟩ := digit.lower few
    rw [lowered_cons other]
    exact ⟨by simp [NumberLiteral.lowered, value], by simp, by simpa using digit.1⟩
  | next digit _ ih =>
    obtain ⟨other, value⟩ := digit.lower few
    rw [lowered_cons other, List.map_cons, value, ih.1]
    exact ⟨rfl, by simp, List.forall_mem_cons.2 ⟨digit.1, ih.2.2⟩⟩
  | spaced digit _ ih =>
    obtain ⟨other, value⟩ := digit.lower few
    rw [lowered_cons other, lowered_underscore, List.map_cons, value, ih.1]
    exact ⟨rfl, by simp, List.forall_mem_cons.2 ⟨digit.1, ih.2.2⟩⟩

/-- reading digits from the front comes to the sum of the digits by their places -/
theorem ofDigits_eq (base : Nat) (ds : List Nat) : Integer.ofDigits base ds = Nat.ofDigits base ds.reverse := by
  rw [Nat.ofDigits_eq_foldr, List.foldr_reverse, Integer.ofDigits]
  congr 1
  funext n d
  rw [Nat.cast_id, Nat.add_comm, Nat.mul_comm]

theorem natural?_lowered (h : Digits base cs ds) (few : base ≤ 16) :
    Integer.natural? base (lowered cs) = some (Nat.ofDigits base ds.reverse) := by
  obtain ⟨values, some, bound⟩ := h.lowered few
  have given : NumberLiteral.lowered cs ≠ [] := by
    intro none
    rw [none, List.map_nil] at values
    exact some values.symm
  have digits : ∀ k ∈ NumberLiteral.lowered cs, Integer.digitValue k < base := fun k hk =>
    bound _ (values ▸ List.mem_map_of_mem hk)
  rw [StringLiteral.natural?_of_digits given digits, StringLiteral.codeOf, values, ofDigits_eq]

/-! ## Bases -/

/-- the base of a prefix is read -/
theorem integer?_of_prefixed {l : Char} (known : (l, base) ∈ letters)
    (split : lowered token.toList = '0' :: FloatText.lower l :: ks) :
    integer? token = (Integer.natural? base ks).bind fun n => Integer.int64? n := by
  rw [integer?, lowered_toList, split]
  simp only [letters, List.mem_cons, Prod.mk.injEq, List.not_mem_nil, or_false] at known
  obtain ⟨rfl, rfl⟩ | ⟨rfl, rfl⟩ | ⟨rfl, rfl⟩ | ⟨rfl, rfl⟩ | ⟨rfl, rfl⟩ | ⟨rfl, rfl⟩ := known <;> rfl

/-- without a prefix digits are decimal -/
theorem integer?_of_decimal (digits : ∀ k ∈ lowered token.toList, Integer.digitValue k < 10) :
    integer? token = (Integer.natural? 10 (lowered token.toList)).bind fun n => Integer.int64? n := by
  rw [integer?, lowered_toList]
  have letter {l : Char} {ds : List Char} (same : lowered token.toList = '0' :: l :: ds) : Integer.digitValue l < 10 :=
    digits l (by simp [same])
  split
  · exact absurd (letter ‹_›) (by decide)
  · exact absurd (letter ‹_›) (by decide)
  · exact absurd (letter ‹_›) (by decide)
  · rfl

/-- nothing is read with a character that is no digit of any base and introduces none -/
theorem integer?_of_no_digit (member : c ∈ lowered token.toList) (other : 16 ≤ Integer.digitValue c)
    (plain : c ∉ ['0', 'x', 'o', 'b']) : integer? token = none := by
  have unread {base : Nat} {ks : List Char} (few : base ≤ 16) (within : c ∈ ks) :
      ((Integer.natural? base ks).bind fun n => Integer.int64? n) = none := by
    rw [StringLiteral.natural?_of_no_digit within (by omega), Option.bind_none]
  have later (l : Char) {ks : List Char} (apart : c ≠ l) (split : lowered token.toList = '0' :: l :: ks) : c ∈ ks := by
    rw [split] at member
    obtain rfl | rfl | within := by simpa using member
    · exact absurd (by simp) plain
    · exact absurd rfl apart
    · exact within
  have named (l : Char) (prefixes : l ∈ ['0', 'x', 'o', 'b']) : c ≠ l := fun same => plain (same ▸ prefixes)
  rw [integer?, lowered_toList]
  split
  · exact unread (by decide) (later 'x' (named 'x' (by decide)) ‹_›)
  · exact unread (by decide) (later 'o' (named 'o' (by decide)) ‹_›)
  · exact unread (by decide) (later 'b' (named 'b' (by decide)) ‹_›)
  · exact unread (by decide) member

theorem integer?_of_suffixed {suffix : Char} (known : suffix ∈ ['j', 'J', 'l', 'L']) :
    integer? (token.push suffix) = none := by
  have each : suffix ≠ '_' ∧ 16 ≤ Integer.digitValue (FloatText.lower suffix) ∧
      FloatText.lower suffix ∉ ['0', 'x', 'o', 'b'] := by
    simp only [List.mem_cons, List.not_mem_nil, or_false] at known
    rcases known with rfl | rfl | rfl | rfl <;> decide
  obtain ⟨other, large, plain⟩ := each
  refine integer?_of_no_digit ?_ large plain
  rw [String.toList_push, lowered, List.mem_map]
  exact ⟨suffix, List.mem_filter.2 ⟨by simp, by simpa using other⟩, rfl⟩

theorem integer?_of_numeral (h : Numeral token.toList n) : integer? token = Integer.int64? n := by
  have few {l : Char} {base : Nat} (known : (l, base) ∈ letters) : l ≠ '_' ∧ base ≤ 16 := by
    have each : ∀ e ∈ letters, e.1 ≠ '_' ∧ e.2 ≤ 16 := by decide
    exact each _ known
  generalize chars : token.toList = text at h
  cases h with
  | decimal digits =>
    obtain ⟨values, -, bound⟩ := digits.lowered (by decide)
    have decimal : ∀ k ∈ lowered token.toList, Integer.digitValue k < 10 := fun k hk =>
      bound _ (values ▸ List.mem_map_of_mem (chars ▸ hk))
    rw [integer?_of_decimal decimal, chars, natural?_lowered digits (by decide), Option.bind_some]
  | @prefixed l base cs ds known digits =>
    obtain ⟨other, small⟩ := few known
    have split : lowered token.toList = '0' :: FloatText.lower l :: lowered cs := by
      rw [chars, lowered_cons (by decide), lowered_cons other]
      rfl
    rw [integer?_of_prefixed known split, natural?_lowered digits small, Option.bind_some]
  | @prefixedSpaced l base cs ds known digits =>
    obtain ⟨other, small⟩ := few known
    have split : lowered token.toList = '0' :: FloatText.lower l :: lowered cs := by
      rw [chars, lowered_cons (by decide), lowered_cons other, lowered_underscore]
      rfl
    rw [integer?_of_prefixed known split, natural?_lowered digits small, Option.bind_some]

/-! ## Main result -/

/-- **A numeral is read as the number it denotes**, whatever its base, its length, its letter case and its underscores,
just when that number is at most `2 ^ 63 - 1`. A token that ends in the letter of a long or an imaginary number is never
read. -/
theorem numeral_value (token : String) :
    (∀ n, Numeral token.toList n → ((∃ i, integer? token = some i) ↔ n ≤ 2 ^ 63 - 1) ∧
      ∀ i, integer? token = some i → i.toInt = n) ∧
    ∀ suffix ∈ ['j', 'J', 'l', 'L'], integer? (token.push suffix) = none := by
  refine ⟨fun n numeral => ?_, fun suffix known => integer?_of_suffixed known⟩
  rw [integer?_of_numeral numeral]
  simp only [Integer.int64?_eq_some_iff]
  refine ⟨?_, fun i same => same⟩
  rw [Integer.exists_toInt_iff]
  omega

/-- the greatest integer in letters of either case with underscores, and the number after it with a leading zero -/
theorem numeral_value_greatest :
    (Numeral "0X_7FFF_ffff_FFFF_ffff".toList (2 ^ 63 - 1) ∧
      ∃ i, integer? "0X_7FFF_ffff_FFFF_ffff" = some i ∧ i.toInt = (2 ^ 63 - 1 : Nat)) ∧
    (Numeral "0_9223372036854775808".toList (2 ^ 63) ∧ ¬ ∃ i, integer? "0_9223372036854775808" = some i) ∧
    'L' ∈ ['j', 'J', 'l', 'L'] ∧ integer? "0b1L" = none := by
  have greatest : Numeral "0X_7FFF_ffff_FFFF_ffff".toList (2 ^ 63 - 1) := by
    have digits : Digits 16 "7FFF_ffff_FFFF_ffff".toList (7 :: List.replicate 15 15) := by
      repeat first | exact .last (by decide) | refine .spaced (by decide) ?_ | refine .next (by decide) ?_
    exact .prefixedSpaced (by decide) digits
  have next : Numeral "0_9223372036854775808".toList (2 ^ 63) := by
    have digits : Digits 10 "0_9223372036854775808".toList
        [0, 9, 2, 2, 3, 3, 7, 2, 0, 3, 6, 8, 5, 4, 7, 7, 5, 8, 0, 8] := by
      repeat first | exact .last (by decide) | refine .spaced (by decide) ?_ | refine .next (by decide) ?_
    exact .decimal digits
  obtain ⟨read, value⟩ := (numeral_value "0X_7FFF_ffff_FFFF_ffff").1 _ greatest
  obtain ⟨i, found⟩ := read.2 le_rfl
  have large : ¬ ∃ i, integer? "0_9223372036854775808" = some i := by
    rw [((numeral_value "0_9223372036854775808").1 _ next).1]
    decide
  exact ⟨⟨greatest, i, found, value i found⟩, ⟨next, large⟩, by decide, (numeral_value "0b1").2 'L' (by decide)⟩

end Trialbook.NumberLiteral
