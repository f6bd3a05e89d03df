/-
FLOAT SCALARS: a float that a form shows is taken for a float, and for the number that a diagnosis shows.

A form shows a finite float as a diagnosis does, but with the text cut at the exponent and completed on both sides. The
two kinds of texts differ in form (`scalarForm`, `diagnosticForm`). A text denotes a number by the places of its digits
and the exponent after them, and a sign, which zero has too (`FloatText.Denotes`).

Results:
- `FloatText.Denotes.unique`: a text denotes at most one number, of one sign.
- `FloatText.completed_signed`: every text of the form of diagnoses with a point or an exponent, once completed, has the
  form of scalars and denotes the same number.
- `FloatLayout.laid_magnitude`: whatever the layout, a mantissa and perhaps an exponent are written, and denote the
  decimal that they are written for.
- `float_scalar_stays_float`: all that holds of a float in a form.
-/
import Mathlib.Computability.RegularExpressions
import Mathlib.Tactic
import Trialbook.Proofs.Coercions
import Trialbook.Proofs.FormScalars

namespace Trialbook

/-- the number that a decimal is -/
def Shortest.Decimal.toRat (d : Shortest.Decimal) : ℚ := d.digits * 10 ^ d.exponent

namespace Integer

theorem ofDigitChars_repr (n : Nat) : Nat.ofDigitChars 10 (Nat.repr n).toList 0 = n := by
  rw [Nat.toList_repr, Nat.ofDigitChars_toDigits (by decide) (by decide)]

theorem isDecimal_zero : IsDecimal ['0'] := ⟨List.cons_ne_nil _ _, List.forall_mem_singleton.2 rfl⟩

theorem IsDecimal.of_subset {ds fs : List Char} (h : IsDecimal ds) (some : fs ≠ [])
    (sub : ∀ c ∈ fs, c ∈ ds ∨ c = '0') : IsDecimal fs := by
  refine ⟨some, fun c mem => ?_⟩
  rcases sub c mem with mem | rfl
  · exact h.2 c mem
  · decide

theorem IsDecimal.not_mem {ds : List Char} {c : Char} (h : IsDecimal ds) (other : c.isDigit = false) : c ∉ ds :=
  fun mem => absurd (h.2 c mem) (by rw [other]; decide)

theorem Spells.not_mem_point {cs : List Char} {n : Int} (h : Spells cs n) : '.' ∉ cs := by
  cases h with
  | plain digits => exact digits.not_mem (by decide)
  | plus digits => exact List.not_mem_cons_of_ne_of_not_mem (by decide) (digits.not_mem (by decide))
  | minus digits => exact List.not_mem_cons_of_ne_of_not_mem (by decide) (digits.not_mem (by decide))

/-- a text spells one integer -/
theorem Spells.unique {cs : List Char} {n m : Int} (h : Spells cs n) (h' : Spells cs m) : n = m :=
  Option.some.inj ((signed?_eq_some_iff.2 h).symm.trans (signed?_eq_some_iff.2 h'))

end Integer

namespace FloatText

open Integer (IsDecimal Spells)

variable {cs ds es fs : List Char} {b b' : Bool} {q r : ℚ}

/-! ## Forms -/

/-- a single character, one of some -/
def oneOf (ks : List Char) : RegularExpression Char := (ks.map .char).sum

def decimalDigits : List Char := ['0', '1', '2', '3', '4', '5', '6', '7', '8', '9']

/-- one or more decimal digits -/
def digits : RegularExpression Char := oneOf decimalDigits * (oneOf decimalDigits).star

/-- what matches, or nothing -/
def perhaps (p : RegularExpression Char) : RegularExpression Char := 1 + p

/-- digits, a point and digits -/
def pointedForm : RegularExpression Char := digits * (.char '.' * digits)

/-- digits, and perhaps a point and digits -/
def mantissaForm : RegularExpression Char := digits * perhaps (.char '.' * digits)

/-- a mantissa, and perhaps an exponent with a sign before its digits -/
def scaledForm (mantissa sign : RegularExpression Char) : RegularExpression Char :=
  mantissa * perhaps (.char 'e' * (sign * digits))

/-- the floats of documents: `-?[0-9]+\.[0-9]+(e[+-][0-9]+)?` -/
def scalarForm : RegularExpression Char := perhaps (.char '-') * scaledForm pointedForm (oneOf ['+', '-'])

/-- the floats of diagnoses: `-?[0-9]+(\.[0-9]+)?(e-?[0-9]+)?` -/
def diagnosticForm : RegularExpression Char := perhaps (.char '-') * scaledForm mantissaForm (perhaps (.char '-'))

section

variable {p p' : RegularExpression Char}

theorem mem_oneOf_iff {ks : List Char} : cs ∈ (oneOf ks).matches' ↔ ∃ k ∈ ks, cs = [k] := by
  induction ks with
  | nil => exact iff_of_false (fun none => none) (by simp)
  | cons k ks ih =>
    change cs = [k] ∨ cs ∈ (oneOf ks).matches' ↔ _
    rw [ih, List.exists_mem_cons_iff]

theorem mem_mul_iff : cs ∈ (p * p').matches' ↔ ∃ ds ∈ p.matches', ∃ es ∈ p'.matches', ds ++ es = cs := Language.mem_mul

theorem mem_char_mul_iff {c : Char} : cs ∈ (.char c * p : RegularExpression Char).matches' ↔
    ∃ ds ∈ p.matches', c :: ds = cs := by
  rw [mem_mul_iff]
  exact ⟨fun ⟨_, rfl, es, he, text⟩ => ⟨es, he, text⟩, fun ⟨es, he, text⟩ => ⟨[c], rfl, es, he, text⟩⟩

theorem mem_perhaps_iff : cs ∈ (perhaps p).matches' ↔ cs = [] ∨ cs ∈ p.matches' := Iff.rfl

end

theorem isDigit_iff_mem {c : Char} : c.isDigit = true ↔ c ∈ decimalDigits := by
  have each : ∀ n < 10, Char.ofNat ('0'.toNat + n) ∈ decimalDigits := by decide
  have all : decimalDigits.all Char.isDigit = true := rfl
  refine ⟨fun digit => ?_, List.all_eq_true.1 all c⟩
  obtain ⟨low, high⟩ : 48 ≤ c.toNat ∧ c.toNat ≤ 57 := Char.isDigit_iff_toNat.1 digit
  have code : '0'.toNat + (c.toNat - 48) = c.toNat := Nat.add_sub_cancel' low
  have among := each (c.toNat - 48) (by omega)
  rwa [code, Char.ofNat_toNat] at among

theorem mem_digits_iff : ds ∈ digits.matches' ↔ IsDecimal ds := by
  have digit {ks : List Char} : ks ∈ (oneOf decimalDigits).matches' ↔ ∃ k, k.isDigit = true ∧ ks = [k] := by
    simp only [mem_oneOf_iff, isDigit_iff_mem]
  rw [digits, mem_mul_iff]
  constructor
  · rintro ⟨first, begins, later, goes, rfl⟩
    obtain ⟨k, hk, rfl⟩ := digit.1 begins
    obtain ⟨parts, rfl, each⟩ := Language.mem_kstar.1 goes
    refine ⟨by simp, List.forall_mem_cons.2 ⟨hk, fun c hc => ?_⟩⟩
    obtain ⟨part, hpart, inside⟩ := List.mem_flatten.1 hc
    obtain ⟨k', hk', rfl⟩ := digit.1 (each part hpart)
    exact List.mem_singleton.1 inside ▸ hk'
  · rintro ⟨some, each⟩
    obtain ⟨c, cs, rfl⟩ := List.exists_cons_of_ne_nil some
    obtain ⟨first, later⟩ := List.forall_mem_cons.1 each
    refine ⟨[c], digit.2 ⟨c, first, rfl⟩, cs, Language.mem_kstar.2 ⟨cs.map fun k => [k], ?_, ?_⟩, rfl⟩
    · rw [← List.flatMap_def, List.flatMap_singleton']
    · exact List.forall_mem_map.2 fun k hk => digit.2 ⟨k, later k hk, rfl⟩

/-! ## Numbers -/

/-- digits, perhaps with a point and more digits, denote a number by their places -/
inductive Mantissa : List Char → ℚ → Prop where
  | whole {ds : List Char} : IsDecimal ds → Mantissa ds (Nat.ofDigitChars 10 ds 0)
  | pointed {ds fs : List Char} : IsDecimal ds → IsDecimal fs →
    Mantissa (ds ++ '.' :: fs) (Nat.ofDigitChars 10 ds 0 + Nat.ofDigitChars 10 fs 0 / 10 ^ fs.length)

/-- a mantissa, perhaps times a power of ten that is named after an `e` -/
inductive Magnitude : List Char → ℚ → Prop where
  | plain {cs : List Char} {q : ℚ} : Mantissa cs q → Magnitude cs q
  | scaled {cs es : List Char} {q : ℚ} {n : Int} : Mantissa cs q → Spells es n →
    Magnitude (cs ++ 'e' :: es) (q * 10 ^ n)

/-- a text denotes a magnitude and whether it is negative, which zero can be too -/
inductive Denotes : List Char → Bool → ℚ → Prop where
  | plain {cs : List Char} {q : ℚ} : Magnitude cs q → Denotes cs false q
  | minus {cs : List Char} {q : ℚ} : Magnitude cs q → Denotes ('-' :: cs) true q

namespace Mantissa

theorem isDigit_or_point (h : Mantissa cs q) : ∀ c ∈ cs, c.isDigit = true ∨ c = '.' := by
  intro c mem
  cases h with
  | whole digits => exact .inl (digits.2 c mem)
  | pointed before after =>
    rcases List.mem_append.1 mem with mem | mem
    · exact .inl (before.2 c mem)
    · exact (List.mem_cons.1 mem).symm.imp_left (after.2 c)

theorem not_mem_mark (h : Mantissa cs q) : 'e' ∉ cs := fun mem => absurd (h.isDigit_or_point _ mem) (by decide)

theorem exists_digit (h : Mantissa cs q) : ∃ c ds, cs = c :: ds ∧ c.isDigit = true := by
  have first {ds : List Char} (digits : IsDecimal ds) : ∃ c es, ds = c :: es ∧ c.isDigit = true := by
    obtain ⟨c, es, rfl⟩ := List.exists_cons_of_ne_nil digits.1
    exact ⟨c, es, rfl, digits.2 c List.mem_cons_self⟩
  cases h with
  | whole digits => exact first digits
  | pointed before after =>
    obtain ⟨c, es, rfl, digit⟩ := first before
    exact ⟨c, _, List.cons_append, digit⟩

theorem unique (h : Mantissa cs q) (h' : Mantissa cs r) : q = r := by
  have apart {ds : List Char} (digits : IsDecimal ds) : '.' ∉ ds := digits.not_mem (by decide)
  cases h with
  | whole digits =>
    cases h' with
    | whole => rfl
    | pointed => exact absurd (List.mem_append_right _ List.mem_cons_self) (apart digits)
  | @pointed ds fs before after =>
    -- digits have no point, so what stands before the first point is the same in both
    generalize text : ds ++ '.' :: fs = cs at h'
    cases h' with
    | whole digits => exact absurd (text ▸ List.mem_append_right _ List.mem_cons_self) (apart digits)
    | pointed before' after' =>
      obtain ⟨rfl, rfl⟩ := Text.append_separator_inj (apart before) (apart before') text
      rfl

/-- a point and a zero at the end of digits count for nothing -/
theorem point_zero (digits : IsDecimal ds) : Mantissa (ds ++ ['.', '0']) (Nat.ofDigitChars 10 ds 0) := by
  have none : Nat.ofDigitChars 10 ['0'] 0 = 0 := rfl
  have mantissa := pointed digits Integer.isDecimal_zero
  rwa [none, Nat.cast_zero, zero_div, add_zero] at mantissa

theorem pointed_of (h : Mantissa cs q) : Mantissa (Form.pointed cs) q := by
  unfold Form.pointed
  cases h with
  | whole digits =>
    have apart : '.' ∉ cs := digits.not_mem (by decide)
    rw [if_neg (by simpa using apart)]
    exact point_zero digits
  | pointed before after =>
    rw [if_pos (by simp), List.append_nil]
    exact .pointed before after

theorem mem_pointedForm (h : Mantissa cs q) (point : '.' ∈ cs) : cs ∈ pointedForm.matches' := by
  cases h with
  | whole digits => exact absurd point (digits.not_mem (by decide))
  | @pointed ds fs before after =>
    exact mem_mul_iff.2 ⟨ds, mem_digits_iff.2 before, _, mem_char_mul_iff.2 ⟨fs, mem_digits_iff.2 after, rfl⟩, rfl⟩

end Mantissa

theorem mem_mantissaForm_iff : cs ∈ mantissaForm.matches' ↔ ∃ q, Mantissa cs q := by
  rw [mantissaForm, mem_mul_iff]
  constructor
  · rintro ⟨ds, whole, rest, part, rfl⟩
    rcases mem_perhaps_iff.1 part with rfl | part
    · rw [List.append_nil]
      exact ⟨_, .whole (mem_digits_iff.1 whole)⟩
    · obtain ⟨fs, after, rfl⟩ := mem_char_mul_iff.1 part
      exact ⟨_, .pointed (mem_digits_iff.1 whole) (mem_digits_iff.1 after)⟩
  · rintro ⟨q, mantissa⟩
    cases mantissa with
    | whole digits => exact ⟨cs, mem_digits_iff.2 digits, [], .inl rfl, List.append_nil cs⟩
    | @pointed ds fs before after =>
      exact ⟨ds, mem_digits_iff.2 before, _, .inr (mem_char_mul_iff.2 ⟨fs, mem_digits_iff.2 after, rfl⟩), rfl⟩

theorem Magnitude.exists_digit (h : Magnitude cs q) : ∃ c ds, cs = c :: ds ∧ c.isDigit = true := by
  cases h with
  | plain mantissa => exact mantissa.exists_digit
  | scaled mantissa _ =>
    obtain ⟨c, ds, rfl, digit⟩ := mantissa.exists_digit
    exact ⟨c, _, List.cons_append, digit⟩

theorem Magnitude.unique (h : Magnitude cs q) (h' : Magnitude cs r) : q = r := by
  cases h with
  | plain mantissa =>
    cases h' with
    | plain mantissa' => exact mantissa.unique mantissa'
    | scaled => exact absurd (List.mem_append_right _ List.mem_cons_self) mantissa.not_mem_mark
  | @scaled ds es q n mantissa exponent =>
    generalize text : ds ++ 'e' :: es = cs at h'
    cases h' with
    | plain mantissa' => exact absurd (text ▸ List.mem_append_right _ List.mem_cons_self) mantissa'.not_mem_mark
    | scaled mantissa' exponent' =>
      obtain ⟨rfl, rfl⟩ := Text.append_separator_inj mantissa.not_mem_mark mantissa'.not_mem_mark text
      obtain rfl := mantissa.unique mantissa'
      obtain rfl := exponent.unique exponent'
      rfl

namespace Denotes

theorem exists_digit (h : Denotes cs b q) : ∃ c ∈ cs, c.isDigit = true := by
  cases h with
  | plain magnitude =>
    obtain ⟨c, ds, rfl, digit⟩ := magnitude.exists_digit
    exact ⟨c, List.mem_cons_self, digit⟩
  | minus magnitude =>
    obtain ⟨c, ds, rfl, digit⟩ := magnitude.exists_digit
    exact ⟨c, List.mem_cons_of_mem _ List.mem_cons_self, digit⟩

theorem minus_iff : Denotes ('-' :: cs) b q ↔ b = true ∧ Magnitude cs q := by
  constructor
  · intro h
    cases h with
    | plain magnitude =>
      obtain ⟨c, ds, same, digit⟩ := magnitude.exists_digit
      obtain ⟨rfl, -⟩ := List.cons.inj same
      cases digit
    | minus magnitude => exact ⟨rfl, magnitude⟩
  · rintro ⟨rfl, magnitude⟩
    exact .minus magnitude

/-- a text denotes no two numbers, and not the same number with either sign -/
theorem unique (h : Denotes cs b q) (h' : Denotes cs b' r) : b = b' ∧ q = r := by
  cases h with
  | plain magnitude =>
    cases h' with
    | plain magnitude' => exact ⟨rfl, magnitude.unique magnitude'⟩
    | minus => cases (minus_iff.1 (.plain magnitude)).1
  | minus magnitude =>
    obtain ⟨rfl, magnitude'⟩ := minus_iff.1 h'
    exact ⟨rfl, magnitude.unique magnitude'⟩

/-- what denotes one number denotes nothing else -/
theorem iff_eq (h : Denotes cs b q) : Denotes cs b' r ↔ b' = b ∧ r = q :=
  ⟨fun other => other.unique h, fun ⟨sign, value⟩ => sign ▸ value ▸ h⟩

/-- words denote nothing -/
theorem not_of_word (word : cs.any Char.isDigit = false) : ¬ Denotes cs b q := by
  intro h
  obtain ⟨c, hc, digit⟩ := h.exists_digit
  exact absurd digit (by simpa using List.any_eq_false.1 word c hc)

end Denotes

/-! ## Completing -/

theorem completed_minus (cs : List Char) : Form.completed ('-' :: cs) = '-' :: Form.completed cs := by
  by_cases cut : 'e' ∈ cs
  · obtain ⟨ds, es, rfl, plain⟩ := List.eq_append_cons_of_mem cut
    have plain' : 'e' ∉ '-' :: ds := List.not_mem_cons_of_ne_of_not_mem (by decide) plain
    rw [Form.completed_append plain, ← List.cons_append, Form.completed_append plain']
    simp [Form.pointed]
  · have plain : 'e' ∉ '-' :: cs := List.not_mem_cons_of_ne_of_not_mem (by decide) cut
    rw [Form.completed_of_not_mem cut, Form.completed_of_not_mem plain]

/-- an exponent without a plus sign has the same value with one, unless it has a minus sign -/
theorem exponent_signed (form : es ∈ (perhaps (.char '-') * digits).matches') :
    Form.signed es ∈ (oneOf ['+', '-'] * digits).matches' ∧ ∃ n, Spells es n ∧ Spells (Form.signed es) n := by
  obtain ⟨sign, signs, ds, whole, rfl⟩ := mem_mul_iff.1 form
  have decimal := mem_digits_iff.1 whole
  have signed {k : Char} (hk : k ∈ ['+', '-']) : k :: ds ∈ (oneOf ['+', '-'] * digits).matches' :=
    mem_mul_iff.2 ⟨[k], mem_oneOf_iff.2 ⟨k, hk, rfl⟩, ds, whole, rfl⟩
  rcases mem_perhaps_iff.1 signs with rfl | rfl
  · have other : ds.head? ≠ some '-' := fun first => decimal.not_mem (by decide) (List.mem_of_head? first)
    rw [List.nil_append, Form.signed, if_neg other]
    exact ⟨signed (by simp), _, .plain decimal, .plus decimal⟩
  · rw [List.singleton_append, Form.signed, if_pos List.head?_cons, List.nil_append]
    exact ⟨signed (by simp), _, .minus decimal, .minus decimal⟩

theorem completed_unsigned (form : cs ∈ (scaledForm mantissaForm (perhaps (.char '-'))).matches')
    (mark : 'e' ∈ cs ∨ '.' ∈ cs) :
    Form.completed cs ∈ (scaledForm pointedForm (oneOf ['+', '-'])).matches' ∧
      ∃ q, Magnitude cs q ∧ Magnitude (Form.completed cs) q := by
  obtain ⟨ds, before, rest, part, rfl⟩ := mem_mul_iff.1 form
  obtain ⟨q, mantissa⟩ := mem_mantissaForm_iff.1 before
  -- so the first `e`, where the text is cut, is the one before the exponent
  have plain := mantissa.not_mem_mark
  rcases mem_perhaps_iff.1 part with rfl | part
  · rw [List.append_nil] at mark ⊢
    have pointed := mantissa.mem_pointedForm (mark.resolve_left plain)
    rw [Form.completed_of_not_mem plain]
    exact ⟨mem_mul_iff.2 ⟨ds, pointed, [], .inl rfl, List.append_nil ds⟩, q, .plain mantissa, .plain mantissa⟩
  · obtain ⟨es, exponent, rfl⟩ := mem_char_mul_iff.1 part
    obtain ⟨signed, n, spelled, spelled'⟩ := exponent_signed exponent
    have pointed := mantissa.pointed_of
    rw [Form.completed_append plain]
    refine ⟨mem_mul_iff.2 ⟨_, pointed.mem_pointedForm (Form.point_mem_pointed ds), _, .inr ?_, rfl⟩, _,
      .scaled mantissa spelled, .scaled pointed spelled'⟩
    exact mem_char_mul_iff.2 ⟨_, signed, rfl⟩

/-- **Completing keeps the number.** A text of the form of diagnoses, with a point or an exponent, has the form of
scalars once it is completed, and denotes the number that it denoted. -/
theorem completed_signed (form : cs ∈ diagnosticForm.matches') (mark : 'e' ∈ cs ∨ '.' ∈ cs) :
    Form.completed cs ∈ scalarForm.matches' ∧
      ∃ negative q, Denotes cs negative q ∧ Denotes (Form.completed cs) negative q := by
  obtain ⟨sign, signs, ds, unsigned, rfl⟩ := mem_mul_iff.1 form
  rcases mem_perhaps_iff.1 signs with rfl | rfl
  · obtain ⟨form', q, magnitude, magnitude'⟩ := completed_unsigned unsigned mark
    exact ⟨mem_mul_iff.2 ⟨[], .inl rfl, _, form', rfl⟩, false, q, .plain magnitude, .plain magnitude'⟩
  · have marked : 'e' ∈ ds ∨ '.' ∈ ds := by simpa using mark
    obtain ⟨form', q, magnitude, magnitude'⟩ := completed_unsigned unsigned marked
    rw [List.singleton_append, completed_minus]
    exact ⟨mem_mul_iff.2 ⟨['-'], .inr rfl, _, form', rfl⟩, true, q, .minus magnitude, .minus magnitude'⟩

end FloatText

/-! ## Finite numbers -/

theorem Binary64.finite_or (x : Binary64) : x.isFinite = true ∨ x.isNaN = true ∨ ∃ b, x = .infinity b := by
  by_cases special : x.exponent.val = 2047
  · by_cases none : x.fraction.val = 0
    · obtain ⟨negative, exponent, fraction⟩ := x
      obtain rfl : exponent = 2047 := Fin.ext special
      obtain rfl : fraction = 0 := Fin.ext none
      exact .inr (.inr ⟨negative, rfl⟩)
    · exact .inr (.inl (by simp [isNaN, special, none]))
  · exact .inl (by simp [isFinite, special])

/-! ## What a layout writes -/

namespace FloatLayout

open Integer (IsDecimal Spells)
open FloatText

variable {l : FloatLayout} {cs ds fs : List Char} {q : ℚ}

/-- what a layout writes for a magnitude: a mantissa, and perhaps an exponent -/
inductive Laid (l : FloatLayout) : List Char → ℚ → Prop where
  | positional {cs : List Char} {q : ℚ} : Mantissa cs q → Laid l cs q
  | scaled {cs : List Char} {q : ℚ} (n : Int) : Mantissa cs q →
    Laid l (cs ++ 'e' :: (l.exponent n).toList) (q * 10 ^ n)

/-- a sign and digits; where the number is not negative, the layout says whether there is a sign -/
theorem toList_exponent (l : FloatLayout) (n : Int) : (l.exponent n).toList =
    (if n < 0 then ['-'] else if l.exponentPlus then ['+'] else []) ++ (Nat.repr n.natAbs).toList := by
  unfold exponent Integer.text
  by_cases negative : n < 0
  · rw [if_neg (by omega), if_pos negative, if_pos negative, String.empty_append, String.toList_append]
    rfl
  · cases plus : l.exponentPlus with
    | false => simp [negative]
    | true => simp [negative, Int.not_lt.1 negative]

theorem spells_exponent (l : FloatLayout) (n : Int) : Spells (l.exponent n).toList n := by
  have decimal := Integer.isDecimal_repr n.natAbs
  have value := Integer.ofDigitChars_repr n.natAbs
  rw [toList_exponent]
  split_ifs with negative plus
  · have spelled := Spells.minus decimal
    rwa [value, show -(n.natAbs : Int) = n by omega] at spelled
  · have spelled := Spells.plus decimal
    rwa [value, show (n.natAbs : Int) = n by omega] at spelled
  · have spelled := Spells.plain decimal
    rwa [value, show (n.natAbs : Int) = n by omega] at spelled

theorem Laid.magnitude (h : Laid l cs q) : Magnitude cs q := by
  cases h with
  | positional mantissa => exact .plain mantissa
  | scaled n mantissa => exact .scaled mantissa (spells_exponent l n)

/-- a point among digits divides them by a power of ten -/
theorem mantissa_pointed (before : IsDecimal ds) (after : IsDecimal fs) :
    Mantissa (ds ++ '.' :: fs) (Nat.ofDigitChars 10 (ds ++ fs) 0 * 10 ^ (-(fs.length : Int))) := by
  have joined : (Nat.ofDigitChars 10 (ds ++ fs) 0 : ℚ) * 10 ^ (-(fs.length : Int)) =
      Nat.ofDigitChars 10 ds 0 + Nat.ofDigitChars 10 fs 0 / 10 ^ fs.length := by
    rw [Nat.ofDigitChars_append, Nat.ofDigitChars_eq_ofDigitChars_zero, zpow_neg, zpow_natCast]
    push_cast
    field_simp
  rw [joined]
  exact .pointed before after

/-- digits behind a zero, a point and more zeros -/
theorem mantissa_below (h : IsDecimal ds) (k : Nat) :
    Mantissa ('0' :: '.' :: (List.replicate k '0' ++ ds))
      (Nat.ofDigitChars 10 ds 0 * 10 ^ (-(k : Int) - ds.length)) := by
  have padded : IsDecimal (List.replicate k '0' ++ ds) :=
    h.of_subset (by simp [h.1]) fun c mem => (List.mem_append.1 mem).symm.imp_right List.eq_of_mem_replicate
  have value : Nat.ofDigitChars 10 (['0'] ++ (List.replicate k '0' ++ ds)) 0 = Nat.ofDigitChars 10 ds 0 := by
    simp [Nat.ofDigitChars_append, Nat.ofDigitChars_replicate_zero, Nat.ofDigitChars_cons]
  have places : -((List.replicate k '0' ++ ds).length : Int) = -k - ds.length := by simp; omega
  have mantissa := mantissa_pointed Integer.isDecimal_zero padded
  rw [value, places] at mantissa
  exact mantissa

/-- digits before more zeros, with or without `.0` at the end -/
theorem mantissa_above (h : IsDecimal ds) (k : Nat) (wholePoint : Bool) :
    Mantissa (ds ++ List.replicate k '0' ++ if wholePoint then ['.', '0'] else [])
      (Nat.ofDigitChars 10 ds 0 * 10 ^ k) := by
  have padded : IsDecimal (ds ++ List.replicate k '0') :=
    h.of_subset (by simp [h.1]) fun c mem => (List.mem_append.1 mem).imp_right List.eq_of_mem_replicate
  have value : (Nat.ofDigitChars 10 (ds ++ List.replicate k '0') 0 : ℚ) = Nat.ofDigitChars 10 ds 0 * 10 ^ k := by
    rw [Nat.ofDigitChars_append, Nat.ofDigitChars_replicate_zero, Nat.mul_comm]
    push_cast
    rfl
  rw [← value]
  cases wholePoint with
  | false => simpa using Mantissa.whole padded
  | true => exact .point_zero padded

/-- digits on both sides of a point -/
theorem mantissa_among (h : IsDecimal ds) {k : Nat} (some : 0 < k) (few : k < ds.length) :
    Mantissa (ds.take k ++ '.' :: ds.drop k) (Nat.ofDigitChars 10 ds 0 * 10 ^ ((k : Int) - ds.length)) := by
  have first : IsDecimal (ds.take k) :=
    h.of_subset (by simp [h.1]; omega) fun c mem => .inl (List.mem_of_mem_take mem)
  have later : IsDecimal (ds.drop k) :=
    h.of_subset (by simp; omega) fun c mem => .inl (List.mem_of_mem_drop mem)
  have places : -((ds.drop k).length : Int) = k - ds.length := by simp; omega
  have mantissa := mantissa_pointed first later
  rwa [List.take_append_drop, places] at mantissa

/-- wherever the point is put, what is written are the digits times a power of ten -/
theorem mantissa_point {digits : String} (decimal : IsDecimal digits.toList) (wholePoint : Bool) (n : Int) :
    Mantissa (point wholePoint digits n).toList (Nat.ofDigitChars 10 digits.toList 0 * 10 ^ (n - digits.length)) := by
  rw [← String.length_toList]
  generalize chars : digits.toList = ds at decimal
  rw [point, chars]
  by_cases before : n ≤ 0
  · obtain ⟨k, rfl⟩ := Int.exists_eq_neg_ofNat before
    simpa [chars, before] using mantissa_below decimal k
  by_cases whole : (ds.length : Int) ≤ n
  · obtain ⟨k, rfl⟩ := Int.exists_add_of_le whole
    have places : ((ds.length : Int) + k).toNat - ds.length = k := by omega
    have final : (if wholePoint then ".0" else "").toList = if wholePoint then ['.', '0'] else [] := by
      cases wholePoint <;> rfl
    rw [if_neg before, if_pos whole]
    simpa [chars, places, final] using mantissa_above decimal k wholePoint
  · obtain ⟨k, rfl⟩ := Int.eq_ofNat_of_zero_le (Int.not_le.1 before).le
    rw [if_neg before, if_neg whole]
    simpa using mantissa_among decimal (by omega) (by omega)

/-- a layout writes the decimal it is given -/
theorem laid_magnitude (l : FloatLayout) (d : Shortest.Decimal) : Laid l (l.magnitude d).toList d.toRat := by
  obtain ⟨n, first⟩ : ∃ n, n = d.exponent + (Nat.repr d.digits).length - 1 := ⟨_, rfl⟩
  have pointed (wholePoint : Bool) (k : Int) :
      Mantissa (point wholePoint (Nat.repr d.digits) k).toList (d.digits * 10 ^ (k - (Nat.repr d.digits).length)) := by
    have shown := mantissa_point (Integer.isDecimal_repr d.digits) wholePoint k
    rwa [Integer.ofDigitChars_repr] at shown
  -- the first digit counts `10 ^ n`: `n + 1` digits stand before the point, or just one if an exponent says so
  rcases l.magnitude_eq_or d first with text | text
  · have places : n + 1 - (Nat.repr d.digits).length = d.exponent := by omega
    have shown := pointed l.wholePoint (n + 1)
    rw [places] at shown
    rw [text]
    exact .positional shown
  · have value : d.toRat = d.digits * 10 ^ (1 - (Nat.repr d.digits).length : Int) * 10 ^ n := by
      have sum : 1 - ((Nat.repr d.digits).length : Int) + n = d.exponent := by omega
      rw [Shortest.Decimal.toRat, mul_assoc, ← zpow_add₀ (by norm_num), sum]
    have laid := Laid.scaled (l := l) n (pointed false 1)
    rw [text, value]
    simpa using laid

/-! ## Diagnoses -/

variable {x : Binary64}

/-- the text of a finite float denotes its shortest decimal, with its sign -/
theorem denotes_write (l : FloatLayout) (finite : x.isFinite = true) :
    Denotes (l.write x).toList x.negative (Shortest.ofBinary64 l.tie x).toRat := by
  have magnitude := (l.laid_magnitude (Shortest.ofBinary64 l.tie x)).magnitude
  rw [l.write_of_isFinite finite]
  cases x.negative with
  | false => exact .plain magnitude
  | true => exact .minus magnitude

theorem Laid.mem_scaledForm (h : Laid diagnostic cs q) :
    cs ∈ (scaledForm mantissaForm (perhaps (.char '-'))).matches' := by
  refine mem_mul_iff.2 ?_
  cases h with
  | positional mantissa => exact ⟨cs, mem_mantissaForm_iff.2 ⟨q, mantissa⟩, [], .inl rfl, List.append_nil cs⟩
  | @scaled ds r n mantissa =>
    refine ⟨ds, mem_mantissaForm_iff.2 ⟨r, mantissa⟩, _, .inr (mem_char_mul_iff.2 ⟨_, ?_, rfl⟩), rfl⟩
    rw [toList_exponent]
    refine mem_mul_iff.2 ⟨_, ?_, _, mem_digits_iff.2 (Integer.isDecimal_repr _), rfl⟩
    split
    · exact mem_perhaps_iff.2 (.inr rfl)
    · exact mem_perhaps_iff.2 (.inl rfl)

theorem mem_diagnosticForm (finite : x.isFinite = true) : (diagnostic.write x).toList ∈ diagnosticForm.matches' := by
  rw [diagnostic.write_of_isFinite finite]
  refine mem_mul_iff.2 ⟨_, mem_perhaps_iff.2 ?_, _, (diagnostic.laid_magnitude _).mem_scaledForm, rfl⟩
  cases x.negative with
  | false => exact .inl rfl
  | true => exact .inr rfl

/-- what is not finite is diagnosed by a word -/
theorem diagnostic_mem_words (h : x.isFinite ≠ true) : diagnostic.write x ∈ ["inf", "-inf", "NaN"] := by
  rcases x.finite_or.resolve_left h with nan | ⟨b, rfl⟩
  · simp [write, nan, diagnostic]
  · cases b <;> decide

end FloatLayout

/-! ## Scalars -/

namespace Form

open FloatText FloatLayout

variable {x : Binary64}

theorem float_of_isFinite (finite : x.isFinite = true) :
    (float x).toList = completed (diagnostic.write x).toList := by
  rw [float, if_neg (by simp [Binary64.not_isNaN finite]), if_neg (by simp [finite]), String.toList_ofList]

theorem float_of_isNaN (nan : x.isNaN = true) : float x = ".nan" := if_pos nan

theorem float_mem_words (h : x.isFinite ≠ true) : float x ∈ [".inf", "-.inf", ".nan"] := by
  rcases x.finite_or.resolve_left h with nan | ⟨b, rfl⟩
  · simp [float_of_isNaN nan]
  · cases b <;> decide

theorem float_completed (finite : x.isFinite = true) :
    (float x).toList ∈ scalarForm.matches' ∧
      Denotes (float x).toList x.negative (Shortest.ofBinary64 .up x).toRat := by
  have shown := diagnostic.denotes_write finite
  obtain ⟨form, negative, q, denotes, kept⟩ := completed_signed (mem_diagnosticForm finite) (mark_mem_diagnostic finite)
  obtain ⟨rfl, rfl⟩ := denotes.unique shown
  rw [float_of_isFinite finite]
  exact ⟨form, kept⟩

/-- the words are for what is not finite alone -/
theorem float_eq_iff (x : Binary64) :
    (float x = ".inf" ↔ x = .infinity false) ∧ (float x = "-.inf" ↔ x = .infinity true) ∧
      (float x = ".nan" ↔ x.isNaN = true) := by
  rcases x.finite_or with finite | nan | ⟨b, rfl⟩
  · have apart (word : String) (other : word.toList ∉ scalarForm.matches') : float x ≠ word := fun same =>
      other (same ▸ (float_completed finite).1)
    have bounded (b : Bool) : x ≠ .infinity b := fun same => by rw [same] at finite; cases finite
    have number : x.isNaN ≠ true := by simp [Binary64.not_isNaN finite]
    exact ⟨iff_of_false (apart _ (by decide)) (bounded _), iff_of_false (apart _ (by decide)) (bounded _),
      iff_of_false (apart _ (by decide)) number⟩
  · have bounded (b : Bool) : x ≠ .infinity b := fun same => by rw [same] at nan; cases nan
    rw [float_of_isNaN nan]
    exact ⟨iff_of_false (by decide) (bounded _), iff_of_false (by decide) (bounded _), iff_of_true rfl nan⟩
  · cases b <;> decide

end Form

/-! ## Main result -/

open FloatText FloatLayout

/-- **A float in a form stays a float.** Cut at the exponent and completed on both sides, any text of the form of
diagnoses with a point or an exponent has the form of scalars, and both texts denote one number, of one sign, and no
other. Just the finite floats are diagnosed by such texts, and just these are shown in a form as documents write floats.
Their texts denote the shortest decimal of the float, with its sign, and no other number. No float is shown as an
integer, and the words for the infinities and for what is no number are shown for these alone. -/
theorem float_scalar_stays_float :
    (∀ cs ∈ diagnosticForm.matches', ('e' ∈ cs ∨ '.' ∈ cs) → Form.completed cs ∈ scalarForm.matches' ∧
      ∃ negative q, ∀ text ∈ [cs, Form.completed cs], ∀ b r, Denotes text b r ↔ b = negative ∧ r = q) ∧
    ∀ x : Binary64,
      ((diagnostic.write x).toList ∈ diagnosticForm.matches' ∧
        ('e' ∈ (diagnostic.write x).toList ∨ '.' ∈ (diagnostic.write x).toList) ↔ x.isFinite = true) ∧
      ((Form.scalar (.float x)).toList ∈ scalarForm.matches' ↔ x.isFinite = true) ∧
      (∀ text ∈ [diagnostic.write x, Form.scalar (.float x)], ∀ negative q, Denotes text.toList negative q ↔
        x.isFinite = true ∧ negative = x.negative ∧ q = (Shortest.ofBinary64 .up x).toRat) ∧
      (∀ n, ¬ Integer.Spells (Form.scalar (.float x)).toList n) ∧
      (Form.scalar (.float x) = ".inf" ↔ x = .infinity false) ∧
      (Form.scalar (.float x) = "-.inf" ↔ x = .infinity true) ∧
      (Form.scalar (.float x) = ".nan" ↔ x.isNaN = true) := by
  constructor
  · intro cs form mark
    obtain ⟨form', negative, q, denotes, kept⟩ := completed_signed form mark
    refine ⟨form', negative, q, fun text mem b r => ?_⟩
    obtain rfl | rfl : text = cs ∨ text = Form.completed cs := by simpa using mem
    · exact denotes.iff_eq
    · exact kept.iff_eq
  · intro x
    have diagnosed : (∀ word ∈ ["inf", "-inf", "NaN"], word.toList ∉ diagnosticForm.matches') ∧
      ∀ word ∈ ["inf", "-inf", "NaN"], word.toList.any Char.isDigit = false := by decide
    have rendered : (∀ word ∈ [".inf", "-.inf", ".nan"], word.toList ∉ scalarForm.matches') ∧
      ∀ word ∈ [".inf", "-.inf", ".nan"], word.toList.any Char.isDigit = false := by decide
    refine ⟨⟨fun form => ?_, fun finite => ⟨mem_diagnosticForm finite, Form.mark_mem_diagnostic finite⟩⟩,
      ⟨fun form => ?_, fun finite => (Form.float_completed finite).1⟩, ?_,
      fun n spelled => spelled.not_mem_point (Form.point_mem_float x), Form.float_eq_iff x⟩
    · exact of_not_not fun infinite => diagnosed.1 _ (diagnostic_mem_words infinite) form.1
    · exact of_not_not fun infinite => rendered.1 _ (Form.float_mem_words infinite) form
    · intro text mem negative q
      by_cases finite : x.isFinite = true
      · have denotes : Denotes text.toList x.negative (Shortest.ofBinary64 .up x).toRat := by
          rcases List.mem_pair.1 mem with rfl | rfl
          · exact diagnostic.denotes_write finite
          · exact (Form.float_completed finite).2
        rw [denotes.iff_eq, and_iff_right finite]
      · refine iff_of_false (Denotes.not_of_word ?_) fun h => finite h.1
        rcases List.mem_pair.1 mem with rfl | rfl
        · exact diagnosed.2 _ (diagnostic_mem_words finite)
        · exact rendered.2 _ (Form.float_mem_words finite)

/-- a text that is completed before its exponent only -/
theorem float_scalar_stays_float_scaled :
    let text := "-12e-7".toList
    text ∈ diagnosticForm.matches' ∧ ('e' ∈ text ∨ '.' ∈ text) ∧ Form.completed text = "-12.0e-7".toList ∧
      "-12.0e-7".toList ∈ scalarForm.matches' ∧ Denotes "-12.0e-7".toList true (12 * 10 ^ (-7 : Int)) := by
  intro text
  have form : text ∈ diagnosticForm.matches' := by decide +kernel
  have mark : 'e' ∈ text ∨ '.' ∈ text := by decide +kernel
  have same : Form.completed text = "-12.0e-7".toList := by decide +kernel
  have number : Denotes text true (12 * 10 ^ (-7 : Int)) := by
    have mantissa := Mantissa.whole (Integer.isDecimal_repr 12)
    have exponent := Integer.Spells.minus (Integer.isDecimal_repr 7)
    rw [Integer.ofDigitChars_repr] at mantissa exponent
    exact .minus (.scaled mantissa exponent)
  obtain ⟨form', negative, q, denotes⟩ := float_scalar_stays_float.1 text form mark
  obtain ⟨sign, value⟩ := (denotes text (by simp) _ _).1 number
  refine ⟨form, mark, same, same ▸ form', ?_⟩
  rw [← same]
  exact (denotes (Form.completed text) (by simp) _ _).2 ⟨sign, value⟩

/-- a power of ten: a diagnosis has a single digit before the `e` and no sign after it, a form has a point and a sign -/
example : let x : Binary64 := ⟨false, 1076, 0x1C37937E08000⟩
    diagnostic.write x = "1e16" ∧ Form.scalar (.float x) = "1.0e+16" := by
  decide +kernel

end Trialbook
