/-
COERCIONS: which raw texts a parameter takes, and that showing what it took changes nothing.

A text is written for a value (`Value.WrittenAs`) when it is the value itself, spells the integer (`Integer.Spells`: an
optional sign, then decimal digits, leading zeros among them), or is one of the two words for a truth value. Several
texts are written for one integer; the shown one is one of them.

Results:
- `Integer.readInt64?_eq_some_iff`: an integer of sixty-four bits is read from its spellings and from nothing else.
- `Kind.read?_eq_some_iff`: a value that is no float is read from the texts that are written for it.
- `coercion_settles`: what a parameter takes, and that it takes it again as it is shown.
-/
import Mathlib.Tactic
import Trialbook.Proofs.CheckedDrafts

namespace Trialbook

/-! ## Spellings of integers -/

namespace Integer

/-- one or more decimal digits -/
def IsDecimal (ds : List Char) : Prop := ds ≠ [] ∧ ∀ c ∈ ds, c.isDigit = true

/-- decimal digits, with or without a sign in front of them, spell an integer -/
inductive Spells : List Char → Int → Prop where
  | plain {ds : List Char} : IsDecimal ds → Spells ds (Nat.ofDigitChars 10 ds 0)
  | plus {ds : List Char} : IsDecimal ds → Spells ('+' :: ds) (Nat.ofDigitChars 10 ds 0)
  | minus {ds : List Char} : IsDecimal ds → Spells ('-' :: ds) (-(Nat.ofDigitChars 10 ds 0 : Int))

theorem digit?_of_isDigit {c : Char} (h : c.isDigit = true) : digit? 10 c = some (c.toNat - '0'.toNat) := by
  have range : '0' ≤ c ∧ c ≤ '9' := by
    simpa [Char.isDigit, Char.le_def, UInt32.le_iff_toNat_le] using h
  have bound := (Char.isDigit_iff_toNat.1 h).2
  have value : digitValue c = c.toNat - '0'.toNat := if_pos range
  have small : c.toNat - '0'.toNat < 10 := by
    have nine : '9'.toNat = '0'.toNat + 9 := rfl
    omega
  rw [digit?, value, if_pos small]

theorem isDigit_of_digit? {c : Char} {n : Nat} (h : digit? 10 c = some n) : c.isDigit = true := by
  unfold digit? digitValue at h
  split_ifs at h with range
  · simpa [Char.isDigit, Char.le_def, UInt32.le_iff_toNat_le] using range
  all_goals omega

/-- decimal digits are read as the number that they denote, most significant first -/
theorem natural?_of_isDecimal {cs : List Char} (h : IsDecimal cs) :
    natural? 10 cs = some (Nat.ofDigitChars 10 cs 0) := by
  have each : cs.mapM (digit? 10) = some (cs.map fun c => c.toNat - '0'.toNat) :=
    mapM_eq_some_iff.2 (List.forall₂_map_right_iff.2
      (List.forall₂_same.2 fun c hc => digit?_of_isDigit (h.2 c hc)))
  rw [natural?, if_neg (by simpa using h.1), each, Option.map_some, ofDigits, List.foldl_map, Nat.ofDigitChars]
  simp only [Nat.mul_comm]

theorem isDecimal_of_natural? {cs : List Char} {n : Nat} (h : natural? 10 cs = some n) : IsDecimal cs := by
  unfold natural? at h
  split_ifs at h with empty
  obtain ⟨digits, each, -⟩ := Option.map_eq_some_iff.1 h
  refine ⟨by simpa using empty, fun c hc => ?_⟩
  obtain ⟨d, -, digit⟩ := exists_mem_of_forall₂ (mapM_eq_some_iff.1 each).flip hc
  exact isDigit_of_digit? digit

theorem natural?_eq_some_iff {cs : List Char} {n : Nat} :
    natural? 10 cs = some n ↔ IsDecimal cs ∧ Nat.ofDigitChars 10 cs 0 = n := by
  constructor
  · intro read
    have decimal := isDecimal_of_natural? read
    rw [natural?_of_isDecimal decimal] at read
    exact ⟨decimal, Option.some.inj read⟩
  · rintro ⟨decimal, rfl⟩
    exact natural?_of_isDecimal decimal

theorem signed?_plus (cs : List Char) : signed? 10 ('+' :: cs) = (natural? 10 cs).map fun (n : Nat) => (n : Int) := by
  rw [signed?]
  cases natural? 10 cs <;> rfl

theorem signed?_minus (cs : List Char) : signed? 10 ('-' :: cs) = (natural? 10 cs).map fun (n : Nat) => -(n : Int) := by
  rw [signed?]
  cases natural? 10 cs <;> rfl

/-- a text that begins with no sign -/
theorem signed?_plain {cs : List Char} (plus : cs.head? ≠ some '+') (minus : cs.head? ≠ some '-') :
    signed? 10 cs = (natural? 10 cs).map fun (n : Nat) => (n : Int) := by
  unfold signed?
  split
  · exact absurd rfl minus
  · exact absurd rfl plus
  · cases natural? 10 cs <;> rfl

theorem signed?_eq_some_iff {cs : List Char} {n : Int} : signed? 10 cs = some n ↔ Spells cs n := by
  constructor
  · intro read
    by_cases minus : cs.head? = some '-'
    · obtain ⟨ds, rfl⟩ := List.head?_eq_some_iff.1 minus
      rw [signed?_minus] at read
      obtain ⟨m, digits, rfl⟩ := Option.map_eq_some_iff.1 read
      obtain ⟨decimal, rfl⟩ := natural?_eq_some_iff.1 digits
      exact .minus decimal
    by_cases plus : cs.head? = some '+'
    · obtain ⟨ds, rfl⟩ := List.head?_eq_some_iff.1 plus
      rw [signed?_plus] at read
      obtain ⟨m, digits, rfl⟩ := Option.map_eq_some_iff.1 read
      obtain ⟨decimal, rfl⟩ := natural?_eq_some_iff.1 digits
      exact .plus decimal
    · rw [signed?_plain plus minus] at read
      obtain ⟨m, digits, rfl⟩ := Option.map_eq_some_iff.1 read
      obtain ⟨decimal, rfl⟩ := natural?_eq_some_iff.1 digits
      exact .plain decimal
  · intro spelled
    cases spelled with
    | plain decimal =>
      have sign {c : Char} (first : cs.head? = some c) : c.isDigit = true := decimal.2 c (List.mem_of_head? first)
      rw [signed?_plain (fun plus => absurd (sign plus) (by decide)) (fun minus => absurd (sign minus) (by decide)),
        natural?_eq_some_iff.2 ⟨decimal, rfl⟩]
      rfl
    | plus decimal => rw [signed?_plus, natural?_eq_some_iff.2 ⟨decimal, rfl⟩]; rfl
    | minus decimal => rw [signed?_minus, natural?_eq_some_iff.2 ⟨decimal, rfl⟩]; rfl

theorem int64?_eq_some_iff {n : Int} {i : Int64} : int64? n = some i ↔ i.toInt = n := by
  constructor
  · intro fits
    unfold int64? at fits
    split_ifs at fits with range
    cases fits
    have greatest : Int64.maxValue.toInt = 2 ^ 63 - 1 := rfl
    exact Int64.toInt_ofInt_of_le range.1 (by omega)
  · rintro rfl
    rw [int64?, if_pos ⟨i.minValue_le_toInt, i.toInt_le⟩, Int64.ofInt_toInt]

/-- the range of sixty-four bits -/
theorem exists_toInt_iff {n : Int} : (∃ i : Int64, i.toInt = n) ↔ -2 ^ 63 ≤ n ∧ n ≤ 2 ^ 63 - 1 := by
  constructor
  · rintro ⟨i, rfl⟩
    exact ⟨i.minValue_le_toInt, i.toInt_le⟩
  · rintro ⟨lower, upper⟩
    exact ⟨.ofInt n, Int64.toInt_ofInt_of_le lower (by omega)⟩

theorem ne_minValue_iff {i : Int64} : i ≠ Int64.minValue ↔ -2 ^ 63 < i.toInt := by
  have least : Int64.minValue.toInt = -2 ^ 63 := rfl
  have lower := i.minValue_le_toInt
  rw [Ne, ← Int64.toInt_inj]
  omega

/-- every spelling of an integer of sixty-four bits is read, and nothing else -/
theorem readInt64?_eq_some_iff {cs : List Char} {i : Int64} : readInt64? cs = some i ↔ Spells cs i.toInt := by
  simp only [readInt64?, Option.bind_eq_some_iff, int64?_eq_some_iff, exists_eq_right', signed?_eq_some_iff]

theorem isDecimal_repr (n : Nat) : IsDecimal (Nat.repr n).toList := by
  rw [Nat.toList_repr]
  exact ⟨Nat.toDigits_ne_nil, fun c hc => Nat.isDigit_of_mem_toDigits (by decide) (by decide) hc⟩

/-- the text of an integer is one of its spellings -/
theorem spells_text (n : Int) : Spells (text n).toList n := by
  have digits : Nat.ofDigitChars 10 (Nat.repr n.natAbs).toList 0 = n.natAbs := by
    rw [Nat.toList_repr, Nat.ofDigitChars_toDigits (by decide) (by decide)]
  unfold text
  split_ifs with negative
  · have spelled := Spells.minus (isDecimal_repr n.natAbs)
    rw [digits, show -(n.natAbs : Int) = n by omega] at spelled
    rwa [String.toList_append]
  · have spelled := Spells.plain (isDecimal_repr n.natAbs)
    rwa [digits, show (n.natAbs : Int) = n by omega] at spelled

end Integer

/-! ## Values read back -/

namespace Value

variable {v w : Value} {vs : List Value}

/-- but for floats, being the same is being equal -/
theorem same_iff (exact : v.kind ≠ .float) : v.same w = true ↔ v = w := by
  cases v with
  | float x => exact absurd rfl exact
  | _ => cases w <;> simp [same]

theorem isIn_iff (exact : v.kind ≠ .float) : v.isIn vs = true ↔ v ∈ vs := by
  simp [isIn_eq_true_iff, same_iff exact]

/-- a text that is written for a value -/
inductive WrittenAs : Value → String → Prop where
  | str (s : String) : WrittenAs (.str s) s
  | int {i : Int64} {s : String} : Integer.Spells s.toList i.toInt → WrittenAs (.int i) s
  | true : WrittenAs (.bool true) "true"
  | false : WrittenAs (.bool false) "false"

/-- the text that shows a value is one that is written for it -/
theorem writtenAs_shown (exact : v.kind ≠ .float) : v.WrittenAs v.shown := by
  cases v with
  | str s => exact .str s
  | int i => exact .int (Integer.spells_text i.toInt)
  | float x => exact absurd rfl exact
  | bool b =>
    cases b with
    | true => exact .true
    | false => exact .false

end Value

/-- but for floats, a kind reads the values that a text is written for -/
theorem Kind.read?_eq_some_iff {k : Kind} {raw : String} {v : Value} (exact : k ≠ .float) :
    k.read? raw = some v ↔ v.kind = k ∧ v.WrittenAs raw := by
  constructor
  · intro read
    refine ⟨Kind.kind_of_read? read, ?_⟩
    cases k with
    | str => cases read; exact .str raw
    | int =>
      obtain ⟨i, spelled, rfl⟩ := Option.map_eq_some_iff.1 read
      exact .int (Integer.readInt64?_eq_some_iff.1 spelled)
    | float => exact absurd rfl exact
    | bool =>
      simp only [read?] at read
      split_ifs at read with yes no
      · cases read; exact yes ▸ .true
      · cases read; exact no ▸ .false
  · rintro ⟨rfl, written⟩
    cases written with
    | str s => rfl
    | int spelled => exact Option.map_eq_some_iff.2 ⟨_, Integer.readInt64?_eq_some_iff.2 spelled, rfl⟩
    | true => rfl
    | false => rfl

/-! ## Raw texts taken -/

namespace Spec

variable {p : Spec} {raw : String} {v : Value}

/-- but for floats, a parameter takes the texts written for a value of its kind that is one of its options -/
theorem accept_eq_ok_iff (exact : p.kind ≠ .float) :
    p.accept raw = .ok v ↔ v.kind = p.kind ∧ v.WrittenAs raw ∧ (p.options = [] ∨ v ∈ p.options) := by
  rw [← and_assoc, ← Kind.read?_eq_some_iff exact]
  unfold accept
  cases read : p.kind.read? raw with
  | none => simp
  | some w =>
    have own : w.kind ≠ .float := Kind.kind_of_read? read ▸ exact
    simp only [Option.some.injEq, Bool.or_eq_true, List.isEmpty_iff, Value.isIn_iff own]
    split_ifs with fits
    · rw [Except.ok.injEq]
      exact ⟨fun same => ⟨same, same ▸ fits⟩, And.left⟩
    · refine iff_of_false (fun refused => nomatch refused) ?_
      rintro ⟨rfl, taken⟩
      exact fits taken

theorem accept_shown (exact : p.kind ≠ .float) (kind : v.kind = p.kind) (among : p.options = [] ∨ v ∈ p.options) :
    p.accept v.shown = .ok v :=
  (accept_eq_ok_iff exact).2 ⟨kind, Value.writtenAs_shown (kind ▸ exact), among⟩

namespace Sound

theorem accept_option (h : p.Sound) (exact : p.kind ≠ .float) (offered : v ∈ p.options) : p.accept v.shown = .ok v :=
  accept_shown exact (h.options v offered) (.inr offered)

theorem accept_default (h : p.Sound) (exact : p.kind ≠ .float) (default : p.default = some v) :
    p.accept v.shown = .ok v := by
  have kind := h.default v default
  refine accept_shown exact kind (or_iff_not_imp_left.2 fun options => ?_)
  obtain ⟨w, chosen, among⟩ := h.among options
  obtain rfl : w = v := Option.some.inj (chosen.symm.trans default)
  exact among.elim (Value.isIn_iff (kind ▸ exact)).1 id

end Sound

end Spec

/-- **What a parameter took, it takes again as it is shown.** A parameter of texts, integers or truth values takes the
texts that are written for a value of its kind, one of its options if it has any: for an integer, every spelling of it.
The value that it took, its default and each of its options are taken as they are shown, and stay what they are. -/
theorem coercion_settles (d : Draft) (p : Spec) (checked : d.spec = .ok p) (exact : p.kind ≠ .float) :
    (∀ raw v, p.accept raw = .ok v ↔ v.kind = p.kind ∧ v.WrittenAs raw ∧ (p.options = [] ∨ v ∈ p.options)) ∧
      (∀ raw v, p.accept raw = .ok v → p.accept v.shown = .ok v) ∧
      ∀ v, p.default = some v ∨ v ∈ p.options → p.accept v.shown = .ok v := by
  have sound := Draft.sound_of_spec checked
  refine ⟨fun raw v => Spec.accept_eq_ok_iff exact, fun raw v taken => ?_, fun v own => ?_⟩
  · obtain ⟨kind, -, among⟩ := (Spec.accept_eq_ok_iff exact).1 taken
    exact Spec.accept_shown exact kind among
  · rcases own with default | offered
    · exact sound.accept_default exact default
    · exact sound.accept_option exact offered

/-- an integer, zero unless it is given -/
def offsetDraft : Draft := ⟨"offset", none, some (.int 0), none, false, none⟩

/-- a spelling of the least integer with zeros in front, and one of the default with a sign -/
theorem coercion_settles_least : ∃ p, offsetDraft.spec = .ok p ∧ p.kind ≠ .float ∧
    p.accept "-0009223372036854775808" = .ok (.int Int64.minValue) ∧
    p.accept "-9223372036854775808" = .ok (.int Int64.minValue) ∧
    (Value.int 0).WrittenAs "+00" ∧ p.accept "+00" = .ok (.int 0) ∧ p.accept "0" = .ok (.int 0) := by
  let p : Spec := ⟨"offset", .int, some (.int 0), false, none, []⟩
  have checked : offsetDraft.spec = .ok p := by decide +kernel
  have exact : p.kind ≠ .float := by decide
  obtain ⟨taken, again, own⟩ := coercion_settles offsetDraft p checked exact
  have least : p.accept "-0009223372036854775808" = .ok (.int Int64.minValue) := by decide +kernel
  have zero : p.accept "+00" = .ok (.int 0) := by decide +kernel
  have shown : (Value.int Int64.minValue).shown = "-9223372036854775808" := by decide +kernel
  exact ⟨p, checked, exact, least, shown ▸ again _ _ least, ((taken _ _).1 zero).2.1, zero, own (.int 0) (.inl rfl)⟩

end Trialbook
