/-
FORM SCALARS: what a scalar of a form tells about the value it is written for.

A quoted scalar is read back character by character (`Form.readChar`), so it tells its text and where it ends. All
other scalars are bare (`Form.isBare`): they have no quote and no comma. The kind of a value can be told from its scalar
by whether there is a quote, a point or an `e` in it (`Form.kindOf`).

Results:
- `Form.quote_append_inj`: a quoted scalar tells its text, whatever follows.
- `FloatLayout.magnitude_eq_or`: the two ways in which a layout writes a magnitude.
- `Form.completed_append`, `Form.completed_of_not_mem`: what completing a number adds to it, at the exponent or nowhere.
- `Form.plain_scalar`: a scalar has only characters that stand for themselves, so no line break.
- `Form.alike_of_scalar_eq`: values with the same scalar are alike.
- `Form.map_scalar_inj`: scalars with commas between them can be told apart.
-/
import Mathlib.Data.List.Forall2
import Mathlib.Data.List.TakeWhile
import Trialbook.Param.Form

namespace Trialbook

/-- the same value, or floats that a form writes alike -/
def Value.Alike : Value → Value → Prop
  | .float x, .float y => Form.float x = Form.float y
  | v, w => v = w

theorem Value.Alike.kind {v w : Value} (h : v.Alike w) : v.kind = w.kind := by
  cases v with
  | float x =>
    cases w with
    | float y => rfl
    | _ => cases h
  | str s => rw [← show Value.str s = w from h]
  | int i => rw [← show Value.int i = w from h]
  | bool b => rw [← show Value.bool b = w from h]

/-! ## Texts -/

namespace Text

/-- a text can be told from what follows it, when that starts with a character that the text does not have -/
theorem append_separator_inj {separator : Char} {cs ds rest rest' : List Char} (hc : separator ∉ cs)
    (hd : separator ∉ ds) (h : cs ++ separator :: rest = ds ++ separator :: rest') : cs = ds ∧ rest = rest' := by
  induction cs generalizing ds with
  | nil =>
    cases ds with
    | nil => exact ⟨rfl, (List.cons.inj h).2⟩
    | cons d ds => exact absurd ((List.cons.inj h).1 ▸ List.mem_cons_self) hd
  | cons c cs ih =>
    cases ds with
    | nil => exact absurd ((List.cons.inj h).1 ▸ List.mem_cons_self) hc
    | cons d ds =>
      obtain ⟨rfl, next⟩ := List.cons.inj h
      obtain ⟨rfl, more⟩ := ih (mt (List.mem_cons_of_mem c) hc) (mt (List.mem_cons_of_mem c) hd) next
      exact ⟨rfl, more⟩

theorem hexDigit_eq (n : Nat) : hexDigit n = hexDigit (Fin.ofNat 16 n) := by
  simp [hexDigit]

theorem digitValue_hexDigit (n : Nat) : Integer.digitValue (hexDigit n) = n % 16 := by
  have value : ∀ k : Fin 16, Integer.digitValue (hexDigit k) = k := by decide
  rw [hexDigit_eq]
  exact value (Fin.ofNat 16 n)

theorem length_hexDigits (width n : Nat) : (hexDigits width n).length = width := by
  induction width generalizing n with
  | zero => rfl
  | succ width ih => rw [hexDigits, List.length_append, ih, List.length_singleton]

theorem eq_hexDigit_of_mem {width n : Nat} {c : Char} (h : c ∈ hexDigits width n) : ∃ k : Fin 16, c = hexDigit k := by
  induction width generalizing n with
  | zero => cases h
  | succ width ih =>
    rcases List.mem_append.1 h with before | last
    · exact ih before
    · exact ⟨Fin.ofNat 16 n, (List.mem_singleton.1 last).trans (hexDigit_eq n)⟩

theorem ofDigits_hexDigits (width n : Nat) :
    Integer.ofDigits 16 ((hexDigits width n).map Integer.digitValue) = n % Nat.pow 16 width := by
  induction width generalizing n with
  | zero => exact (Nat.mod_one n).symm
  | succ width ih =>
    have before := ih (n / 16)
    rw [Integer.ofDigits] at before ⊢
    have power : Nat.pow 16 (width + 1) = 16 * Nat.pow 16 width := Nat.mul_comm _ _
    rw [hexDigits, List.map_append, List.foldl_append, before, List.map_singleton, List.foldl_cons, List.foldl_nil,
      digitValue_hexDigit, power, Nat.mod_mul]
    omega

end Text

/-! ## Texts of floats -/

theorem Binary64.not_isNaN {x : Binary64} (finite : x.isFinite = true) : x.isNaN = false := by
  have other : x.exponent.val ≠ 2047 := by simpa [isFinite] using finite
  simp [isNaN, other]

namespace FloatLayout

/-- the exponent after an `e` -/
def exponent (l : FloatLayout) (n : Int) : String := (if l.exponentPlus ∧ 0 ≤ n then "+" else "") ++ Integer.text n

/-- where the first digit decides that there is no exponent, a point among the digits, and else an exponent -/
theorem magnitude_eq_or (l : FloatLayout) (d : Shortest.Decimal) {n : Int}
    (first : n = d.exponent + (Nat.repr d.digits).length - 1) :
    l.magnitude d = point l.wholePoint (Nat.repr d.digits) (n + 1) ∨
      l.magnitude d = point false (Nat.repr d.digits) 1 ++ "e" ++ l.exponent n := by
  rw [exponent, ← String.append_assoc, first]
  exact ite_eq_or_eq _ _ _

theorem write_of_isFinite (l : FloatLayout) {x : Binary64} (finite : x.isFinite = true) :
    (l.write x).toList = (if x.negative then ['-'] else []) ++ (l.magnitude (Shortest.ofBinary64 l.tie x)).toList := by
  rw [write, if_neg (by simp [Binary64.not_isNaN finite]), if_pos finite, String.toList_append]
  cases x.negative <;> rfl

end FloatLayout

namespace Form

/-! ## Reading quoted scalars -/

/-- the character that a fixed number of digits stands for -/
def readHex (width : Nat) (cs : List Char) : Char × List Char :=
  (Char.ofNat (Integer.ofDigits 16 ((cs.take width).map Integer.digitValue)), cs.drop width)

/-- the character that an escape stands for, and what follows it -/
def readEscape (c : Char) (cs : List Char) : Char × List Char :=
  if c = 'n' then ('\n', cs)
  else if c = 't' then ('\t', cs)
  else if c = 'r' then ('\r', cs)
  else if c = 'x' then readHex 2 cs
  else if c = 'u' then readHex 4 cs
  else if c = 'U' then readHex 8 cs
  else (c, cs)

/-- the next character of a quoted scalar, and what follows it; none at the closing quote -/
def readChar : List Char → Option (Char × List Char)
  | [] => none
  | c :: cs =>
    if c = '"' then none
    else if c = '\\' then cs.head?.map fun e => readEscape e cs.tail
    else some (c, cs)

theorem readHex_hexDigits (width : Nat) {c : Char} (fits : c.toNat < Nat.pow 16 width) (rest : List Char) :
    readHex width (Text.hexDigits width c.toNat ++ rest) = (c, rest) := by
  rw [readHex, List.take_left' (Text.length_hexDigits width _), List.drop_left' (Text.length_hexDigits width _),
    Text.ofDigits_hexDigits, Nat.mod_eq_of_lt fits, Char.ofNat_toNat]

/-- what is written for a character is read as that character -/
theorem readChar_scalarChar (c : Char) (rest : List Char) : readChar (scalarChar c ++ rest) = some (c, rest) := by
  unfold scalarChar
  split_ifs with quote backslash feed tab carriage plain two four
  · rw [quote]; rfl
  · rw [backslash]; rfl
  · rw [feed]; rfl
  · rw [tab]; rfl
  · rw [carriage]; rfl
  · simp [readChar, quote, backslash]
  · have read := readHex_hexDigits 2 (Nat.lt_succ_of_le two) rest
    simpa [readChar, readEscape] using read
  · have read := readHex_hexDigits 4 (Nat.lt_succ_of_le four) rest
    simpa [readChar, readEscape] using read
  · have read := readHex_hexDigits 8 c.val.toNat_lt rest
    simpa [readChar, readEscape] using read

/-- the text and the end of a quoted scalar can be told from it -/
theorem scalarBody_append_inj {cs ds rest rest' : List Char}
    (h : scalarBody cs ++ '"' :: rest = scalarBody ds ++ '"' :: rest') : cs = ds ∧ rest = rest' := by
  have body (c : Char) (cs r : List Char) : readChar (scalarBody (c :: cs) ++ r) = some (c, scalarBody cs ++ r) := by
    rw [scalarBody, List.flatMap_cons, List.append_assoc, readChar_scalarChar, scalarBody]
  induction cs generalizing ds with
  | nil =>
    cases ds with
    | nil => exact ⟨rfl, (List.cons.inj h).2⟩
    | cons d ds =>
      have read := congrArg readChar h
      rw [body] at read
      cases read
  | cons c cs ih =>
    have read := congrArg readChar h
    rw [body] at read
    cases ds with
    | nil => cases read
    | cons d ds =>
      rw [body] at read
      obtain ⟨rfl, next⟩ := Prod.mk.inj (Option.some.inj read)
      obtain ⟨rfl, ends⟩ := ih next
      exact ⟨rfl, ends⟩

theorem toList_quote (s : String) : (quote s).toList = '"' :: (scalarBody s.toList ++ ['"']) := by
  rw [quote, String.toList_ofList, List.cons_append]

theorem quote_append_inj {s t : String} {rest rest' : List Char}
    (h : (quote s).toList ++ rest = (quote t).toList ++ rest') : s = t ∧ rest = rest' := by
  simp only [toList_quote, List.cons_append, List.append_assoc, List.nil_append, List.cons.injEq, true_and] at h
  obtain ⟨same, ends⟩ := scalarBody_append_inj h
  exact ⟨String.toList_inj.1 same, ends⟩

theorem quote_inj {s t : String} (h : quote s = quote t) : s = t := by
  have texts : (quote s).toList ++ [] = (quote t).toList ++ [] := by rw [h]
  exact (quote_append_inj texts).1

/-! ## Texts of characters of a class -/

/-- all characters of a text are of the class -/
def Only (p : Char → Bool) (s : String) : Prop := ∀ c ∈ s.toList, p c = true

namespace Only

variable {p q : Char → Bool} {s t : String}

instance : DecidablePred (Only p) := fun s => decidable_of_iff (s.toList.all p = true) List.all_eq_true

theorem mono (h : Only p s) (imp : ∀ c, p c = true → q c = true) : Only q s := fun c hc => imp c (h c hc)

theorem append (hs : Only p s) (ht : Only p t) : Only p (s ++ t) := by
  intro c hc
  rw [String.toList_append] at hc
  exact (List.mem_append.1 hc).elim (hs c) (ht c)

theorem ite {b : Prop} [Decidable b] (hs : Only p s) (ht : Only p t) : Only p (if b then s else t) := by
  split_ifs
  · exact hs
  · exact ht

theorem ofList {cs : List Char} (h : Only p s) (sub : cs ⊆ s.toList) : Only p (String.ofList cs) := by
  intro c hc
  rw [String.toList_ofList] at hc
  exact h c (sub hc)

theorem intercalate {texts : List String} (hs : Only p s) (ht : ∀ t ∈ texts, Only p t) :
    Only p (String.intercalate s texts) := by
  induction texts with
  | nil => exact fun c hc => nomatch hc
  | cons t texts ih =>
    have rest := ih fun u member => ht u (List.mem_cons_of_mem t member)
    cases texts with
    | nil => rw [String.intercalate_singleton]; exact ht t List.mem_cons_self
    | cons u texts =>
      rw [String.intercalate_cons_cons]
      exact .append (.append (ht t List.mem_cons_self) hs) rest

end Only

/-! ## Completed numbers -/

theorem completed_of_not_mem {cs : List Char} (whole : 'e' ∉ cs) : completed cs = cs := by
  have none : cs.dropWhile (· != 'e') = [] :=
    List.dropWhile_eq_nil_iff.2 fun c hc => bne_iff_ne.2 fun same => whole (same ▸ hc)
  rw [completed, none]

/-- the two sides of the first `e` are completed on their own -/
theorem completed_append {ds : List Char} (plain : 'e' ∉ ds) (es : List Char) :
    completed (ds ++ 'e' :: es) = pointed ds ++ 'e' :: signed es := by
  have before : ∀ c ∈ ds, (c != 'e') = true := fun c hc => bne_iff_ne.2 fun same => plain (same ▸ hc)
  have mantissa : (ds ++ 'e' :: es).takeWhile (· != 'e') = ds := by
    rw [List.takeWhile_append_of_pos before]
    simp
  have rest : (ds ++ 'e' :: es).dropWhile (· != 'e') = 'e' :: es := by
    rw [List.dropWhile_append_of_pos before]
    simp
  rw [completed, rest, mantissa]

/-- all that completing adds are a point and a zero, and a plus sign -/
theorem forall_mem_completed {P : Char → Prop} {cs : List Char} (own : ∀ c ∈ cs, P c)
    (added : ∀ c ∈ ['.', '0', '+'], P c) : ∀ c ∈ completed cs, P c := by
  by_cases cut : 'e' ∈ cs
  · obtain ⟨ds, es, rfl, plain⟩ := List.eq_append_cons_of_mem cut
    obtain ⟨before, rest⟩ := List.forall_mem_append.1 own
    obtain ⟨mark, after⟩ := List.forall_mem_cons.1 rest
    have few {ks : List Char} (sub : ks ⊆ ['.', '0', '+']) : ∀ c ∈ ks, P c := fun c hc => added c (sub hc)
    rw [completed_append plain]
    refine List.forall_mem_append.2 ⟨List.forall_mem_append.2 ⟨before, few ?_⟩,
      List.forall_mem_cons.2 ⟨mark, List.forall_mem_append.2 ⟨few ?_, after⟩⟩⟩
    · split_ifs <;> simp
    · split_ifs <;> simp
  · rwa [completed_of_not_mem cut]

/-! ## Bare scalars -/

/-- letters, digits, points and signs -/
def isBare (c : Char) : Bool := c.isAlphanum || c == '.' || c == '-' || c == '+'

theorem range_of_isBare {c : Char} (h : isBare c = true) : 0x2B ≤ c.toNat ∧ c.toNat ≤ 0x7A ∧ c.toNat ≠ 0x2C := by
  have letters : c.isAlpha =
      (decide (c.val ≥ 'A'.val ∧ c.val ≤ 'Z'.val) || (decide (c.val ≥ 'a'.val) && decide (c.val ≤ 'z'.val))) := rfl
  simp only [isBare, Char.isAlphanum, letters, Char.isDigit, Bool.or_eq_true, Bool.and_eq_true, decide_eq_true_eq,
    beq_iff_eq, ge_iff_le, UInt32.le_iff_toNat_le] at h
  rcases h with (((letter | digit) | rfl) | rfl) | rfl
  · rcases letter with upper | lower
    · change 65 ≤ c.toNat ∧ c.toNat ≤ 90 at upper
      omega
    · change 97 ≤ c.toNat ∧ c.toNat ≤ 122 at lower
      omega
  · change 48 ≤ c.toNat ∧ c.toNat ≤ 57 at digit
    omega
  · decide
  · decide
  · decide

theorem isPlain_of_isBare {c : Char} (h : isBare c = true) : isPlain c = true := by
  obtain ⟨low, high, -⟩ := range_of_isBare h
  simp only [isPlain, Bool.or_eq_true, Bool.and_eq_true, decide_eq_true_eq]
  omega

theorem bare_repr (n : Nat) : Only isBare (Nat.repr n) := by
  intro c hc
  rw [Nat.toList_repr] at hc
  simp [isBare, Char.isAlphanum, Nat.isDigit_of_mem_toDigits (by decide) (by decide) hc]

theorem bare_integer (n : Int) : Only isBare (Integer.text n) := by
  unfold Integer.text
  split_ifs
  · exact .append (by decide) (bare_repr _)
  · exact bare_repr _

theorem bare_zeros (n : Nat) : Only isBare (String.ofList (List.replicate n '0')) := by
  intro c hc
  rw [String.toList_ofList] at hc
  rw [List.eq_of_mem_replicate hc]
  rfl

theorem bare_point {digits : String} (h : Only isBare digits) (wholePoint : Bool) (n : Int) :
    Only isBare (FloatLayout.point wholePoint digits n) := by
  simp only [FloatLayout.point]
  split_ifs
  · exact .append (.append (by decide) (bare_zeros _)) h
  · exact .append (.append h (bare_zeros _)) (by decide)
  · exact .append (.append h (bare_zeros _)) (by decide)
  · exact .append (.append (h.ofList (List.take_subset _ _)) (by decide)) (h.ofList (List.drop_subset _ _))

theorem bare_exponent (l : FloatLayout) (n : Int) : Only isBare (l.exponent n) :=
  .append (.ite (by decide) (by decide)) (bare_integer n)

theorem bare_magnitude (l : FloatLayout) (d : Shortest.Decimal) : Only isBare (l.magnitude d) := by
  have point := bare_point (bare_repr d.digits)
  rcases l.magnitude_eq_or d rfl with text | text
  · exact text ▸ point _ _
  · exact text ▸ .append (.append (point _ _) (by decide)) (bare_exponent l _)

theorem bare_diagnostic (x : Binary64) : Only isBare (FloatLayout.diagnostic.write x) := by
  have sign : Only isBare (if x.negative then "-" else "") := .ite (by decide) (by decide)
  simp only [FloatLayout.write]
  exact .ite (by decide) (.ite (.append sign (bare_magnitude _ _)) (.append sign (by decide)))

theorem bare_completed {s : String} (h : Only isBare s) : Only isBare (String.ofList (completed s.toList)) := by
  have added : (['.', '0', '+'].all isBare) = true := rfl
  intro c hc
  rw [String.toList_ofList] at hc
  exact forall_mem_completed h (List.all_eq_true.1 added) c hc

theorem bare_float (x : Binary64) : Only isBare (float x) := by
  unfold float
  exact .ite (by decide) (.ite (.ite (by decide) (by decide)) (bare_completed (bare_diagnostic x)))

theorem bare_truth (b : Bool) : Only isBare (Json.truth b) := by
  cases b <;> decide

/-! ## Kinds -/

/-- a point stands between digits, or after them if it is wanted there -/
theorem point_mem_point {digits : String} {wholePoint : Bool} {n : Int}
    (h : wholePoint = true ∨ n < digits.toList.length) : '.' ∈ (FloatLayout.point wholePoint digits n).toList := by
  simp only [FloatLayout.point]
  split_ifs with before whole wanted
  · simp
  · simp
  · rcases h with h | h
    · exact absurd h wanted
    · omega
  · simp

/-- where a whole number keeps its point, there is one in what has no exponent -/
theorem mark_mem_magnitude {l : FloatLayout} (kept : l.wholePoint = true) (d : Shortest.Decimal) :
    'e' ∈ (l.magnitude d).toList ∨ '.' ∈ (l.magnitude d).toList := by
  rcases l.magnitude_eq_or d rfl with text | text
  · exact .inr (text ▸ point_mem_point (.inl kept))
  · rw [text]
    exact .inl (by simp)

theorem mark_mem_diagnostic {x : Binary64} (finite : x.isFinite = true) :
    'e' ∈ (FloatLayout.diagnostic.write x).toList ∨ '.' ∈ (FloatLayout.diagnostic.write x).toList := by
  rw [FloatLayout.write_of_isFinite _ finite]
  exact (mark_mem_magnitude rfl _).imp (List.mem_append_right _) (List.mem_append_right _)

theorem point_mem_pointed (mantissa : List Char) : '.' ∈ pointed mantissa := by
  unfold pointed
  split_ifs with there
  · simpa using there
  · simp

theorem point_mem_completed {cs : List Char} (mark : 'e' ∈ cs ∨ '.' ∈ cs) : '.' ∈ completed cs := by
  by_cases cut : 'e' ∈ cs
  · obtain ⟨ds, es, rfl, plain⟩ := List.eq_append_cons_of_mem cut
    rw [completed_append plain]
    exact List.mem_append_left _ (point_mem_pointed ds)
  · rw [completed_of_not_mem cut]
    exact mark.resolve_left cut

theorem point_mem_float (x : Binary64) : '.' ∈ (float x).toList := by
  unfold float
  split_ifs with nan infinite negative
  · decide
  · decide
  · decide
  · rw [String.toList_ofList]
    exact point_mem_completed (mark_mem_diagnostic (by simpa using infinite))

theorem of_mem_integer {n : Int} {c : Char} (h : c ∈ (Integer.text n).toList) : c = '-' ∨ c.isDigit = true := by
  have digit {k : Nat} (hc : c ∈ (Nat.repr k).toList) : c.isDigit = true :=
    Nat.isDigit_of_mem_toDigits (by decide) (by decide) (Nat.toList_repr ▸ hc)
  unfold Integer.text at h
  split_ifs at h
  · rw [String.toList_append] at h
    exact (List.mem_append.1 h).imp List.mem_singleton.1 digit
  · exact .inr (digit h)

theorem repr_inj {n m : Nat} (h : Nat.repr n = Nat.repr m) : n = m := by
  have read (k : Nat) : Nat.ofDigitChars 10 (Nat.repr k).toList 0 = k := by
    rw [Nat.toList_repr, Nat.ofDigitChars_toDigits (by decide) (by decide)]
  rw [← read n, ← read m, h]

theorem integer_inj {n m : Int} (h : Integer.text n = Integer.text m) : n = m := by
  have unsigned (i k : Nat) : "-" ++ Nat.repr i ≠ Nat.repr k := fun same => by
    have minus : '-' ∈ (Nat.repr k).toList := by
      rw [← same, String.toList_append]
      exact List.mem_append_left _ (List.mem_singleton_self _)
    rw [Nat.toList_repr] at minus
    exact absurd (Nat.isDigit_of_mem_toDigits (by decide) (by decide) minus) (by decide)
  unfold Integer.text at h
  split_ifs at h with below below'
  · have texts := congrArg String.toList h
    rw [String.toList_append, String.toList_append] at texts
    have magnitude := repr_inj (String.toList_inj.1 (List.append_cancel_left texts))
    omega
  · exact absurd h (unsigned _ _)
  · exact absurd h.symm (unsigned _ _)
  · have magnitude := repr_inj h
    omega

/-- the kind of a value, told from its scalar -/
def kindOf (cs : List Char) : Kind :=
  if '"' ∈ cs then .str else if '.' ∈ cs then .float else if 'e' ∈ cs then .bool else .int

theorem not_mem_of_bare {s : String} (h : Only isBare s) : '"' ∉ s.toList ∧ ',' ∉ s.toList :=
  ⟨fun quote => absurd (h _ quote) (by decide), fun comma => absurd (h _ comma) (by decide)⟩

/-- the scalar of a value that is no text -/
theorem bare_scalar {v : Value} (h : v.kind ≠ .str) : Only isBare (scalar v) := by
  cases v with
  | str => exact absurd rfl h
  | int i => exact bare_integer _
  | float x => exact bare_float x
  | bool b => exact bare_truth b

theorem kindOf_scalar (v : Value) : kindOf (scalar v).toList = v.kind := by
  unfold kindOf
  cases v with
  | str s =>
    refine if_pos ?_
    rw [scalar, toList_quote]
    exact List.mem_cons_self
  | float x =>
    rw [scalar, if_neg (not_mem_of_bare (bare_float x)).1, if_pos (point_mem_float x)]
    rfl
  | int i =>
    have digits {c : Char} (h : c ≠ '-') (h' : c.isDigit = false) : c ∉ (scalar (.int i)).toList := fun hc => by
      rcases of_mem_integer hc with minus | digit
      · exact h minus
      · rw [h'] at digit
        cases digit
    rw [if_neg (digits (by decide) (by decide)), if_neg (digits (by decide) (by decide)),
      if_neg (digits (by decide) (by decide))]
    rfl
  | bool b => cases b <;> decide

/-! ## Telling values apart -/

theorem truth_inj {b c : Bool} (h : Json.truth b = Json.truth c) : b = c := by
  revert b c
  decide

theorem alike_of_scalar_eq {v w : Value} (h : scalar v = scalar w) : v.Alike w := by
  have kind : v.kind = w.kind := by rw [← kindOf_scalar v, ← kindOf_scalar w, h]
  cases v with
  | str s =>
    cases w with
    | str t => exact congrArg Value.str (quote_inj h)
    | _ => cases kind
  | int i =>
    cases w with
    | int j => exact congrArg Value.int (Int64.toInt_inj.1 (integer_inj h))
    | _ => cases kind
  | float x =>
    cases w with
    | float y => exact h
    | _ => cases kind
  | bool b =>
    cases w with
    | bool c => exact congrArg Value.bool (truth_inj h)
    | _ => cases kind

/-! ## Plain characters -/

theorem isPlain_of_mem_scalarChar {c k : Char} (h : k ∈ scalarChar c) : isPlain k = true := by
  have digits {width : Nat} (hk : k ∈ Text.hexDigits width c.toNat) : isPlain k = true := by
    have plain : ∀ digit : Fin 16, isPlain (Text.hexDigit digit) = true := by decide
    obtain ⟨digit, rfl⟩ := Text.eq_hexDigit_of_mem hk
    exact plain digit
  have escape {mark : Char} {cs : List Char} (hk : k ∈ '\\' :: mark :: cs) (plain : isPlain mark = true)
      (rest : k ∈ cs → isPlain k = true) : isPlain k = true := by
    rcases List.mem_cons.1 hk with rfl | hk
    · decide
    · rcases List.mem_cons.1 hk with rfl | hk
      · exact plain
      · exact rest hk
  unfold scalarChar at h
  split_ifs at h with _ _ _ _ _ plain
  · exact escape h (by decide) (fun none => nomatch none)
  · exact escape h (by decide) (fun none => nomatch none)
  · exact escape h (by decide) (fun none => nomatch none)
  · exact escape h (by decide) (fun none => nomatch none)
  · exact escape h (by decide) (fun none => nomatch none)
  · exact List.mem_singleton.1 h ▸ plain
  · exact escape h (by decide) digits
  · exact escape h (by decide) digits
  · exact escape h (by decide) digits

theorem plain_of_bare {s : String} (h : Only isBare s) : Only isPlain s := h.mono fun _ => isPlain_of_isBare

theorem plain_quote (s : String) : Only isPlain (quote s) := by
  intro k h
  rw [toList_quote] at h
  rcases List.mem_cons.1 h with rfl | h
  · decide
  · rcases List.mem_append.1 h with h | h
    · obtain ⟨c, -, hk⟩ := List.mem_flatMap.1 h
      exact isPlain_of_mem_scalarChar hk
    · exact List.mem_singleton.1 h ▸ by decide

/-- a scalar has no character that would have to be escaped -/
theorem plain_scalar (v : Value) : Only isPlain (scalar v) := by
  by_cases text : v.kind = .str
  · cases v with
    | str s => exact plain_quote s
    | _ => cases text
  · exact plain_of_bare (bare_scalar text)

/-! ## Scalars one after the other -/

/-- is nothing, or starts with a comma -/
def Ends (rest : List Char) : Prop := ∀ c ∈ rest.head?, c = ','

theorem bare_append_inj {a b : String} {rest rest' : List Char} (ha : Only isBare a) (hb : Only isBare b)
    (ends : Ends rest) (ends' : Ends rest') (h : a.toList ++ rest = b.toList ++ rest') : a = b ∧ rest = rest' := by
  cases rest with
  | nil =>
    cases rest' with
    | nil => exact ⟨String.toList_inj.1 (by simpa using h), rfl⟩
    | cons c r =>
      obtain rfl := ends' c rfl
      refine absurd ?_ (not_mem_of_bare ha).2
      rw [show a.toList = b.toList ++ ',' :: r by simpa using h]
      exact List.mem_append_right _ List.mem_cons_self
  | cons c r =>
    obtain rfl := ends c rfl
    cases rest' with
    | nil =>
      refine absurd ?_ (not_mem_of_bare hb).2
      rw [show b.toList = a.toList ++ ',' :: r by simpa using h.symm]
      exact List.mem_append_right _ List.mem_cons_self
    | cons c' r' =>
      obtain rfl := ends' c' rfl
      obtain ⟨same, more⟩ := Text.append_separator_inj (not_mem_of_bare ha).2 (not_mem_of_bare hb).2 h
      exact ⟨String.toList_inj.1 same, by rw [more]⟩

theorem bare_append_ne_quote {a s : String} {rest rest' : List Char} (ha : Only isBare a) (ends : Ends rest) :
    a.toList ++ rest ≠ (quote s).toList ++ rest' := by
  intro h
  rw [toList_quote, List.cons_append] at h
  cases chars : a.toList with
  | nil =>
    rw [chars, List.nil_append] at h
    exact absurd (ends '"' (h ▸ rfl)) (by decide)
  | cons c cs =>
    rw [chars, List.cons_append] at h
    refine (not_mem_of_bare ha).1 ?_
    rw [chars, (List.cons.inj h).1]
    exact List.mem_cons_self

theorem exists_of_kind_str {v : Value} (h : v.kind = .str) : ∃ s, v = .str s := by
  cases v with
  | str s => exact ⟨s, rfl⟩
  | _ => cases h

/-- a scalar can be told from what follows it, when that is nothing or starts with a comma -/
theorem scalar_append_inj {v w : Value} {rest rest' : List Char} (ends : Ends rest) (ends' : Ends rest')
    (h : (scalar v).toList ++ rest = (scalar w).toList ++ rest') : scalar v = scalar w ∧ rest = rest' := by
  by_cases text : v.kind = .str
  · obtain ⟨s, rfl⟩ := exists_of_kind_str text
    by_cases text' : w.kind = .str
    · obtain ⟨t, rfl⟩ := exists_of_kind_str text'
      obtain ⟨rfl, more⟩ := quote_append_inj h
      exact ⟨rfl, more⟩
    · exact absurd h.symm (bare_append_ne_quote (bare_scalar text') ends')
  · by_cases text' : w.kind = .str
    · obtain ⟨t, rfl⟩ := exists_of_kind_str text'
      exact absurd h (bare_append_ne_quote (bare_scalar text) ends)
    · exact bare_append_inj (bare_scalar text) (bare_scalar text') ends ends' h

/-- what stands behind the first of scalars with commas between them -/
def following (vs : List Value) : List Char := vs.flatMap fun v => ',' :: ' ' :: (scalar v).toList

theorem ends_following (vs : List Value) : Ends (following vs) := by
  cases vs with
  | nil => exact fun c hc => nomatch hc
  | cons v vs => exact fun c hc => (Option.mem_some.1 hc).symm

theorem toList_intercalate_scalar (v : Value) (vs : List Value) :
    (String.intercalate ", " ((v :: vs).map scalar)).toList = (scalar v).toList ++ following vs := by
  rw [String.toList_intercalate, List.map_map]
  induction vs generalizing v with
  | nil => rw [List.map_singleton, List.intercalate_singleton, following, List.flatMap_nil, List.append_nil]; rfl
  | cons w ws ih =>
    rw [List.map_cons, List.map_cons, List.intercalate_cons_cons, ← List.map_cons, ih w]
    simp [following]

/-- scalars with commas between them can be told apart -/
theorem map_scalar_inj {v w : Value} {vs ws : List Value}
    (h : String.intercalate ", " ((v :: vs).map scalar) = String.intercalate ", " ((w :: ws).map scalar)) :
    (v :: vs).map scalar = (w :: ws).map scalar := by
  have texts := congrArg String.toList h
  rw [toList_intercalate_scalar, toList_intercalate_scalar] at texts
  clear h
  induction vs generalizing v w ws with
  | nil =>
    obtain ⟨same, more⟩ := scalar_append_inj (ends_following _) (ends_following _) texts
    cases ws with
    | nil => rw [List.map_singleton, same, List.map_singleton]
    | cons => cases more
  | cons v' vs ih =>
    obtain ⟨same, more⟩ := scalar_append_inj (ends_following _) (ends_following _) texts
    cases ws with
    | nil => cases more
    | cons w' ws =>
      have next : (scalar v').toList ++ following vs = (scalar w').toList ++ following ws := by
        simpa [following] using more
      rw [List.map_cons, same, ih next, ← List.map_cons]

end Form

end Trialbook
