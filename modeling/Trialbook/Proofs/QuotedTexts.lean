/-
QUOTED TEXTS: a text between double quotes tells the text, and nothing in it misleads a reader.

What stands between the quotes is characters and escapes (`Form.Enclosed`), all of them characters that may stand in a
document as they are (`Form.IsPrintable`). `Form.Decodes` says which text a reader of documents takes it for: a
character for itself, an escape for the character that it names or whose code it gives.

Results:
- `Form.decodes_scalarBody`: what is written for a text stands for it.
- `Form.Decodes.unescape?_eq`: what stands for a text in a document stands for it in a string literal too.
- `Form.quote_tells_text`: all that holds of a text between double quotes.
-/
import Trialbook.Proofs.FormScalars
import Trialbook.Proofs.StringEscapes

namespace Trialbook.Form

open StringLiteral (IsHex codeOf widths)

variable {c : Char} {cs rest text text' inside : List Char}

/-! ## Reading what is quoted -/

/-- characters between quotes: no quote without a backslash before it, no backslash with nothing after it -/
inductive Enclosed : List Char → Prop where
  | nil : Enclosed []
  | plain {c : Char} {cs : List Char} : c ≠ '"' → c ≠ '\\' → Enclosed cs → Enclosed (c :: cs)
  | escape (c : Char) {cs : List Char} : Enclosed cs → Enclosed ('\\' :: c :: cs)

/-- the escapes that name a character, and that character -/
def escapes : List (Char × Char) := [('"', '"'), ('\\', '\\'), ('n', '\n'), ('t', '\t'), ('r', '\r')]

/-- the text that a quoted scalar stands for; no other escapes are known -/
inductive Decodes : List Char → List Char → Prop where
  | nil : Decodes [] []
  | plain {c : Char} {cs text : List Char} : c ≠ '"' → c ≠ '\\' → Decodes cs text → Decodes (c :: cs) (c :: text)
  | named {e c : Char} {cs text : List Char} : (e, c) ∈ escapes → Decodes cs text →
    Decodes ('\\' :: e :: cs) (c :: text)
  /-- a code of two, four or eight digits, and just as many -/
  | coded {e : Char} {digits cs text : List Char} : (e, digits.length) ∈ widths → (∀ d ∈ digits, IsHex d) →
    (codeOf 16 digits).isValidChar → Decodes cs text →
    Decodes ('\\' :: e :: (digits ++ cs)) (Char.ofNat (codeOf 16 digits) :: text)

/-- the characters that may stand in a document as they are -/
def IsPrintable (c : Char) : Prop :=
  c.toNat = 0x9 ∨ c.toNat = 0xA ∨ c.toNat = 0xD ∨ 0x20 ≤ c.toNat ∧ c.toNat ≤ 0x7E ∨ c.toNat = 0x85 ∨
    0xA0 ≤ c.toNat ∧ c.toNat ≤ 0xD7FF ∨ 0xE000 ≤ c.toNat ∧ c.toNat ≤ 0xFFFD ∨ 0x10000 ≤ c.toNat

/-- line feed, carriage return, next line, line separator, paragraph separator -/
def breaks : List Char := ['\n', '\r', '\u0085', '\u2028', '\u2029']

def byteOrderMark : Char := '\ufeff'

/-! ## What is written for a character -/

theorem isHex_of_mem_hexDigits {width n : Nat} (mem : c ∈ Text.hexDigits width n) : IsHex c := by
  have hex : ∀ digit : Fin 16, Integer.digitValue (Text.hexDigit digit) < 16 := by decide
  obtain ⟨digit, rfl⟩ := Text.eq_hexDigit_of_mem mem
  exact StringLiteral.isHex_iff.2 (hex digit)

theorem codeOf_hexDigits {width : Nat} (fits : c.toNat < 16 ^ width) :
    codeOf 16 (Text.hexDigits width c.toNat) = c.toNat :=
  (Text.ofDigits_hexDigits width c.toNat).trans (Nat.mod_eq_of_lt fits)

/-- the code of a character, in digits enough for it, stands for the character -/
theorem decodes_hexDigits {e : Char} {width : Nat} (coded : (e, width) ∈ widths) (fits : c.toNat < 16 ^ width)
    (after : Decodes rest text) : Decodes ('\\' :: e :: (Text.hexDigits width c.toNat ++ rest)) (c :: text) := by
  have code := codeOf_hexDigits fits
  have valid : (codeOf 16 (Text.hexDigits width c.toNat)).isValidChar := by
    rw [code]
    exact c.valid
  have decodes := Decodes.coded ((Text.length_hexDigits width c.toNat).symm ▸ coded)
    (fun d hd => isHex_of_mem_hexDigits hd) valid after
  rwa [code, Char.ofNat_toNat] at decodes

theorem decodes_scalarChar (c : Char) (after : Decodes rest text) : Decodes (scalarChar c ++ rest) (c :: text) := by
  unfold scalarChar
  split_ifs with quote backslash feed tab carriage plain two four
  · subst quote
    exact .named (by decide) after
  · subst backslash
    exact .named (by decide) after
  · subst feed
    exact .named (by decide) after
  · subst tab
    exact .named (by decide) after
  · subst carriage
    exact .named (by decide) after
  · exact .plain quote backslash after
  · exact decodes_hexDigits (by decide) (Nat.lt_succ_of_le two) after
  · exact decodes_hexDigits (by decide) (Nat.lt_succ_of_le four) after
  · exact decodes_hexDigits (by decide) c.val.toNat_lt after

/-- what is written for a text stands for it -/
theorem decodes_scalarBody (cs : List Char) : Decodes (scalarBody cs) cs := by
  induction cs with
  | nil => exact .nil
  | cons c cs ih => exact decodes_scalarChar c ih

/-! ## What holds of all that stands for a text -/

theorem Enclosed.digits {digits : List Char} (after : Enclosed cs) (hex : ∀ d ∈ digits, IsHex d) :
    Enclosed (digits ++ cs) := by
  have apart : ¬ IsHex '"' ∧ ¬ IsHex '\\' := by
    simp only [StringLiteral.isHex_iff]
    decide
  induction digits with
  | nil => exact after
  | cons d digits ih =>
    have digit := hex d List.mem_cons_self
    exact .plain (fun quote => apart.1 (quote ▸ digit)) (fun backslash => apart.2 (backslash ▸ digit))
      (ih fun d hd => hex d (List.mem_cons_of_mem _ hd))

namespace Decodes

theorem enclosed (h : Decodes inside text) : Enclosed inside := by
  induction h with
  | nil => exact .nil
  | plain quote backslash _ ih => exact .plain quote backslash ih
  | named _ _ ih => exact .escape _ ih
  | coded _ hex _ _ ih => exact .escape _ (ih.digits hex)

/-- what stands for a text in a document stands for it in a string literal too -/
theorem unescape?_eq (h : Decodes inside text) : StringLiteral.unescape? inside = some text := by
  have known : ∀ p ∈ escapes, p ∈ StringLiteral.named ∧ p.1 ≠ '\r' ∧ StringLiteral.isOctal p.1 = false ∧
      p.1 ∉ widths.map Prod.fst := by decide
  induction h with
  | nil => rw [StringLiteral.unescape?]
  | @plain c cs text _ backslash _ ih =>
    have cut : StringLiteral.Cut (.plain c) cs := .plain backslash
    have read := cut.unescape?_of_means (.plain c)
    exact read.trans (by rw [ih]; rfl)
  | @named e c cs text escape _ ih =>
    obtain ⟨named, carriage, octal, single⟩ := known _ escape
    have cut : StringLiteral.Cut (.escape e []) cs := .single carriage octal single
    have read := cut.unescape?_of_means (.named named)
    exact read.trans (by rw [ih]; rfl)
  | @coded e digits cs text width hex valid _ ih =>
    have cut : StringLiteral.Cut (.escape e digits) cs := .coded width (.inl rfl)
    have read := cut.unescape?_of_means (.coded width rfl hex valid)
    exact read.trans (by rw [ih]; rfl)

/-- nothing stands for two texts -/
theorem unique (h : Decodes inside text) (h' : Decodes inside text') : text = text' :=
  Option.some.inj (h.unescape?_eq.symm.trans h'.unescape?_eq)

end Decodes

/-! ## Quoted texts -/

/-- plain characters may stand as they are, and none of them breaks a line or marks the order of bytes -/
theorem isPrintable_of_isPlain (plain : isPlain c = true) : IsPrintable c ∧ c ∉ breaks ∧ c ≠ byteOrderMark := by
  have special : ∀ d ∈ byteOrderMark :: breaks, isPlain d = false := by
    simp [byteOrderMark, breaks, isPlain]
  have apart (d : Char) (mem : d ∈ byteOrderMark :: breaks) : c ≠ d := fun same => by
    simpa [← same, plain] using special d mem
  refine ⟨?_, fun mem => apart c (List.mem_cons_of_mem _ mem) rfl, apart _ List.mem_cons_self⟩
  simp only [isPlain, Bool.or_eq_true, Bool.and_eq_true, decide_eq_true_eq] at plain
  unfold IsPrintable
  omega

/-- **A quoted text is safe and tells the text.** It starts and ends with a quote; between them there is no quote
without a backslash before it and no backslash with nothing after it; all its characters may stand as they are, and none
of them breaks a line or marks the order of bytes. What is between the quotes stands for the text and for no other, in a
document as in a string literal. -/
theorem quote_tells_text (s : String) :
    ∃ inside, (quote s).toList = '"' :: (inside ++ ['"']) ∧ Enclosed inside ∧
      (∀ c ∈ (quote s).toList, IsPrintable c ∧ c ∉ breaks ∧ c ≠ byteOrderMark) ∧
      (∀ text, Decodes inside text ↔ text = s.toList) ∧ StringLiteral.unescape? inside = some s.toList := by
  have decodes := decodes_scalarBody s.toList
  refine ⟨scalarBody s.toList, toList_quote s, decodes.enclosed, ?_, ?_, decodes.unescape?_eq⟩
  · intro c mem
    exact isPrintable_of_isPlain (plain_quote s c mem)
  · intro text
    exact ⟨fun other => other.unique decodes, fun same => same ▸ decodes⟩

end Trialbook.Form
