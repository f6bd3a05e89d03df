/-
TOML TEXTS: what is written for a text is read as that text, in each of the four styles.

Between the quotes stand pieces, each of them taken for characters whatever follows it, and single quotes of the kind
that encloses the text, at most a fixed number of them in a row (`Body`). A reader takes a body for the text it stands
for and stops after the closing quotes; a body of several lines may end with two quotes right before those.

Results:
- `line?_body`, `lines?_body`: readers of one line and of several lines take a body for its text.
- `body_escaped`: escapes make a body of any text; `body_of_not_mem`, `body_of_not_hasTriple`: as it stands, a text is
  a body if it has no quotes, or if it has no three of them in a row.
- `text?_written`: so what is written for a text is read as that text.
-/
import Mathlib.Tactic
import Trialbook.Proofs.QuotedTexts
import Trialbook.Toml.Text

namespace Trialbook.Toml

variable {quote c : Char} {piece : List Char → Option Piece} {most n : Nat} {code cs text rest body : List Char}
  {lines : Bool}

/-! ## Bodies -/

/-- characters that are taken for a text, whatever follows; `n` quotes stand right before them, and never more than
`most` of them stand in a row -/
inductive Body (quote : Char) (piece : List Char → Option Piece) (most : Nat) : Nat → List Char → List Char → Prop where
  | nil {n : Nat} : Body quote piece most n [] []
  | quote {n : Nat} {cs text : List Char} : n < most → Body quote piece most (n + 1) cs text →
    Body quote piece most n (quote :: cs) (quote :: text)
  | piece {n : Nat} {c : Char} {code cs taken text : List Char} : c ≠ quote →
    (∀ rest, piece (c :: (code ++ rest)) = some (taken, code.length + 1)) → Body quote piece most 0 cs text →
    Body quote piece most n (c :: (code ++ cs)) (taken ++ text)

theorem Body.char (other : c ≠ quote) (read : ∀ rest, piece (c :: rest) = some ([c], 1))
    (after : Body quote piece most 0 cs text) : Body quote piece most n (c :: cs) (c :: text) := by
  have alone (rest : List Char) : piece (c :: ([] ++ rest)) = some ([c], ([] : List Char).length + 1) := read rest
  exact .piece other alone after

theorem line?_piece {taken : List Char} (other : c ≠ quote)
    (read : piece (c :: (code ++ rest)) = some (taken, code.length + 1)) :
    line? quote piece (c :: (code ++ rest)) = (line? quote piece rest).map fun r => (taken ++ r.1, r.2) := by
  rw [line?, if_neg other, read, Option.bind_some]
  simp

theorem lines?_piece {taken : List Char} (other : c ≠ quote)
    (read : piece (c :: (code ++ rest)) = some (taken, code.length + 1)) :
    lines? quote piece (c :: (code ++ rest)) = (lines? quote piece rest).map fun r => (taken ++ r.1, r.2) := by
  rw [lines?, if_neg other, read, Option.bind_some]
  simp

/-- a body without quotes is read up to the closing one -/
theorem line?_body (h : Body quote piece 0 n body text) (rest : List Char) :
    line? quote piece (body ++ quote :: rest) = some (text, rest) := by
  induction h with
  | nil => rw [List.nil_append, line?, if_pos rfl]
  | quote free => exact absurd free (Nat.not_lt_zero _)
  | piece other read _ ih =>
    rw [List.cons_append, List.append_assoc, line?_piece other (read _), ih]
    rfl

theorem takeWhile_replicate (others : rest.head? ≠ some quote) (n : Nat) :
    (List.replicate n quote ++ rest).takeWhile (· == quote) = List.replicate n quote := by
  rw [List.takeWhile_append_of_pos (by simp)]
  cases rest with
  | nil => simp
  | cons c rest =>
    have other : c ≠ quote := by simpa using others
    simp [other]

/-- up to two quotes with something else after them belong to the text -/
theorem lines?_quotes (few : n ≤ 2) (others : rest.head? ≠ some quote) :
    lines? quote piece (List.replicate n quote ++ rest) =
      (lines? quote piece rest).map fun r => (List.replicate n quote ++ r.1, r.2) := by
  cases n with
  | zero => simp
  | succ n =>
    rw [List.replicate_succ, List.cons_append, lines?, if_pos rfl, takeWhile_replicate others, List.length_replicate]
    simp [Nat.lt_of_succ_le few, List.replicate_succ]

/-- three quotes end a text; those before them belong to it -/
theorem lines?_closing (few : n ≤ 2) (others : rest.head? ≠ some quote) :
    lines? quote piece (List.replicate (n + 3) quote ++ rest) = some (List.replicate n quote, rest) := by
  rw [List.replicate_succ, List.cons_append, lines?, if_pos rfl, takeWhile_replicate others, List.length_replicate]
  have many : ¬ n + 2 < 2 := by omega
  have some : n + 2 < 5 := by omega
  simp [many, some]

/-- a body with at most two quotes in a row is read up to the three closing ones -/
theorem lines?_body (h : Body quote piece 2 n body text) (few : n ≤ 2) (others : rest.head? ≠ some quote) :
    lines? quote piece (List.replicate n quote ++ (body ++ ([quote, quote, quote] ++ rest))) =
      some (List.replicate n quote ++ text, rest) := by
  -- the quotes right before the body are kept back, since only what comes next tells whether they belong to the text
  induction h with
  | @nil n =>
    have closing : List.replicate n quote ++ [quote, quote, quote] = List.replicate (n + 3) quote :=
      List.replicate_append_replicate (n := n) (m := 3)
    rw [List.nil_append, ← List.append_assoc, closing, lines?_closing few others, List.append_nil]
  | @quote n cs text free _ ih =>
    have shift (more : List Char) : List.replicate n quote ++ quote :: more = List.replicate (n + 1) quote ++ more := by
      rw [List.replicate_succ', List.append_assoc, List.singleton_append]
    rw [List.cons_append, shift, shift, ih free]
  | @piece n c code cs taken text other read _ ih =>
    have ends : ((c :: (code ++ cs)) ++ ([quote, quote, quote] ++ rest)).head? ≠ some quote := by simpa using other
    have inner := ih (Nat.zero_le 2)
    rw [List.replicate_zero, List.nil_append, List.nil_append] at inner
    rw [lines?_quotes few ends, List.cons_append, List.append_assoc, lines?_piece other (read _), inner]
    rfl

/-! ## Pieces -/

theorem isPlain_of_not_isControl (h : isControl c = false) (single : c ≠ '\n') : isPlain c = true := by
  by_cases tab : c = '\t'
  · rw [tab]
    rfl
  · simp only [isControl, isPlain, bne_iff_ne, Bool.or_eq_false_iff, Bool.and_eq_false_iff, Bool.or_eq_true,
      Bool.and_eq_true, decide_eq_false_iff_not, decide_eq_true_eq, beq_eq_false_iff_ne, beq_iff_eq, tab, single, ne_eq,
      bne_eq_false_iff_eq, or_false] at h ⊢
    omega

theorem ne_carriage_of_not_isControl (h : isControl c = false) : c ≠ '\r' := by
  rintro rfl
  cases h

/-- a character that is no control character stands for itself where no escapes are read -/
theorem literalPiece_char (plain : isControl c = false) (broken : c = '\n' → lines = true) (rest : List Char) :
    literalPiece lines (c :: rest) = some ([c], 1) := by
  by_cases feed : c = '\n'
  · subst feed
    rw [literalPiece, if_pos (broken rfl)]
    rfl
  · have read : plainPiece (c :: rest) = some ([c], 1) := by
      rw [plainPiece, if_pos (isPlain_of_not_isControl plain feed)]
    have whole : breakPiece (c :: rest) = none := by
      have carriage := ne_carriage_of_not_isControl plain
      unfold breakPiece
      split
      next same => exact absurd (List.cons.inj same).1 feed
      next same => exact absurd (List.cons.inj same).1 carriage
      next => rfl
    rw [literalPiece, whole, Option.none_or, read, ite_self]

/-- where escapes are read, that holds of all characters but the backslash -/
theorem basicPiece_char (unescaped : c ≠ '\\') (plain : isControl c = false) (broken : c = '\n' → lines = true)
    (rest : List Char) : basicPiece lines (c :: rest) = some ([c], 1) := by
  have read := literalPiece_char plain broken rest
  rw [basicPiece.eq_def]
  split
  next same => exact absurd (List.cons.inj same).1 unescaped
  next => exact read

/-- an escape that does not begin with a blank joins no lines -/
theorem joinPiece_eq_none (h : c ∉ [' ', '\t', '\n', '\r']) (rest : List Char) : joinPiece (c :: rest) = none := by
  simp only [List.mem_cons, List.not_mem_nil, or_false, not_or] at h
  obtain ⟨space, tab, feed, carriage⟩ := h
  have none : (c :: rest).takeWhile (fun c => c == ' ' || c == '\t') = [] := by simp [space, tab]
  rw [joinPiece, none, List.length_nil, List.drop_zero]
  split
  next same => exact absurd (List.cons.inj same).1 feed
  next same => exact absurd (List.cons.inj same).1 carriage
  next => rfl

theorem basicPiece_escape {p : Piece} (h : c ∉ [' ', '\t', '\n', '\r']) (read : escapePiece (c :: rest) = some p) :
    basicPiece lines ('\\' :: c :: rest) = some (p.1, p.2 + 1) := by
  rw [basicPiece, joinPiece_eq_none h, Option.none_or, ite_self, read]
  rfl

theorem natural?_hexDigits (width n : Nat) (some : width ≠ 0) :
    Integer.natural? 16 (Text.hexDigits width n) = .some (n % 16 ^ width) := by
  have hex (d : Char) (mem : d ∈ Text.hexDigits width n) : Integer.digitValue d < 16 :=
    StringLiteral.isHex_iff.1 (Form.isHex_of_mem_hexDigits mem)
  have filled : Text.hexDigits width n ≠ [] := by
    rw [← List.length_pos_iff, Text.length_hexDigits]
    omega
  rw [StringLiteral.natural?_of_digits filled hex]
  exact congrArg Option.some (Text.ofDigits_hexDigits width n)

/-- the code of a character in four digits is read as the character -/
theorem coded?_hexDigits (fits : c.toNat < 16 ^ 4) (rest : List Char) :
    coded? 4 (Text.hexDigits 4 c.toNat ++ rest) = some c := by
  have length := Text.length_hexDigits 4 c.toNat
  have valid : c.toNat.isValidChar := c.valid
  rw [coded?, List.take_left' length, if_pos length, natural?_hexDigits 4 _ (by decide), Nat.mod_eq_of_lt fits,
    Option.bind_some, if_pos valid, Char.ofNat_toNat]

theorem toNat_lt_of_isControl (h : isControl c = true) : c.toNat < 16 ^ 4 := by
  simp only [isControl, Bool.or_eq_true, Bool.and_eq_true, decide_eq_true_eq, beq_iff_eq] at h
  omega

/-- what is written for a character other than a double quote is read as that character, whatever follows -/
theorem basicPiece_escape? (lines : Bool) (c : Char) : ∃ first code, (escape? lines c).getD [c] = first :: code ∧
    (c ≠ '"' → first ≠ '"') ∧
    ∀ rest, basicPiece lines (first :: (code ++ rest)) = some ([c], code.length + 1) := by
  have named (e : Char) (plain : e ∉ [' ', '\t', '\n', '\r'])
      (read : ∀ rest, escapePiece (e :: rest) = some ([c], 1)) : ∃ first code, ['\\', e] = first :: code ∧
        (c ≠ '"' → first ≠ '"') ∧
        ∀ rest, basicPiece lines (first :: (code ++ rest)) = some ([c], code.length + 1) :=
    ⟨'\\', [e], rfl, by simp, fun rest => basicPiece_escape plain (read rest)⟩
  unfold escape?
  split
  · exact named 'b' (by decide) fun _ => rfl
  · exact named 't' (by decide) fun _ => rfl
  · cases lines with
    | false => exact named 'n' (by decide) fun _ => rfl
    | true => exact ⟨'\n', [], rfl, by simp, fun rest => basicPiece_char (by decide) (by decide) (by simp) rest⟩
  · exact named 'f' (by decide) fun _ => rfl
  · exact named 'r' (by decide) fun _ => rfl
  · exact named '\\' (by decide) fun _ => rfl
  · rename_i _ _ feed _ _ backslash
    by_cases control : isControl c = true
    · refine ⟨'\\', 'u' :: Text.hexDigits 4 c.toNat, by rw [if_pos control]; rfl, by simp, fun rest => ?_⟩
      have read : escapePiece ('u' :: (Text.hexDigits 4 c.toNat ++ rest)) = some ([c], 5) := by
        rw [escapePiece, coded?_hexDigits (toNat_lt_of_isControl control)]
        rfl
      rw [List.cons_append, basicPiece_escape (by decide) read, List.length_cons, Text.length_hexDigits]
    · refine ⟨c, [], by rw [if_neg control]; rfl, id, fun rest => ?_⟩
      exact basicPiece_char backslash (by simpa using control) (fun same => absurd same feed) rest

/-! ## What is written -/

/-- escapes make a body of any text -/
theorem body_escaped (lines : Bool) (most n : Nat) (cs : List Char) :
    Body '"' (basicPiece lines) most n (escaped lines most n cs) cs := by
  induction cs generalizing n with
  | nil => exact .nil
  | cons c cs ih =>
    by_cases double : c = '"'
    · subst double
      rw [escaped]
      split
      next free => exact .quote free (ih _)
      next =>
        have plain : '"' ∉ [' ', '\t', '\n', '\r'] := by decide
        have read (rest : List Char) : basicPiece lines ('\\' :: (['"'] ++ rest)) = some (['"'], 2) :=
          basicPiece_escape plain rfl
        have other : '\\' ≠ '"' := by decide
        exact .piece other read (ih 0)
    · obtain ⟨first, code, whole, other, read⟩ := basicPiece_escape? lines c
      have shape : escaped lines most n (c :: cs) = first :: (code ++ escaped lines most 0 cs) := by
        rw [escaped.eq_3 _ _ _ _ _ fun same => double same, whole]
        rfl
      rw [shape]
      exact .piece (other double) read (ih 0)

/-- without quotes and control characters, a text is a body as it stands -/
theorem body_of_not_mem (plain : ∀ c ∈ cs, isControl c = false) (single : '\n' ∉ cs) (none : quote ∉ cs) :
    Body quote (literalPiece false) most n cs cs := by
  induction cs generalizing n with
  | nil => exact .nil
  | cons c cs ih =>
    obtain ⟨here, later⟩ := List.forall_mem_cons.1 plain
    obtain ⟨feed, others⟩ := not_or.1 (mt List.mem_cons.2 single)
    obtain ⟨other, rest⟩ := not_or.1 (mt List.mem_cons.2 none)
    exact .char (Ne.symm other) (literalPiece_char here fun same => absurd same.symm feed) (ih later others rest)

theorem hasTriple_tail (h : hasTriple quote (c :: cs) = false) : hasTriple quote cs = false := by
  cases cs with
  | nil => rfl
  | cons d cs =>
    cases cs with
    | nil => rfl
    | cons e cs =>
      rw [hasTriple, Bool.or_eq_false_iff] at h
      exact h.2

theorem hasTriple_append (before : List Char) (h : hasTriple quote (before ++ cs) = false) :
    hasTriple quote cs = false := by
  induction before with
  | nil => exact h
  | cons c before ih => exact ih (hasTriple_tail h)

/-- a text of several lines without control characters is a body as it stands, if no three quotes stand in a row -/
theorem body_of_not_hasTriple (plain : ∀ c ∈ cs, isControl c = false) (few : n ≤ 2)
    (none : hasTriple quote (List.replicate n quote ++ cs) = false) : Body quote (literalPiece true) 2 n cs cs := by
  induction cs generalizing n with
  | nil => exact .nil
  | cons c cs ih =>
    obtain ⟨here, later⟩ := List.forall_mem_cons.1 plain
    by_cases same : c = quote
    · subst same
      have shift : List.replicate n c ++ c :: cs = List.replicate (n + 1) c ++ cs := by
        rw [List.replicate_succ', List.append_assoc, List.singleton_append]
      rw [shift] at none
      have fewer : n < 2 := by
        by_contra many
        obtain rfl : n = 2 := by omega
        simp [List.replicate, hasTriple] at none
      exact .quote fewer (ih later fewer none)
    · have next : hasTriple quote (List.replicate 0 quote ++ cs) = false :=
        hasTriple_tail (hasTriple_append (List.replicate n quote) none)
      exact .char same (literalPiece_char here fun _ => rfl) (ih later (Nat.zero_le 2) next)

/-- a text between single quotes has none, and neither control characters nor line feeds -/
theorem style_eq_literal (h : style cs = .literal) :
    (∀ c ∈ cs, isControl c = false) ∧ '\'' ∉ cs ∧ '\n' ∉ cs := by
  simp only [style] at h
  split_ifs at h with basic literal
  simpa [and_assoc] using literal

theorem style_eq_literalLines (h : style cs = .literalLines) :
    (∀ c ∈ cs, isControl c = false) ∧ hasTriple '\'' cs = false := by
  simp only [style] at h
  split_ifs at h with basic literal basicLines literalLines
  simpa using literalLines

/-- the line feed after the opening quotes of a text is not read as part of it -/
theorem afterBreak_firstBreak (starts : '\n' ∉ cs → body.head? ≠ some '\n' ∧ body.head? ≠ some '\r') :
    afterBreak (firstBreak cs ++ body) = body := by
  by_cases broken : '\n' ∈ cs
  · rw [firstBreak, if_pos (by simpa using broken)]
    rfl
  · obtain ⟨feed, carriage⟩ := starts broken
    rw [firstBreak, if_neg (by simpa using broken), List.nil_append]
    unfold afterBreak
    split
    · exact absurd rfl feed
    · exact absurd rfl carriage
    · rfl

theorem head?_escaped (single : '\n' ∉ cs) : (escaped lines most n cs ++ '"' :: rest).head? ≠ some '\n' ∧
    (escaped lines most n cs ++ '"' :: rest).head? ≠ some '\r' := by
  cases cs with
  | nil => simp [escaped]
  | cons c cs =>
    by_cases double : c = '"'
    · subst double
      rw [escaped]
      split <;> simp
    · rw [escaped.eq_3 _ _ _ _ _ fun same => double same]
      unfold escape?
      split
      · simp
      · simp
      · simp at single
      · simp
      · simp
      · simp
      · rename_i _ _ feed _ carriage _
        have plain : c ≠ '\n' ∧ c ≠ '\r' := ⟨feed, carriage⟩
        split <;> simp [plain]

/-- what closes a text of one line is not taken for the start of one of several lines -/
theorem not_opening (h : Body quote piece 0 n body text) (others : rest.head? ≠ some quote) (more : List Char) :
    body ++ quote :: rest ≠ quote :: quote :: more := by
  cases h with
  | nil =>
    rintro same
    cases same
    exact others rfl
  | quote free => exact absurd free (Nat.not_lt_zero _)
  | piece other => exact fun same => other (List.cons.inj same).1

theorem text?_basic (alone : ∀ more, cs ≠ '"' :: '"' :: more) :
    text? ('"' :: cs) = line? '"' (basicPiece false) cs := by
  rw [text?.eq_def]
  split
  next same => exact absurd (List.cons.inj same).2 (alone _)
  next same => rw [(List.cons.inj same).2]
  next same => cases same
  next same => cases same
  next other _ _ => exact absurd rfl (other cs)

theorem text?_literal (alone : ∀ more, cs ≠ '\'' :: '\'' :: more) :
    text? ('\'' :: cs) = line? '\'' (literalPiece false) cs := by
  rw [text?.eq_def]
  split
  next same => cases same
  next same => cases same
  next same => exact absurd (List.cons.inj same).2 (alone _)
  next same => rw [(List.cons.inj same).2]
  next other => exact absurd rfl (other cs)

/-- **What is written for a text is read as that text**, and what follows it is left, unless that begins with a quote. -/
theorem text?_written (cs : List Char) (double : rest.head? ≠ some '"') (single : rest.head? ≠ some '\'') :
    text? (written cs ++ rest) = some (cs, rest) := by
  unfold written
  cases chosen : style cs with
  | basic =>
    have body := body_escaped false 0 0 cs
    have shape : '"' :: escaped false 0 0 cs ++ ['"'] ++ rest = '"' :: (escaped false 0 0 cs ++ '"' :: rest) := by simp
    simp only [shape]
    rw [text?_basic (not_opening body double), line?_body body]
  | literal =>
    obtain ⟨plain, none, broken⟩ := style_eq_literal chosen
    have body : Body '\'' (literalPiece false) 0 0 cs cs := body_of_not_mem plain broken none
    have shape : '\'' :: cs ++ ['\''] ++ rest = '\'' :: (cs ++ '\'' :: rest) := by simp
    simp only [shape]
    rw [text?_literal (not_opening body single), line?_body body]
  | basicLines =>
    have body := lines?_body (body_escaped true 2 0 cs) (Nat.zero_le 2) double
    have opening : afterBreak (firstBreak cs ++ (escaped true 2 0 cs ++ (['"', '"', '"'] ++ rest))) = _ :=
      afterBreak_firstBreak head?_escaped
    rw [List.replicate_zero, List.nil_append, List.nil_append, ← opening] at body
    simpa [text?] using body
  | literalLines =>
    obtain ⟨plain, none⟩ := style_eq_literalLines chosen
    have body := lines?_body (body_of_not_hasTriple plain (Nat.zero_le 2) none) (Nat.zero_le 2) single
    have starts (broken : '\n' ∉ cs) : (cs ++ (['\'', '\'', '\''] ++ rest)).head? ≠ some '\n' ∧
        (cs ++ (['\'', '\'', '\''] ++ rest)).head? ≠ some '\r' := by
      cases cs with
      | nil => simp
      | cons c cs =>
        have feed : c ≠ '\n' := fun same => broken (same ▸ List.mem_cons_self)
        have carriage := ne_carriage_of_not_isControl (plain c List.mem_cons_self)
        simp [feed, carriage]
    rw [List.replicate_zero, List.nil_append, List.nil_append, ← afterBreak_firstBreak starts] at body
    simpa [text?] using body

end Trialbook.Toml
