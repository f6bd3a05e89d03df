/-
STRING ESCAPES: what the body of a string means.

A body is pieces, one after the other (`StringLiteral.Piece`): plain characters, escapes, and a backslash at the very
end. An escape is a backslash, the character that tells which escape it is, and the characters that it takes of those
that follow. How many it takes depends on what follows, so a piece is cut off with a view to the rest (`Cut`): a
carriage return takes a line feed, an octal digit takes one or two more where they are there, a code takes as many
characters as its width says. A piece means characters (`Means`) or it fails (`Fails`); what escapes are there is told
by two tables (`named`, `widths`).

Results:
- `Splits.exists_splits`, `Splits.unique`: a body splits into pieces in exactly one way.
- `Splits.unescape?_eq_some_iff`, `Splits.unescape?_eq_none_iff`: a body means what its pieces mean, unless one fails.
- `Cut.code_lt`: no number that a code is read through is above thirty-two bits.
- `string_means_pieces`: what a string means, given how it is written.
-/
import Mathlib.Tactic
import Trialbook.Proofs.LiteralGrammar

namespace Trialbook.StringLiteral

variable {c d : Char} {n base : Nat} {m more rest rest' body delimiter letters ds cs : List Char} {p p' : Piece}
  {ps ps' : List Piece} {token s : String}

/-! ## Pieces -/

/-- a character, an escape with the characters it takes after its first, or a backslash with nothing after it -/
inductive Piece where
  | plain (c : Char)
  | escape (c : Char) (more : List Char)
  | backslash
  deriving DecidableEq, Repr

/-- how a piece is written -/
def Piece.text : Piece → List Char
  | plain c => [c]
  | escape c more => '\\' :: c :: more
  | backslash => ['\\']

/-- the escapes that stand for one character, and that character -/
def named : List (Char × Char) :=
  [('\\', '\\'), ('\'', '\''), ('"', '"'), ('a', '\x07'), ('b', '\x08'), ('f', '\x0c'), ('n', '\n'), ('r', '\r'),
    ('t', '\t'), ('v', '\x0b')]

/-- the escapes that give a code point in hexadecimal digits, and how many they give it in -/
def widths : List (Char × Nat) := [('x', 2), ('u', 4), ('U', 8)]

/-- a hexadecimal digit of either case -/
def IsHex (c : Char) : Prop := '0' ≤ c ∧ c ≤ '9' ∨ 'a' ≤ c ∧ c ≤ 'f' ∨ 'A' ≤ c ∧ c ≤ 'F'

/-- the number that digits write in a base -/
def codeOf (base : Nat) (ds : List Char) : Nat := Integer.ofDigits base (ds.map Integer.digitValue)

/-- a piece that ends where `rest` begins -/
inductive Cut : Piece → List Char → Prop where
  | plain {c : Char} {rest : List Char} : c ≠ '\\' → Cut (.plain c) rest
  /-- a line break of two characters is taken whole -/
  | joined {rest : List Char} : Cut (.escape '\r' ['\n']) rest
  | broken {rest : List Char} : rest.head? ≠ some '\n' → Cut (.escape '\r' []) rest
  /-- up to three octal digits, as many as are there -/
  | octal {c : Char} {more rest : List Char} : isOctal c = true → (∀ d ∈ more, isOctal d = true) → more.length ≤ 2 →
    (more.length < 2 → ∀ d ∈ rest.head?, isOctal d = false) → Cut (.escape c more) rest
  /-- as many characters as the width says, or all that there are -/
  | coded {c : Char} {n : Nat} {more rest : List Char} : (c, n) ∈ widths →
    more.length = n ∨ more.length < n ∧ rest = [] → Cut (.escape c more) rest
  | single {c : Char} {rest : List Char} : c ≠ '\r' → isOctal c = false → c ∉ widths.map Prod.fst →
    Cut (.escape c []) rest
  | backslash : Cut .backslash []

/-- a body as pieces, one after the other -/
inductive Splits : List Char → List Piece → Prop where
  | nil : Splits [] []
  | cons {p : Piece} {rest : List Char} {ps : List Piece} : Cut p rest → Splits rest ps →
    Splits (p.text ++ rest) (p :: ps)

/-- the characters that a piece means -/
inductive Means : Piece → List Char → Prop where
  | plain (c : Char) : Means (.plain c) [c]
  /-- a line break after a backslash is as if it were not there -/
  | fed : Means (.escape '\n' []) []
  | returned (more : List Char) : Means (.escape '\r' more) []
  | named {c k : Char} : (c, k) ∈ named → Means (.escape c []) [k]
  | octal {c : Char} {more : List Char} : isOctal c = true → Means (.escape c more) [Char.ofNat (codeOf 8 (c :: more))]
  | coded {c : Char} {n : Nat} {more : List Char} : (c, n) ∈ widths → more.length = n → (∀ d ∈ more, IsHex d) →
    (codeOf 16 more).isValidChar → Means (.escape c more) [Char.ofNat (codeOf 16 more)]
  /-- an escape that there is not means what is written -/
  | unknown {c : Char} : c ≠ '\n' → c ≠ '\r' → c ∉ StringLiteral.named.map Prod.fst → isOctal c = false →
    c ∉ widths.map Prod.fst → c ≠ 'N' → Means (.escape c []) ['\\', c]
  | backslash : Means .backslash ['\\']

/-- a piece that means nothing at all -/
inductive Fails : Piece → Prop where
  /-- the names of characters are not known -/
  | nameless (more : List Char) : Fails (.escape 'N' more)
  | short {c : Char} {n : Nat} {more : List Char} : (c, n) ∈ widths → more.length < n → Fails (.escape c more)
  | digit {c d : Char} {n : Nat} {more : List Char} : (c, n) ∈ widths → d ∈ more → ¬ IsHex d → Fails (.escape c more)
  /-- no character has the code -/
  | scalar {c : Char} {n : Nat} {more : List Char} : (c, n) ∈ widths → (∀ d ∈ more, IsHex d) →
    ¬ (codeOf 16 more).isValidChar → Fails (.escape c more)

/-- the numbers that the code of an escape is read through: that of the digits so far, and that number made ready for
one more digit -/
inductive Passes : Piece → Nat → Prop where
  | octal {c : Char} {more ds : List Char} : isOctal c = true → ds <+: c :: more →
    Passes (.escape c more) (codeOf 8 ds)
  | octalShifted {c d : Char} {more ds : List Char} : isOctal c = true → ds ++ [d] <+: c :: more →
    Passes (.escape c more) (codeOf 8 ds * 8)
  | coded {c : Char} {n : Nat} {more ds : List Char} : (c, n) ∈ widths → ds <+: more → (∀ d ∈ ds, IsHex d) →
    Passes (.escape c more) (codeOf 16 ds)
  | codedShifted {c : Char} {n : Nat} {more ds : List Char} : (c, n) ∈ widths → ds <+: more → (∀ d ∈ ds, IsHex d) →
    ds.length < n → Passes (.escape c more) (codeOf 16 ds * 16)

/-! ## Digits -/

theorem isOctal_iff : isOctal c = true ↔ Integer.digitValue c < 8 := by
  have order (a b : Char) : a ≤ b ↔ a.toNat ≤ b.toNat := Iff.rfl
  simp only [isOctal, Integer.digitValue, order, Bool.and_eq_true, decide_eq_true_eq, Char.reduceToNat]
  split_ifs <;> omega

theorem isHex_iff : IsHex c ↔ Integer.digitValue c < 16 := by
  have order (a b : Char) : a ≤ b ↔ a.toNat ≤ b.toNat := Iff.rfl
  simp only [IsHex, Integer.digitValue, order, Char.reduceToNat]
  split_ifs <;> omega

theorem codeOf_concat : codeOf base (ds ++ [d]) = codeOf base ds * base + Integer.digitValue d := by
  simp [codeOf, Integer.ofDigits]

/-- digits write a number with no more digits than they are -/
theorem codeOf_lt (digits : ∀ d ∈ ds, Integer.digitValue d < base) : codeOf base ds < base ^ ds.length := by
  induction ds using List.reverseRecOn with
  | nil => exact Nat.one_pos
  | append_singleton ds d ih =>
    have before := ih fun e he => digits e (List.mem_append_left _ he)
    have last := digits d (by simp)
    rw [codeOf_concat, List.length_append, List.length_singleton, Nat.pow_succ]
    calc codeOf base ds * base + Integer.digitValue d
        < codeOf base ds * base + base := Nat.add_lt_add_left last _
      _ = (codeOf base ds + 1) * base := (Nat.succ_mul _ _).symm
      _ ≤ base ^ ds.length * base := Nat.mul_le_mul_right _ before

theorem codeOf_lt_pow {k : Nat} (positive : 0 < base) (digits : ∀ d ∈ ds, Integer.digitValue d < base)
    (few : ds.length ≤ k) : codeOf base ds < base ^ k :=
  Nat.lt_of_lt_of_le (codeOf_lt digits) (Nat.pow_le_pow_right positive few)

theorem natural?_of_digits (given : ds ≠ []) (digits : ∀ d ∈ ds, Integer.digitValue d < base) :
    Integer.natural? base ds = some (codeOf base ds) := by
  have each : ds.mapM (Integer.digit? base) = some (ds.map Integer.digitValue) :=
    mapM_eq_some_iff.2 (List.forall₂_map_right_iff.2 (List.forall₂_same.2 fun d hd => if_pos (digits d hd)))
  rw [Integer.natural?, if_neg (by simpa using given), each, Option.map_some, codeOf]

theorem natural?_of_no_digit (mem : d ∈ ds) (other : ¬ Integer.digitValue d < base) :
    Integer.natural? base ds = none := by
  refine Option.eq_none_iff_forall_ne_some.2 fun n read => other ?_
  unfold Integer.natural? at read
  split_ifs at read
  obtain ⟨digits, each, -⟩ := Option.map_eq_some_iff.1 read
  obtain ⟨k, -, digit⟩ := exists_mem_of_forall₂ (mapM_eq_some_iff.1 each).flip mem
  have read : Integer.digit? base d = some k := digit
  rw [Integer.digit?] at read
  split_ifs at read

/-! ## Escapes -/

/-- octal digits that are followed by none, or are as many as there may be, are all that are taken -/
theorem takeWhile_isOctal (octal : ∀ d ∈ more, isOctal d = true) (few : more.length ≤ 2)
    (most : more.length < 2 → ∀ d ∈ rest.head?, isOctal d = false) :
    ((more ++ rest).take 2).takeWhile isOctal = more := by
  have after : (rest.take (2 - more.length)).takeWhile isOctal = [] := by
    by_cases full : more.length = 2
    · rw [full, Nat.sub_self, List.take_zero, List.takeWhile_nil]
    · cases rest with
      | nil => simp
      | cons e rest =>
        have stop := most (by omega) e rfl
        obtain ⟨k, room⟩ : ∃ k, 2 - more.length = k + 1 := ⟨1 - more.length, by omega⟩
        rw [room, List.take_succ_cons, List.takeWhile_cons_of_neg (by simp [stop])]
  rw [List.take_append, List.take_of_length_le few, List.takeWhile_append_of_pos octal, after, List.append_nil]

theorem charOf?_octal (first : isOctal c = true) (octal : ∀ d ∈ more, isOctal d = true) (few : more.length ≤ 2) :
    charOf? 8 (c :: more) = some (Char.ofNat (codeOf 8 (c :: more))) := by
  have digits : ∀ d ∈ c :: more, Integer.digitValue d < 8 := fun d hd => by
    rcases List.mem_cons.1 hd with rfl | hd
    · exact isOctal_iff.1 first
    · exact isOctal_iff.1 (octal d hd)
  have small := codeOf_lt_pow (by decide) digits (Nat.succ_le_succ few)
  have valid : (codeOf 8 (c :: more)).isValidChar := .inl (by omega)
  rw [charOf?, natural?_of_digits (List.cons_ne_nil _ _) digits, Option.bind_eq_bind, Option.bind_some, if_pos valid]

theorem hexEscape?_append (whole : more.length = n) :
    hexEscape? n (more ++ rest) = (charOf? 16 more).map fun k => ([k], n) := by
  rw [hexEscape?, List.take_left' whole, if_pos whole]

theorem given_of_mem_widths (coded : (c, n) ∈ widths) (whole : more.length = n) : more ≠ [] := by
  rintro rfl
  rw [← whole] at coded
  simp [widths] at coded

/-- what an escape with a width is read by -/
theorem escape?_coded (coded : (c, n) ∈ widths) : escape? c cs = hexEscape? n cs := by
  simp only [widths, List.mem_cons, Prod.mk.injEq, List.not_mem_nil, or_false] at coded
  rcases coded with ⟨rfl, rfl⟩ | ⟨rfl, rfl⟩ | ⟨rfl, rfl⟩ <;> rfl

theorem escape?_named {k : Char} (h : (c, k) ∈ named) : escape? c cs = some ([k], 0) := by
  simp only [named, List.mem_cons, Prod.mk.injEq, List.not_mem_nil, or_false] at h
  rcases h with ⟨rfl, rfl⟩ | ⟨rfl, rfl⟩ | ⟨rfl, rfl⟩ | ⟨rfl, rfl⟩ | ⟨rfl, rfl⟩ | ⟨rfl, rfl⟩ | ⟨rfl, rfl⟩ | ⟨rfl, rfl⟩ |
    ⟨rfl, rfl⟩ | ⟨rfl, rfl⟩ <;> rfl

/-- escapes that are no line breaks and do not stand for one character -/
theorem escape?_of_not_named (feed : c ≠ '\n') (carriage : c ≠ '\r') (other : c ∉ named.map Prod.fst) :
    escape? c cs =
      if isOctal c then
        (charOf? 8 (c :: (cs.take 2).takeWhile isOctal)).map fun k => ([k], ((cs.take 2).takeWhile isOctal).length)
      else if c = 'x' then hexEscape? 2 cs
      else if c = 'u' then hexEscape? 4 cs
      else if c = 'U' then hexEscape? 8 cs
      else if c = 'N' then none
      else some (['\\', c], 0) := by
  simp only [named, List.map_cons, List.map_nil, List.mem_cons, List.not_mem_nil, or_false, not_or] at other
  simp [escape?, feed, carriage, other]

theorem not_named_of_isOctal (first : isOctal c = true) :
    c ≠ '\n' ∧ c ≠ '\r' ∧ c ∉ named.map Prod.fst ∧ c ∉ widths.map Prod.fst := by
  have none : ∀ d ∈ '\n' :: '\r' :: (named.map Prod.fst ++ widths.map Prod.fst), isOctal d = false := by
    simp [named, widths, isOctal]
  simp only [List.forall_mem_cons, List.forall_mem_append] at none
  have apart (d : Char) (no : isOctal d = false) : c ≠ d := fun same => by simp [← same, first] at no
  exact ⟨apart _ none.1, apart _ none.2.1, fun mem => apart c (none.2.2.1 c mem) rfl,
    fun mem => apart c (none.2.2.2 c mem) rfl⟩

theorem escape?_octal (first : isOctal c = true) (octal : ∀ d ∈ more, isOctal d = true) (few : more.length ≤ 2)
    (most : more.length < 2 → ∀ d ∈ rest.head?, isOctal d = false) :
    escape? c (more ++ rest) = some ([Char.ofNat (codeOf 8 (c :: more))], more.length) := by
  obtain ⟨feed, carriage, other, -⟩ := not_named_of_isOctal first
  rw [escape?_of_not_named feed carriage other, if_pos first, takeWhile_isOctal octal few most,
    charOf?_octal first octal few, Option.map_some]

theorem escape?_unknown (feed : c ≠ '\n') (carriage : c ≠ '\r') (other : c ∉ named.map Prod.fst)
    (octal : isOctal c = false) (coded : c ∉ widths.map Prod.fst) (nameless : c ≠ 'N') :
    escape? c cs = some (['\\', c], 0) := by
  simp only [widths, List.map_cons, List.map_nil, List.mem_cons, List.not_mem_nil, or_false, not_or] at coded
  simp [escape?_of_not_named feed carriage other, octal, coded, nameless]

/-- digits as many as the width says give a character, or the code of none -/
theorem escape?_hex (coded : (c, n) ∈ widths) (whole : more.length = n) (hex : ∀ d ∈ more, IsHex d) :
    escape? c (more ++ rest) =
      if (codeOf 16 more).isValidChar then some ([Char.ofNat (codeOf 16 more)], n) else none := by
  have digits : ∀ d ∈ more, Integer.digitValue d < 16 := fun d hd => isHex_iff.1 (hex d hd)
  have given := given_of_mem_widths coded whole
  rw [escape?_coded coded, hexEscape?_append whole, charOf?, natural?_of_digits given digits, Option.bind_eq_bind,
    Option.bind_some]
  split <;> rfl

theorem escape?_short (coded : (c, n) ∈ widths) (short : more.length < n) : escape? c more = none := by
  have few : (more.take n).length ≠ n := by
    rw [List.length_take]
    omega
  rw [escape?_coded coded, hexEscape?, if_neg few]

namespace Cut

theorem of_isOctal (cut : Cut (.escape c more) rest) (first : isOctal c = true) :
    (∀ d ∈ more, isOctal d = true) ∧ more.length ≤ 2 ∧ (more.length < 2 → ∀ d ∈ rest.head?, isOctal d = false) := by
  cases cut with
  | joined | broken => cases first
  | octal _ octal few most => exact ⟨octal, few, most⟩
  | coded width => exact absurd (List.mem_map_of_mem width) (not_named_of_isOctal first).2.2.2
  | single _ other => simp [first] at other

theorem of_mem_widths (cut : Cut (.escape c more) rest) (coded : (c, n) ∈ widths) :
    more.length = n ∨ more.length < n ∧ rest = [] := by
  have once : ∀ w ∈ widths, ∀ v ∈ widths, w.1 = v.1 → w.2 = v.2 := by decide
  cases cut with
  | joined | broken => simp [widths] at coded
  | octal first => exact absurd (List.mem_map_of_mem coded) (not_named_of_isOctal first).2.2.2
  | coded width room =>
    obtain rfl := once _ width _ coded rfl
    exact room
  | single _ _ other => exact absurd (List.mem_map_of_mem coded) other

theorem length_le_of_mem_widths (cut : Cut (.escape c more) rest) (coded : (c, n) ∈ widths) : more.length ≤ n := by
  rcases cut.of_mem_widths coded with whole | ⟨short, -⟩
  · exact Nat.le_of_eq whole
  · exact Nat.le_of_lt short

/-- an escape is read as what it means, and takes the characters that it was cut off with -/
theorem escape?_of_means (cut : Cut (.escape c more) rest) (means : Means (.escape c more) m) :
    escape? c (more ++ rest) = some (m, more.length) := by
  cases means with
  | fed => rfl
  | returned =>
    cases cut with
    | joined => rfl
    | broken feedless => simp [escape?, feedless]
    | octal first => cases first
    | coded width => simp [widths] at width
    | single other => exact absurd rfl other
  | named mem => exact escape?_named mem
  | octal first =>
    obtain ⟨octal, few, most⟩ := cut.of_isOctal first
    exact escape?_octal first octal few most
  | coded width whole hex valid =>
    rw [escape?_hex width whole hex, if_pos valid, whole]
  | unknown feed carriage other octal coded nameless => exact escape?_unknown feed carriage other octal coded nameless

/-- an escape that fails is not read -/
theorem escape?_of_fails (cut : Cut (.escape c more) rest) (fails : Fails (.escape c more)) :
    escape? c (more ++ rest) = none := by
  have whole_or_none {n : Nat} (width : (c, n) ∈ widths) : more.length = n ∨ escape? c (more ++ rest) = none := by
    rcases cut.of_mem_widths width with whole | ⟨short, rfl⟩
    · exact .inl whole
    · exact .inr ((List.append_nil more).symm ▸ escape?_short width short)
  cases fails with
  | nameless => rfl
  | short width few => exact (whole_or_none width).resolve_left (Nat.ne_of_lt few)
  | digit width mem other =>
    refine (whole_or_none width).elim (fun whole => ?_) id
    rw [escape?_coded width, hexEscape?_append whole, charOf?, natural?_of_no_digit mem (mt isHex_iff.2 other)]
    rfl
  | scalar width hex invalid =>
    refine (whole_or_none width).elim (fun whole => ?_) id
    rw [escape?_hex width whole hex, if_neg invalid]

theorem not_fails (cut : Cut p rest) (means : Means p m) : ¬ Fails p := by
  intro fails
  cases p with
  | plain | backslash => cases fails
  | escape c more =>
    have read := cut.escape?_of_means means
    rw [cut.escape?_of_fails fails] at read
    cases read

/-- a piece means something or fails -/
theorem means_or_fails (cut : Cut p rest) : (∃ m, Means p m) ∨ Fails p := by
  cases cut with
  | @plain c => exact .inl ⟨_, .plain c⟩
  | joined | broken => exact .inl ⟨_, .returned _⟩
  | octal first => exact .inl ⟨_, .octal first⟩
  | @coded c n more _ width room =>
    rcases room with whole | ⟨short, -⟩
    · by_cases hex : ∀ d ∈ more, IsHex d
      · by_cases valid : (codeOf 16 more).isValidChar
        · exact .inl ⟨_, .coded width whole hex valid⟩
        · exact .inr (.scalar width hex valid)
      · obtain ⟨d, other⟩ := not_forall.1 hex
        obtain ⟨mem, other⟩ := Classical.not_imp.1 other
        exact .inr (.digit width mem other)
    · exact .inr (.short width short)
  | @single c _ carriage octal coded =>
    by_cases feed : c = '\n'
    · exact .inl ⟨[], feed ▸ .fed⟩
    · by_cases name : c ∈ StringLiteral.named.map Prod.fst
      · obtain ⟨⟨_, k⟩, mem, rfl⟩ := List.mem_map.1 name
        exact .inl ⟨[k], .named mem⟩
      · by_cases nameless : c = 'N'
        · exact .inr (nameless ▸ .nameless [])
        · exact .inl ⟨_, .unknown feed carriage name octal coded nameless⟩
  | backslash => exact .inl ⟨_, .backslash⟩

/-! ## Reading a piece -/

/-- a piece that means something is replaced by what it means -/
theorem unescape?_of_means (cut : Cut p rest) (means : Means p m) :
    unescape? (p.text ++ rest) = (unescape? rest).map (m ++ ·) := by
  cases p with
  | plain c =>
    cases cut with
    | plain other =>
      cases means
      show unescape? (c :: rest) = _
      rw [unescape?]
      · rfl
      all_goals simp [other]
  | escape c more =>
    show unescape? ('\\' :: c :: (more ++ rest)) = _
    rw [unescape?, cut.escape?_of_means means]
    simp only [List.drop_left]
  | backslash =>
    cases cut
    cases means
    simp [Piece.text, unescape?]

theorem unescape?_of_fails (cut : Cut p rest) (fails : Fails p) : unescape? (p.text ++ rest) = none := by
  cases p with
  | plain | backslash => cases fails
  | escape c more =>
    show unescape? ('\\' :: c :: (more ++ rest)) = _
    rw [unescape?, cut.escape?_of_fails fails]

/-- no number that a code is read through is above thirty-two bits -/
theorem code_lt (cut : Cut p rest) (passes : Passes p n) : n < 2 ^ 32 := by
  have wide : ∀ w ∈ widths, w.2 ≤ 8 := by decide
  have octal {c : Char} {more ds : List Char} (cut : Cut (.escape c more) rest) (first : isOctal c = true)
      (taken : ds <+: c :: more) : ds.length ≤ 3 ∧ ∀ d ∈ ds, Integer.digitValue d < 8 := by
    obtain ⟨digits, few, -⟩ := cut.of_isOctal first
    refine ⟨Nat.le_trans taken.length_le (Nat.succ_le_succ few), fun d hd => isOctal_iff.1 ?_⟩
    rcases List.mem_cons.1 (taken.subset hd) with rfl | mem
    · exact first
    · exact digits d mem
  cases passes with
  | octal first taken =>
    obtain ⟨few, digits⟩ := octal cut first taken
    have small := codeOf_lt_pow (by decide) digits few
    omega
  | octalShifted first taken =>
    obtain ⟨few, digits⟩ := octal cut first taken
    rw [List.length_append, List.length_singleton] at few
    have before : ∀ d ∈ _, Integer.digitValue d < 8 := fun d hd => digits d (List.mem_append_left _ hd)
    have small := codeOf_lt_pow (by decide) before (Nat.le_of_succ_le_succ few)
    omega
  | coded width taken hex =>
    have few := Nat.le_trans (cut.length_le_of_mem_widths width) (wide _ width)
    have small := codeOf_lt_pow (by decide) (fun d hd => isHex_iff.1 (hex d hd)) (Nat.le_trans taken.length_le few)
    omega
  | codedShifted width taken hex room =>
    have few := Nat.le_of_lt_succ (Nat.lt_of_lt_of_le room (wide _ width))
    have small := codeOf_lt_pow (by decide) (fun d hd => isHex_iff.1 (hex d hd)) few
    omega

/-! ## Cutting pieces off -/

/-- how many of the characters that follow an escape belongs to it -/
def reach (c : Char) (cs : List Char) : Nat :=
  if c = '\r' then (if cs.head? = some '\n' then 1 else 0)
  else if isOctal c then ((cs.take 2).takeWhile isOctal).length
  else min ((widths.lookup c).getD 0) cs.length

theorem length_eq_reach (cut : Cut (.escape c more) rest) : more.length = reach c (more ++ rest) := by
  cases cut with
  | joined => rfl
  | broken feedless => simp [reach, feedless]
  | octal first octal few most =>
    rw [reach, if_neg (not_named_of_isOctal first).2.1, if_pos first, takeWhile_isOctal octal few most]
  | coded width room =>
    have look : ∀ w ∈ widths, w.1 ≠ '\r' ∧ isOctal w.1 = false ∧ widths.lookup w.1 = some w.2 := by decide
    obtain ⟨carriage, octal, found⟩ := look _ width
    rw [reach, if_neg carriage, octal, if_neg (by decide), found, Option.getD_some, List.length_append]
    rcases room with whole | ⟨short, rfl⟩
    · omega
    · rw [List.length_nil]
      omega
  | single carriage octal coded =>
    have none : widths.lookup c = none :=
      List.lookup_eq_none_iff.2 fun w hw => by simpa using fun same : c = w.1 => coded (same ▸ List.mem_map_of_mem hw)
    rw [reach, if_neg carriage, octal, if_neg (by decide), none, Option.getD_none, Nat.zero_min, List.length_nil]

/-- what is written as a piece and a rest is so in one way -/
theorem unique (cut : Cut p rest) (cut' : Cut p' rest') (same : p.text ++ rest = p'.text ++ rest') :
    p = p' ∧ rest = rest' := by
  cases p with
  | plain c =>
    cases cut with
    | plain other =>
      cases p' with
      | plain c' => simpa [Piece.text] using same
      | escape | backslash => exact absurd (List.cons.inj same).1 other
  | escape c more =>
    cases p' with
    | plain c' =>
      cases cut' with
      | plain other => exact absurd (List.cons.inj same).1.symm other
    | escape c' more' =>
      obtain ⟨rfl, after⟩ := List.cons.inj (List.cons.inj same).2
      have length : more.length = more'.length := by
        rw [cut.length_eq_reach, cut'.length_eq_reach]
        exact congrArg (reach c) after
      obtain ⟨rfl, rfl⟩ := List.append_inj after length
      exact ⟨rfl, rfl⟩
    | backslash =>
      cases cut'
      simp [Piece.text] at same
  | backslash =>
    cases cut
    cases p' with
    | plain c' =>
      cases cut' with
      | plain other => exact absurd (List.cons.inj same).1.symm other
    | escape c' more' => simp [Piece.text] at same
    | backslash =>
      cases cut'
      exact ⟨rfl, rfl⟩

/-- the digits at the head of a list, as many as are there and at most a number of them -/
theorem exists_digits (digit : Char → Bool) (k : Nat) (cs : List Char) :
    ∃ more rest, cs = more ++ rest ∧ (∀ d ∈ more, digit d = true) ∧ more.length ≤ k ∧
      (more.length < k → ∀ d ∈ rest.head?, digit d = false) := by
  induction k generalizing cs with
  | zero => exact ⟨[], cs, rfl, by simp, Nat.le_refl _, by simp⟩
  | succ k ih =>
    by_cases first : ∃ d rest, cs = d :: rest ∧ digit d = true
    · obtain ⟨d, rest, rfl, yes⟩ := first
      obtain ⟨more, after, rfl, digits, few, most⟩ := ih rest
      exact ⟨d :: more, after, rfl, by simpa [yes] using digits, Nat.succ_le_succ few,
        fun room => most (Nat.lt_of_succ_lt_succ room)⟩
    · refine ⟨[], cs, rfl, by simp, Nat.zero_le _, fun _ d hd => ?_⟩
      obtain ⟨rest, rfl⟩ := List.head?_eq_some_iff.1 hd
      simpa using mt (fun yes => ⟨d, rest, rfl, yes⟩) first

theorem exists_escape (c : Char) (cs : List Char) : ∃ more rest, cs = more ++ rest ∧ Cut (.escape c more) rest := by
  by_cases carriage : c = '\r'
  · subst carriage
    by_cases feed : cs.head? = some '\n'
    · obtain ⟨rest, rfl⟩ := List.head?_eq_some_iff.1 feed
      exact ⟨['\n'], rest, rfl, .joined⟩
    · exact ⟨[], cs, rfl, .broken feed⟩
  · by_cases first : isOctal c = true
    · obtain ⟨more, rest, same, octal, few, most⟩ := exists_digits isOctal 2 cs
      exact ⟨more, rest, same, .octal first octal few most⟩
    · by_cases coded : c ∈ widths.map Prod.fst
      · obtain ⟨⟨_, n⟩, width, rfl⟩ := List.mem_map.1 coded
        refine ⟨cs.take n, cs.drop n, (List.take_append_drop n cs).symm, .coded width ?_⟩
        rw [List.length_take, List.drop_eq_nil_iff]
        omega
      · exact ⟨[], cs, rfl, .single carriage (by simpa using first) coded⟩

end Cut

/-! ## Bodies -/

namespace Splits

theorem exists_splits (body : List Char) : ∃ pieces, Splits body pieces := by
  match body with
  | [] => exact ⟨[], .nil⟩
  | c :: cs =>
    by_cases plain : c = '\\'
    · subst plain
      match cs with
      | [] => exact ⟨[.backslash], .cons .backslash .nil⟩
      | e :: after =>
        obtain ⟨more, rest, rfl, cut⟩ := Cut.exists_escape e after
        obtain ⟨ps, splits⟩ := exists_splits rest
        exact ⟨.escape e more :: ps, .cons cut splits⟩
    · obtain ⟨ps, splits⟩ := exists_splits cs
      exact ⟨.plain c :: ps, .cons (.plain plain) splits⟩
termination_by body.length

theorem unique (h : Splits body ps) (h' : Splits body ps') : ps = ps' := by
  induction h generalizing ps' with
  | nil =>
    generalize empty : ([] : List Char) = b at h'
    cases h' with
    | nil => rfl
    | @cons p => cases p <;> cases empty
  | @cons p rest ps cut _ ih =>
    generalize same : p.text ++ rest = b at h'
    cases h' with
    | nil => cases p <;> cases same
    | cons cut' splits =>
      obtain ⟨rfl, rfl⟩ := cut.unique cut' same
      rw [ih splits]

/-- a body means what its pieces mean, one after the other -/
theorem unescape?_eq_some_iff (h : Splits body ps) :
    unescape? body = some cs ↔ ∃ ms, List.Forall₂ Means ps ms ∧ cs = ms.flatten := by
  induction h generalizing cs with
  | nil => simp [unescape?, eq_comm]
  | @cons p rest ps cut _ ih =>
    constructor
    · intro read
      obtain ⟨m, means⟩ | fails := cut.means_or_fails
      · rw [cut.unescape?_of_means means] at read
        obtain ⟨tail, after, rfl⟩ := Option.map_eq_some_iff.1 read
        obtain ⟨ms, each, rfl⟩ := ih.1 after
        exact ⟨m :: ms, .cons means each, rfl⟩
      · rw [cut.unescape?_of_fails fails] at read
        cases read
    · rintro ⟨_, each, rfl⟩
      cases each with
      | @cons _ m _ ms means each =>
        rw [cut.unescape?_of_means means, ih.2 ⟨ms, each, rfl⟩, Option.map_some, List.flatten_cons]

/-- a body means nothing when one of its pieces fails -/
theorem unescape?_eq_none_iff (h : Splits body ps) : unescape? body = none ↔ ∃ p ∈ ps, Fails p := by
  induction h with
  | nil => simp [unescape?]
  | @cons p rest ps cut _ ih =>
    obtain ⟨m, means⟩ | fails := cut.means_or_fails
    · rw [cut.unescape?_of_means means, Option.map_eq_none_iff, ih]
      simp [cut.not_fails means]
    · rw [cut.unescape?_of_fails fails]
      exact ⟨fun _ => ⟨p, List.mem_cons_self, fails⟩, fun _ => rfl⟩

theorem code_lt (h : Splits body ps) (mem : p ∈ ps) (passes : Passes p n) : n < 2 ^ 32 := by
  induction h with
  | nil => cases mem
  | cons cut _ ih =>
    rcases List.mem_cons.1 mem with rfl | after
    · exact cut.code_lt passes
    · exact ih after

end Splits

/-! ## Tokens -/

/-- the quotes that a string is written between -/
def delimiters : List (List Char) := [['\''], ['"'], ['\'', '\'', '\''], ['"', '"', '"']]

/-- quotes are in a body where no backslash takes them -/
inductive Unescaped (delimiter : List Char) : List Char → Prop where
  | here {body : List Char} : delimiter <+: body → Unescaped delimiter body
  | plain {c : Char} {body : List Char} : c ≠ '\\' → Unescaped delimiter body → Unescaped delimiter (c :: body)
  | escaped (c : Char) {body : List Char} : Unescaped delimiter body → Unescaped delimiter ('\\' :: c :: body)

theorem Unescaped.isInfix (h : Unescaped delimiter body) : delimiter <:+: body := by
  induction h with
  | here first => exact first.isInfix
  | plain _ _ ih => exact ih.trans (List.suffix_cons _ _).isInfix
  | escaped _ _ ih => exact ih.trans ((List.suffix_cons _ _).trans (List.suffix_cons _ _)).isInfix

/-- a string as it is written: prefix, quotes, a body that does not have them unescaped, the same quotes -/
structure Written (token : String) (letters delimiter body : List Char) : Prop where
  written : token.toList = letters ++ (delimiter ++ (body ++ delimiter))
  unquoted : ∀ c ∈ letters, isQuote c = false
  delimited : delimiter ∈ delimiters
  inside : ¬ Unescaped delimiter body

theorem Written.parts (h : Written token letters delimiter body) : Parts token letters delimiter body delimiter := by
  have single {q : Char} (inside : ¬ Unescaped [q] body) : ¬ [q, q] <+: body ++ [q] := by
    cases body with
    | nil => simp
    | cons c cs =>
      intro double
      obtain ⟨rfl, -⟩ := List.cons_prefix_cons.1 double
      exact inside (.here ⟨cs, rfl⟩)
  refine ⟨h.written, h.unquoted, ?_, rfl⟩
  have delimited := h.delimited
  have inside := h.inside
  simp only [delimiters, List.mem_cons, List.not_mem_nil, or_false] at delimited
  rcases delimited with rfl | rfl | rfl | rfl
  · exact ⟨'\'', rfl, .inr ⟨rfl, single inside⟩⟩
  · exact ⟨'"', rfl, .inr ⟨rfl, single inside⟩⟩
  · exact ⟨'\'', rfl, .inl rfl⟩
  · exact ⟨'"', rfl, .inl rfl⟩

/-- strings one after the other mean what they mean joined, and nothing when one of them means nothing -/
theorem joined?_eq_some_iff {tokens : List String} :
    joined? tokens = some s ↔ ∃ texts, List.Forall₂ (fun t text => value? t = some text) tokens texts ∧
      s = String.join texts := by
  simp only [joined?, Option.map_eq_some_iff, mapM_eq_some_iff, eq_comm]

theorem joined?_eq_none_iff {tokens : List String} : joined? tokens = none ↔ ∃ t ∈ tokens, value? t = none := by
  rw [joined?, Option.map_eq_none_iff]
  induction tokens with
  | nil => simp
  | cons t tokens ih =>
    rw [List.mapM_cons, List.exists_mem_cons_iff, ← ih]
    cases value? t with
    | none => simp
    | some text => cases tokens.mapM value? <;> simp

/-- **What a string means.** A string with a prefix of other letters means nothing. A raw one means its body as it is
written. The body of any other splits into pieces in exactly one way, and the string means what its pieces mean, one
after the other, unless one of them fails; no code in it is read through a number of more than thirty-two bits. Strings
one after the other mean what they mean joined, if each of them means something. -/
theorem string_means_pieces (written : Written token letters delimiter body) :
    ((∃ c ∈ letters, c ∉ plainLetters) → value? token = none) ∧
      ((∀ c ∈ letters, c ∈ plainLetters) → (∃ c ∈ letters, c = 'r' ∨ c = 'R') →
        value? token = some (String.ofList body)) ∧
      (∃ pieces, (∀ other, Splits body other ↔ other = pieces) ∧
        ((∀ c ∈ letters, c = 'u' ∨ c = 'U') →
          (∀ text, value? token = some text ↔ ∃ ms, List.Forall₂ Means pieces ms ∧ text.toList = ms.flatten) ∧
            (value? token = none ↔ ∃ p ∈ pieces, Fails p)) ∧
        ∀ p ∈ pieces, ∀ code, Passes p code → code < 2 ^ 32) ∧
      ∀ tokens,
        (∀ text, joined? tokens = some text ↔
          ∃ texts, List.Forall₂ (fun t part => value? t = some part) tokens texts ∧ text = String.join texts) ∧
          (joined? tokens = none ↔ ∃ t ∈ tokens, value? t = none) := by
  have read := written.parts.value?_eq
  refine ⟨fun ⟨c, mem, other⟩ => ?_, fun plain raw => ?_, ?_,
    fun tokens => ⟨fun text => joined?_eq_some_iff, joined?_eq_none_iff⟩⟩
  · have marked : (letters.any fun c => !plainLetters.contains c) = true := by
      simpa using ⟨c, mem, other⟩
    rw [read, if_pos marked]
  · rw [read, if_neg (by simpa using plain), if_pos (by simpa using raw)]
  · obtain ⟨pieces, splits⟩ := Splits.exists_splits body
    refine ⟨pieces, fun other => ⟨fun h => h.unique splits, fun same => same ▸ splits⟩, fun unmarked => ?_,
      fun p mem code passes => splits.code_lt mem passes⟩
    have plain : ∀ c ∈ letters, c ∈ plainLetters := fun c hc => by
      rcases unmarked c hc with rfl | rfl <;> decide
    have escaped : ¬ ∃ c ∈ letters, c = 'r' ∨ c = 'R' := fun ⟨c, hc, raw⟩ => by
      rcases unmarked c hc with rfl | rfl <;> simp at raw
    rw [if_neg (by simpa using plain), if_neg (by simpa using escaped)] at read
    refine ⟨fun text => ?_, ?_⟩
    · rw [read, Option.map_eq_some_iff]
      constructor
      · rintro ⟨meaning, meant, rfl⟩
        simpa using splits.unescape?_eq_some_iff.1 meant
      · intro meant
        exact ⟨text.toList, splits.unescape?_eq_some_iff.2 meant, String.ofList_toList⟩
    · rw [read, Option.map_eq_none_iff, splits.unescape?_eq_none_iff]

/-- a quote is taken by a backslash, three octal digits are taken and no more, an escape that there is not is kept -/
theorem string_means_pieces_octal :
    Written "u'\\'\\1012\\q'" ['u'] ['\''] ['\\', '\'', '\\', '1', '0', '1', '2', '\\', 'q'] ∧
      value? "u'\\'\\1012\\q'" = some "'A2\\q" := by
  have inside : ¬ Unescaped ['\''] ['\\', '\'', '\\', '1', '0', '1', '2', '\\', 'q'] := by
    rintro (start | ⟨other, -⟩ | ⟨-, after⟩)
    · exact absurd start (by decide)
    · exact other rfl
    · exact absurd after.isInfix (by decide)
  have splits : Splits ['\\', '\'', '\\', '1', '0', '1', '2', '\\', 'q']
      [.escape '\'' [], .escape '1' ['0', '1'], .plain '2', .escape 'q' []] := by
    show Splits ((Piece.escape '\'' []).text ++ ((Piece.escape '1' ['0', '1']).text ++ ((Piece.plain '2').text ++
      ((Piece.escape 'q' []).text ++ [])))) _
    exact .cons (.single (by decide) (by decide) (by decide))
      (.cons (.octal (by decide) (List.all_eq_true.1 (by decide)) (by decide) (by decide))
        (.cons (.plain (by decide)) (.cons (.single (by decide) (by decide) (by decide)) .nil)))
  have written : Written "u'\\'\\1012\\q'" ['u'] ['\''] ['\\', '\'', '\\', '1', '0', '1', '2', '\\', 'q'] :=
    ⟨rfl, by simp [isQuote], by decide, inside⟩
  obtain ⟨-, -, ⟨pieces, only, decode, -⟩, -⟩ := string_means_pieces written
  obtain rfl := (only _).1 splits
  have letter : Char.ofNat (codeOf 8 ['1', '0', '1']) = 'A' := by decide
  refine ⟨written, ((decode (by simp)).1 _).2
    ⟨[['\''], [Char.ofNat (codeOf 8 ['1', '0', '1'])], ['2'], ['\\', 'q']], ?_, by rw [letter]; rfl⟩⟩
  exact .cons (.named (by decide)) (.cons (.octal (by decide)) (.cons (.plain _)
    (.cons (.unknown (by decide) (by decide) (by decide) (by decide) (by decide) (by decide)) .nil)))

end Trialbook.StringLiteral
