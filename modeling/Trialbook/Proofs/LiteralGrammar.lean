/-
LITERAL GRAMMAR: which expressions denote a literal, and which literal that is.

The grammar has four levels. A string token is a plain prefix, quotes, a body and quotes (`StringLiteral.Denotes`). A
number is a token, or a sign or parentheses around a number (`Source.Expr.DenotesNumber`). A scalar is a string, a
number, a truth value or nothing, or parentheses around a scalar (`Source.Expr.DenotesScalar`). A literal is the name of
a kind, a scalar, a list or tuple of scalars, or parentheses around a literal (`Source.Expr.Denotes`).

Code is whatever has a value only when something is run (`Source.Expr.IsCode`): calls, members, items, names of no kind,
stars, operators other than signs, comprehensions, strings with embedded expressions.

Results:
- `StringLiteral.value?_eq_some_iff`, `Source.Expr.scalar?_eq_some_iff`: the readers of strings and scalars read their
  grammars.
- `Source.Expr.exists_of_within`: parts of what denotes a literal denote literals.
- `literal_grammar`: the reader of literals reads its grammar, and nothing that has code in it.
-/
import Trialbook.Declaration.Literal
import Trialbook.Proofs.Traversals

namespace Trialbook

/-! ## Strings -/

namespace StringLiteral

variable {token s : String} {letters opening body closing : List Char}

/-- the prefix letters of a string without embedded expressions that is not of bytes -/
def plainLetters : List Char := ['r', 'R', 'u', 'U']

/-- a token taken apart: prefix, quotes, body, quotes -/
structure Parts (token : String) (letters opening body closing : List Char) : Prop where
  written : token.toList = letters ++ (opening ++ (body ++ closing))
  unquoted : ∀ c ∈ letters, isQuote c = false
  /-- three quotes, or one that no two follow -/
  opened : ∃ q, isQuote q = true ∧ (opening = [q, q, q] ∨ opening = [q] ∧ ¬ [q, q] <+: body ++ closing)
  closed : closing.length = opening.length

/-- a plain string: its body when it is raw, else what its body means once escapes are replaced -/
inductive Denotes (token : String) : String → Prop where
  | raw {letters opening body closing : List Char} : Parts token letters opening body closing →
    (∀ c ∈ letters, c ∈ plainLetters) → (∃ c ∈ letters, c = 'r' ∨ c = 'R') → Denotes token (String.ofList body)
  | escaped {letters opening body closing meaning : List Char} : Parts token letters opening body closing →
    (∀ c ∈ letters, c ∈ plainLetters) → (¬ ∃ c ∈ letters, c = 'r' ∨ c = 'R') → unescape? body = some meaning →
    Denotes token (String.ofList meaning)

/-- has a letter in its prefix that makes it no plain string -/
def IsMarked (token : String) : Prop :=
  ∃ letters rest, token.toList = letters ++ rest ∧ (∀ c ∈ letters, isQuote c = false) ∧ ∃ c ∈ letters, c ∉ plainLetters

theorem isQuote_iff {c : Char} : isQuote c = true ↔ c = '"' ∨ c = '\'' := by
  simp [isQuote]

theorem takeWhile_unquoted {rest : List Char} (unquoted : ∀ c ∈ letters, isQuote c = false) :
    (letters ++ rest).takeWhile (fun c => !isQuote c) = letters ++ rest.takeWhile fun c => !isQuote c :=
  List.takeWhile_append_of_pos fun c hc => by simp [unquoted c hc]

/-- three quotes, or one -/
theorem quoteWidth_cons {q : Char} (quote : isQuote q = true) (rest : List Char) :
    quoteWidth (q :: rest) = if [q, q] <+: rest then 3 else 1 := by
  rcases isQuote_iff.1 quote with rfl | rfl <;> simp [quoteWidth, List.isPrefixOf, ← List.isPrefixOf_iff_prefix]

namespace Parts

theorem takeWhile_eq (h : Parts token letters opening body closing) :
    token.toList.takeWhile (fun c => !isQuote c) = letters := by
  obtain ⟨q, quote, opening_eq⟩ := h.opened
  rw [h.written, takeWhile_unquoted h.unquoted]
  rcases opening_eq with rfl | ⟨rfl, -⟩ <;> simp [quote]

theorem quoteWidth_eq (h : Parts token letters opening body closing) :
    quoteWidth (opening ++ (body ++ closing)) = opening.length := by
  obtain ⟨q, quote, rfl | ⟨rfl, single⟩⟩ := h.opened
  · exact (quoteWidth_cons quote _).trans (if_pos ⟨body ++ closing, rfl⟩)
  · exact (quoteWidth_cons quote _).trans (if_neg single)

/-- how a token is read that can be taken apart -/
theorem value?_eq (h : Parts token letters opening body closing) :
    value? token = if letters.any fun c => !plainLetters.contains c then none
      else if letters.any fun c => c == 'r' || c == 'R' then some (String.ofList body)
      else (unescape? body).map String.ofList := by
  have quoted : token.toList.drop letters.length = opening ++ (body ++ closing) := by rw [h.written, List.drop_left]
  have long : ¬ (opening ++ (body ++ closing)).length < 2 * opening.length := by
    simp only [List.length_append, h.closed]
    omega
  have inner : ((opening ++ (body ++ closing)).drop opening.length).take
      ((opening ++ (body ++ closing)).length - 2 * opening.length) = body := by
    have width : (opening ++ (body ++ closing)).length - 2 * opening.length = body.length := by
      simp only [List.length_append, h.closed]
      omega
    rw [width, List.drop_left, List.take_left]
  simp only [value?, h.takeWhile_eq, quoted, h.quoteWidth_eq, if_neg long, inner]
  rfl

end Parts

/-- what can be read can be taken apart -/
theorem exists_parts (readable : value? token ≠ none) :
    ∃ letters opening body closing, Parts token letters opening body closing := by
  let letters := token.toList.takeWhile fun c => !isQuote c
  let quoted := token.toList.dropWhile fun c => !isQuote c
  have split : token.toList = letters ++ quoted := List.takeWhile_append_dropWhile.symm
  have unquoted : ∀ c ∈ letters, isQuote c = false := fun c hc => by
    simpa using List.all_eq_true.1 List.all_takeWhile c hc
  have long : 2 * quoteWidth quoted ≤ quoted.length := by
    by_contra short
    have rest : token.toList.drop letters.length = quoted := by rw [split, List.drop_left]
    refine readable ?_
    simp only [value?]
    rw [rest, if_pos (Nat.lt_of_not_le short)]
  cases starts : quoted with
  | nil => simp [starts, quoteWidth] at long
  | cons q rest =>
    have quote : isQuote q = true := by
      have first := List.head?_dropWhile_not (fun c => !isQuote c) token.toList
      rw [show token.toList.dropWhile _ = q :: rest from starts] at first
      simpa using first
    rw [starts] at split
    rw [starts, quoteWidth_cons quote, List.length_cons] at long
    by_cases triple : [q, q] <+: rest
    · obtain ⟨more, rfl⟩ := triple
      rw [if_pos ⟨more, rfl⟩, List.length_append, List.length_cons, List.length_singleton] at long
      refine ⟨letters, [q, q, q], more.take (more.length - 3), more.drop (more.length - 3), ?_, unquoted,
        ⟨q, quote, .inl rfl⟩, ?_⟩
      · rw [List.take_append_drop]
        exact split
      · simp only [List.length_drop, List.length_cons, List.length_nil]
        omega
    · rw [if_neg triple] at long
      refine ⟨letters, [q], rest.take (rest.length - 1), rest.drop (rest.length - 1), ?_, unquoted,
        ⟨q, quote, .inr ⟨rfl, ?_⟩⟩, ?_⟩
      · rw [List.take_append_drop]
        exact split
      · rwa [List.take_append_drop]
      · simp only [List.length_drop, List.length_singleton]
        omega

theorem value?_eq_some_iff : value? token = some s ↔ Denotes token s := by
  constructor
  · intro read
    obtain ⟨letters, opening, body, closing, parts⟩ := exists_parts (read ▸ Option.some_ne_none s)
    rw [parts.value?_eq] at read
    split_ifs at read with marked raw
    · obtain rfl := Option.some.inj read
      exact .raw parts (by simpa using marked) (by simpa using raw)
    · obtain ⟨meaning, meant, rfl⟩ := Option.map_eq_some_iff.1 read
      exact .escaped parts (by simpa using marked) (by simpa using raw) meant
  · intro denotes
    cases denotes with
    | raw parts plain raw => rw [parts.value?_eq, if_neg (by simpa using plain), if_pos (by simpa using raw)]
    | escaped parts plain raw meant =>
      rw [parts.value?_eq, if_neg (by simpa using plain), if_neg (by simpa using raw), meant, Option.map_some]

theorem IsMarked.not_denotes (marked : IsMarked token) : ¬ Denotes token s := by
  obtain ⟨letters, rest, split, unquoted, c, hc, special⟩ := marked
  have inPrefix {parsed opening body closing : List Char} (parts : Parts token parsed opening body closing) :
      c ∈ parsed := by
    rw [← parts.takeWhile_eq, split, takeWhile_unquoted unquoted]
    exact List.mem_append_left _ hc
  intro denotes
  cases denotes with
  | raw parts plain _ => exact special (plain c (inPrefix parts))
  | escaped parts plain _ _ => exact special (plain c (inPrefix parts))

end StringLiteral

/-! ## Expressions -/

theorem Kind.ofWord?_eq_some_iff {word : String} {k : Kind} : Kind.ofWord? word = some k ↔ word = k.word := by
  constructor
  · intro named
    rw [Kind.ofWord?] at named
    split_ifs at named <;> cases named <;> assumption
  · rintro rfl
    cases k <;> rfl

/-- the value that an argument is given with -/
def Source.Argument.value? {ε : Type} : Argument ε → Option ε
  | .positional value _ => some value
  | .keyword _ value => some value
  | .spread => none

namespace Source.Expr

/-- a number: a token that has a value, or a sign or parentheses around a number -/
inductive DenotesNumber : Expr → Value → Prop where
  | integer {token : String} {i : Int64} : NumberLiteral.integer? token = some i →
    DenotesNumber (.integer token) (.int i)
  | float {token : String} {x : Binary64} : NumberLiteral.float? token = some x →
    DenotesNumber (.float token) (.float x)
  | plus {e : Expr} {v : Value} : DenotesNumber e v → DenotesNumber (.unary '+' e) v
  /-- the integer with the opposite value, if there is one -/
  | minusInt {e : Expr} {i j : Int64} : DenotesNumber e (.int i) → j.toInt = -i.toInt →
    DenotesNumber (.unary '-' e) (.int j)
  | minusFloat {e : Expr} {x : Binary64} : DenotesNumber e (.float x) → DenotesNumber (.unary '-' e) (.float x.neg)
  | grouped {e : Expr} {v : Value} : DenotesNumber e v → DenotesNumber (.grouped e) v

/-- a scalar: a string, strings one after the other, a number, a truth value, nothing, or parentheses around a scalar -/
inductive DenotesScalar : Expr → Scalar → Prop where
  | string {token s : String} : StringLiteral.Denotes token s → DenotesScalar (.string token) (.value (.str s))
  | strings {tokens parts : List String} : List.Forall₂ StringLiteral.Denotes tokens parts →
    DenotesScalar (.strings tokens) (.value (.str (String.join parts)))
  | number {e : Expr} {v : Value} : DenotesNumber e v → DenotesScalar e (.value v)
  | truth (b : Bool) : DenotesScalar (.truth b) (.value (.bool b))
  | absent : DenotesScalar .absent .absent
  | grouped {e : Expr} {s : Scalar} : DenotesScalar e s → DenotesScalar (.grouped e) s

/-- a literal: the name of a kind, a scalar, a list or tuple of scalars, or parentheses around a literal -/
inductive Denotes : Expr → Literal → Prop where
  | kind (k : Kind) : Denotes (.name k.word) (.kind k)
  | scalar {e : Expr} {s : Scalar} : DenotesScalar e s → Denotes e (.scalar s)
  | list {es : List Expr} {ss : List Scalar} : List.Forall₂ DenotesScalar es ss → Denotes (.list es) (.sequence ss)
  | tuple {es : List Expr} {ss : List Scalar} : List.Forall₂ DenotesScalar es ss → Denotes (.tuple es) (.sequence ss)
  | grouped {e : Expr} {l : Literal} : Denotes e l → Denotes (.grouped e) l

/-! ## Reading scalars -/

variable {e : Expr} {s t : Scalar} {v : Value}

theorem opposite_iff {i j : Int64} : j.toInt = -i.toInt ↔ i ≠ Int64.minValue ∧ j = -i := by
  have least : i = Int64.minValue ↔ i.toInt = -2 ^ 63 := by rw [← Int64.toInt_inj]; rfl
  have above := i.le_toInt
  have below := i.toInt_lt
  have wraps : i.toInt ≠ -2 ^ 63 → (-i).toInt = -i.toInt := fun more => by
    rw [Int64.toInt_neg]
    exact Int.bmod_eq_of_le (by omega) (by omega)
  constructor
  · intro opposite
    have more : i.toInt ≠ -2 ^ 63 := fun least => by
      have := j.toInt_lt
      omega
    exact ⟨mt least.1 more, Int64.toInt_inj.1 (opposite.trans (wraps more).symm)⟩
  · rintro ⟨more, rfl⟩
    exact wraps (mt least.2 more)

theorem DenotesNumber.kind (h : DenotesNumber e v) : (∃ i, v = .int i) ∨ ∃ x, v = .float x := by
  induction h with
  | @integer _ i _ => exact .inl ⟨i, rfl⟩
  | @float _ x _ => exact .inr ⟨x, rfl⟩
  | plus _ ih => exact ih
  | @minusInt _ _ j _ _ _ => exact .inl ⟨j, rfl⟩
  | @minusFloat _ x _ _ => exact .inr ⟨x.neg, rfl⟩
  | grouped _ ih => exact ih

theorem scalar?_of_denotesNumber (h : DenotesNumber e v) : e.scalar? = some (.value v) := by
  induction h with
  | integer read => rw [scalar?, read, Option.map_some]
  | float read => rw [scalar?, read, Option.map_some]
  | plus inner ih =>
    rw [scalar?, ih, Option.bind_some]
    obtain ⟨i, rfl⟩ | ⟨x, rfl⟩ := inner.kind <;> simp [Scalar.signed?]
  | minusInt _ opposite ih =>
    obtain ⟨more, rfl⟩ := opposite_iff.1 opposite
    rw [scalar?, ih, Option.bind_some, Scalar.signed?, if_pos rfl, if_neg more]
  | minusFloat _ ih => rw [scalar?, ih, Option.bind_some, Scalar.signed?, if_pos rfl]
  | grouped _ ih => rw [scalar?, ih]

theorem DenotesScalar.number_of_kind (h : DenotesScalar e s) (value : s = .value v)
    (number : v.kind = .int ∨ v.kind = .float) : DenotesNumber e v := by
  induction h with
  | string | strings | truth =>
    cases value
    simp [Value.kind] at number
  | absent => cases value
  | number inner => cases value; exact inner
  | grouped _ ih => exact .grouped (ih value)

theorem scalar?_of_denotesScalar (h : DenotesScalar e s) : e.scalar? = some s := by
  induction h with
  | string inner => rw [scalar?, StringLiteral.value?_eq_some_iff.2 inner, Option.map_some]
  | strings inner =>
    have read := mapM_eq_some_iff.2 (inner.imp fun _ _ => StringLiteral.value?_eq_some_iff.2)
    rw [scalar?, StringLiteral.joined?, read, Option.map_some, Option.map_some]
  | number inner => exact scalar?_of_denotesNumber inner
  | truth | absent => rfl
  | grouped _ ih => rwa [scalar?]

/-- a sign before a scalar makes a number of a number, and nothing of anything else -/
theorem DenotesScalar.exists_of_signed {operator : Char} (h : DenotesScalar e s)
    (signed : Scalar.signed? operator s = some t) : ∃ w, t = .value w ∧ DenotesNumber (.unary operator e) w := by
  match s, h with
  | .absent, _ => cases signed
  | .value (.str _), _ => cases signed
  | .value (.bool _), _ => cases signed
  | .value (.int i), h =>
    have number := h.number_of_kind rfl (.inl rfl)
    rw [Scalar.signed?] at signed
    split_ifs at signed with minus least plus
    · exact ⟨.int (-i), (Option.some.inj signed).symm, minus ▸ .minusInt number (opposite_iff.2 ⟨least, rfl⟩)⟩
    · exact ⟨.int i, (Option.some.inj signed).symm, plus ▸ .plus number⟩
  | .value (.float x), h =>
    have number := h.number_of_kind rfl (.inr rfl)
    rw [Scalar.signed?] at signed
    split_ifs at signed with minus plus
    · exact ⟨.float x.neg, (Option.some.inj signed).symm, minus ▸ .minusFloat number⟩
    · exact ⟨.float x, (Option.some.inj signed).symm, plus ▸ .plus number⟩

theorem denotesScalar_of_scalar? (read : e.scalar? = some s) : DenotesScalar e s := by
  fun_induction scalar? e generalizing s with
  | case1 token =>
    obtain ⟨text, value, rfl⟩ := Option.map_eq_some_iff.1 read
    exact .string (StringLiteral.value?_eq_some_iff.1 value)
  | case2 tokens =>
    obtain ⟨text, joined, rfl⟩ := Option.map_eq_some_iff.1 read
    obtain ⟨parts, values, rfl⟩ := Option.map_eq_some_iff.1 joined
    exact .strings ((mapM_eq_some_iff.1 values).imp fun _ _ => StringLiteral.value?_eq_some_iff.1)
  | case3 token =>
    obtain ⟨i, value, rfl⟩ := Option.map_eq_some_iff.1 read
    exact .number (.integer value)
  | case4 token =>
    obtain ⟨x, value, rfl⟩ := Option.map_eq_some_iff.1 read
    exact .number (.float value)
  | case5 b =>
    obtain rfl := Option.some.inj read
    exact .truth b
  | case6 =>
    obtain rfl := Option.some.inj read
    exact .absent
  | case7 operator operand ih =>
    obtain ⟨inner, value, signed⟩ := Option.bind_eq_some_iff.1 read
    obtain ⟨w, rfl, number⟩ := (ih value).exists_of_signed signed
    exact .number number
  | case8 inner ih => exact .grouped (ih read)
  | case9 => cases read

/-- the reader of scalars reads what scalars are -/
theorem scalar?_eq_some_iff : e.scalar? = some s ↔ DenotesScalar e s :=
  ⟨denotesScalar_of_scalar?, scalar?_of_denotesScalar⟩

/-! ## Reading literals -/

variable {l : Literal}

theorem items_eq_some_iff {es : List Expr} {ss : List Scalar} :
    es.mapM scalar? = some ss ↔ List.Forall₂ DenotesScalar es ss := by
  rw [mapM_eq_some_iff]
  exact ⟨fun h => h.imp fun _ _ => scalar?_eq_some_iff.1, fun h => h.imp fun _ _ => scalar?_eq_some_iff.2⟩

theorem literal?_of_scalar? (h : e.scalar? = some s) : e.literal? = some (.scalar s) := by
  fun_induction scalar? e with
  | case8 inner ih => exact ih h
  | case9 => cases h
  | _ => simp_all [literal?, scalar?]

theorem literal?_eq_some_iff : e.literal? = some l ↔ Denotes e l := by
  constructor
  · intro read
    fun_induction literal? e with
    | case1 word =>
      obtain ⟨k, named, rfl⟩ := Option.map_eq_some_iff.1 read
      obtain rfl := Kind.ofWord?_eq_some_iff.1 named
      exact .kind k
    | case2 items =>
      obtain ⟨ss, values, rfl⟩ := Option.map_eq_some_iff.1 read
      exact .list (items_eq_some_iff.1 values)
    | case3 items =>
      obtain ⟨ss, values, rfl⟩ := Option.map_eq_some_iff.1 read
      exact .tuple (items_eq_some_iff.1 values)
    | case4 inner ih => exact .grouped (ih read)
    | case5 =>
      obtain ⟨s, value, rfl⟩ := Option.map_eq_some_iff.1 read
      exact .scalar (scalar?_eq_some_iff.1 value)
  · intro denotes
    induction denotes with
    | kind k => rw [literal?, Kind.ofWord?_eq_some_iff.2 rfl, Option.map_some]
    | scalar inner => exact literal?_of_scalar? (scalar?_eq_some_iff.2 inner)
    | list items => rw [literal?, items_eq_some_iff.2 items, Option.map_some]
    | tuple items => rw [literal?, items_eq_some_iff.2 items, Option.map_some]
    | grouped _ ih => rwa [literal?]

/-! ## Parentheses -/

/-- the expression without the parentheses around it -/
def core : Expr → Expr
  | grouped inner => inner.core
  | e => e

theorem denotes_of_core (h : Denotes e.core l) : Denotes e l := by
  fun_induction core e with
  | case1 inner ih => exact .grouped (ih h)
  | case2 => exact h

/-- only the name of a kind denotes one -/
theorem denotes_kind_iff {k : Kind} : Denotes e (.kind k) ↔ e.core = .name k.word := by
  constructor
  · intro denotes
    generalize named : Literal.kind k = l at denotes
    induction denotes with
    | kind => cases named; rfl
    | scalar | list | tuple => cases named
    | grouped _ ih => exact ih named
  · intro name
    exact denotes_of_core (name ▸ .kind k)

/-- only a list or a tuple denotes a sequence, of what its items denote -/
theorem denotes_sequence_iff {ss : List Scalar} :
    Denotes e (.sequence ss) ↔ ∃ es, (e.core = .list es ∨ e.core = .tuple es) ∧ List.Forall₂ DenotesScalar es ss := by
  constructor
  · intro denotes
    generalize sequence : Literal.sequence ss = l at denotes
    induction denotes with
    | kind | scalar => cases sequence
    | list items => cases sequence; exact ⟨_, .inl rfl, items⟩
    | tuple items => cases sequence; exact ⟨_, .inr rfl, items⟩
    | grouped _ ih => exact ih sequence
  · rintro ⟨es, list | tuple, items⟩
    · exact denotes_of_core (list ▸ .list items)
    · exact denotes_of_core (tuple ▸ .tuple items)

/-! ## Code -/

/-- the expressions that an expression is made of -/
def parts : Expr → List Expr
  | unary _ e | grouped e | member e | item e | starred e => [e]
  | list es | tuple es => es
  | call callee arguments => callee :: (arguments.getD []).filterMap Argument.value?
  | _ => []

/-- occurs anywhere in an expression -/
inductive Within (part : Expr) : Expr → Prop where
  | whole : Within part part
  | inside {child e : Expr} : child ∈ e.parts → Within part child → Within part e

/-- has a value only when something is run, if it has one at all -/
inductive IsCode : Expr → Prop where
  | name {word : String} : (∀ k : Kind, word ≠ k.word) → IsCode (.name word)
  | operator {operator : Char} {operand : Expr} : operator ≠ '+' → operator ≠ '-' → IsCode (.unary operator operand)
  | string {token : String} : StringLiteral.IsMarked token → IsCode (.string token)
  | strings {token : String} {tokens : List String} : token ∈ tokens → StringLiteral.IsMarked token →
    IsCode (.strings tokens)
  | call (callee : Expr) (arguments : Option (List (Argument Expr))) : IsCode (.call callee arguments)
  | member (object : Expr) : IsCode (.member object)
  | item (object : Expr) : IsCode (.item object)
  | starred (target : Expr) : IsCode (.starred target)
  | compound : IsCode .compound

theorem IsCode.not_denotes (code : e.IsCode) : ¬ Denotes e l := by
  intro denotes
  cases denotes with
  | kind k => cases code with | name foreign => exact foreign k rfl
  | list | tuple | grouped => cases code
  | scalar inner =>
    cases inner with
    | string plain =>
      cases code with | string marked => exact marked.not_denotes plain
    | strings plain =>
      cases code with
      | strings member marked =>
        obtain ⟨_, -, denotes⟩ := exists_mem_of_forall₂ plain.flip member
        exact marked.not_denotes denotes
    | truth | absent | grouped => cases code
    | number number =>
      cases number with
      | integer | float | grouped => cases code
      | plus => cases code with | operator plus _ => exact plus rfl
      | minusInt | minusFloat => cases code with | operator _ minus => exact minus rfl

/-- what an expression that denotes a literal is made of denotes literals -/
theorem Denotes.exists_of_mem_parts {child : Expr} (h : Denotes e l) (member : child ∈ e.parts) :
    ∃ l, Denotes child l := by
  have ofItem {inner : Expr} {s : Scalar} (hc : child ∈ [inner]) (denotes : DenotesScalar inner s) :
      ∃ l, Denotes child l :=
    ⟨.scalar s, .scalar (List.mem_singleton.1 hc ▸ denotes)⟩
  have ofItems {es : List Expr} {ss : List Scalar} (hc : child ∈ es) (items : List.Forall₂ DenotesScalar es ss) :
      ∃ l, Denotes child l := by
    obtain ⟨s, -, denotes⟩ := exists_mem_of_forall₂ items.flip hc
    exact ⟨.scalar s, .scalar denotes⟩
  cases h with
  | kind => cases member
  | list items => exact ofItems member items
  | tuple items => exact ofItems member items
  | grouped inner => exact ⟨_, List.mem_singleton.1 member ▸ inner⟩
  | scalar inner =>
    cases inner with
    | string | strings | truth | absent => cases member
    | grouped inner => exact ofItem member inner
    | number number =>
      cases number with
      | integer | float => cases member
      | plus inner => exact ofItem member (.number inner)
      | minusInt inner => exact ofItem member (.number inner)
      | minusFloat inner => exact ofItem member (.number inner)
      | grouped inner => exact ofItem member (.number inner)

theorem exists_of_within {part : Expr} (within : part.Within e) (h : Denotes e l) : ∃ l, Denotes part l := by
  induction within generalizing l with
  | whole => exact ⟨l, h⟩
  | inside member _ ih =>
    obtain ⟨l, denotes⟩ := h.exists_of_mem_parts member
    exact ih denotes

end Source.Expr

/-! ## Main result -/

open Source Source.Expr in
/-- **What a literal is.** The reader of literals finds just the literal that an expression denotes, if it denotes one.
It finds a kind only where a name of it stands, and a sequence only where a list or a tuple stands whose items denote
its scalars one by one. Where there is code anywhere in an expression, it finds nothing. -/
theorem literal_grammar (e : Expr) :
    (∀ l, e.literal? = some l ↔ e.Denotes l) ∧ (∀ k, e.literal? = some (.kind k) ↔ e.core = .name k.word) ∧
      (∀ ss, e.literal? = some (.sequence ss) ↔
        ∃ es, (e.core = .list es ∨ e.core = .tuple es) ∧ List.Forall₂ DenotesScalar es ss) ∧
      ∀ part : Expr, part.Within e → part.IsCode → e.literal? = none := by
  refine ⟨fun _ => literal?_eq_some_iff, fun _ => literal?_eq_some_iff.trans denotes_kind_iff,
    fun _ => literal?_eq_some_iff.trans denotes_sequence_iff, fun part within code => ?_⟩
  rw [Option.eq_none_iff_forall_ne_some]
  intro l read
  obtain ⟨l', denotes⟩ := exists_of_within within (literal?_eq_some_iff.1 read)
  exact code.not_denotes denotes

/-- a tuple of strings that stand together, two numbers with signs, and nothing, with parentheses around it -/
def nestedTuple : Source.Expr :=
  .grouped (.tuple [.strings ["u'a'", "\"b\""], .unary '-' (.grouped (.unary '+' (.integer "1_0"))),
    .unary '-' (.float "2_5E-1"), .absent])

/-- two and a half below zero -/
def nestedFloat : Binary64 := ⟨true, ⟨1024, by decide⟩, ⟨0x4000000000000, by decide⟩⟩

def nestedScalars : List Scalar := [.value (.str "ab"), .value (.int (-10)), .value (.float nestedFloat), .absent]

/-- a call in the place of a number -/
def tupleOfCall : Source.Expr := .tuple [.unary '-' (.grouped (.call (.name "size") (some [])))]

theorem literal_grammar_nested :
    (nestedTuple.literal? = some (.sequence nestedScalars) ∧
      ∃ es, (nestedTuple.core = .list es ∨ nestedTuple.core = .tuple es) ∧
        List.Forall₂ Source.Expr.DenotesScalar es nestedScalars) ∧
    Source.Expr.Within (.call (.name "size") (some [])) tupleOfCall ∧ tupleOfCall.literal? = none := by
  have read : nestedTuple.literal? = some (.sequence nestedScalars) := by decide +kernel
  have within : Source.Expr.Within (.call (.name "size") (some [])) tupleOfCall :=
    .inside (List.mem_singleton_self _)
      (.inside (List.mem_singleton_self _) (.inside (List.mem_singleton_self _) .whole))
  exact ⟨⟨read, ((literal_grammar nestedTuple).2.2.1 _).1 read⟩, within,
    (literal_grammar tupleOfCall).2.2.2 _ within (.call _ _)⟩

end Trialbook
