/-
WRITTEN EXPRESSIONS: names, strings, integers and calls, read as they are written.

What may come after an expression that is written whole is a comma, a closing parenthesis, an equals sign, or, where a
statement may end, a line break (`Ends`). There every loop of the reader of expressions stops.

Results:
- `Reads.takes_stringsAt`, `Reads.takes_number`: strings without escapes and decimal integers.
- `Reads.takes_expression`: what is an operand is an expression.
-/
import Trialbook.Proofs.Readers

namespace Trialbook.Source

variable {blocks : List Nat} {k : Char} {e : Expected} {n : Nat} {place : Place} {text rest more cs ds : List Char}
  {s : String} {deeper : Deeper} {operand : Expr}

/-! ## Where an expression ends -/

/-- what may come after an expression that is written whole -/
inductive Ends (place : Place) : List Char → Prop where
  | comma (cs : List Char) : Ends place (',' :: cs)
  | paren (cs : List Char) : Ends place (')' :: cs)
  | equals {k : Char} (cs : List Char) : k ≠ '=' → Ends place ('=' :: k :: cs)
  | line {n : Nat} {rest more : List Char} : place.newline = true → Breaks rest n more → Ends place rest

namespace Ends

theorem symbolOf_equals (cs : List Char) (other : k ≠ '=') : symbolOf ('=' :: k :: cs) = "=" := by
  have single : ('=' == k) = false := by simpa using other.symm
  simp [symbolOf, symbols, List.find?, List.isPrefixOf, single]

theorem upcoming (ends : Ends place rest) {c : Cursor} (settled : c.Settled) (next : c.rest = rest)
    (newline : e.newline = place.newline) (indent : e.indent = false) (dedent : e.dedent = false) :
    upcoming e c = .newline ∨
      upcoming e c = .token c ∧ symbolOf rest ∈ [",", ")", "="] ∧ wordOf rest = [] := by
  cases ends with
  | comma cs =>
    have symbol : symbolOf (',' :: cs) = "," := rfl
    exact .inr ⟨Reads.upcoming_here settled next ⟨⟨_, rfl, rfl⟩, rfl⟩, by simp [symbol], rfl⟩
  | paren cs =>
    have symbol : symbolOf (')' :: cs) = ")" := rfl
    exact .inr ⟨Reads.upcoming_here settled next ⟨⟨_, rfl, rfl⟩, rfl⟩, by simp [symbol], rfl⟩
  | equals cs other =>
    have symbol := symbolOf_equals cs other
    exact .inr ⟨Reads.upcoming_here settled next ⟨⟨_, rfl, rfl⟩, rfl⟩, by simp [symbol], rfl⟩
  | line ends breaks =>
    exact .inl (upcoming_newline settled (next ▸ breaks) (newline.trans ends) indent dedent)

/-- no letter, digit or point comes there -/
theorem head (ends : Ends place rest) : ∀ k ∈ rest.head?, k ∈ [',', ')', '=', '\n'] := by
  cases ends with
  | comma | paren | equals => simp
  | line _ breaks =>
    rw [breaks.text_eq]
    simp

end Ends

namespace Reads

/-! ## Stops -/

theorem takes_trySymbol_end (ends : Ends place rest) (other : s ∉ [",", ")", "="]) :
    Takes blocks (trySymbol place.after s) [] rest false := by
  intro c settled _ next
  rw [trySymbol, peek_bind, List.length_nil, Cursor.skip_zero]
  rcases ends.upcoming (e := place.after) settled next rfl rfl rfl with line | ⟨here, symbol, -⟩
  · rw [line]
    rfl
  · have differs : symbolOf c.rest ≠ s := fun same => other (same ▸ next ▸ symbol)
    rw [here]
    simp only [differs, if_false]
    rfl

theorem takes_aheadWord_end (ends : Ends place rest) : Takes blocks (aheadWord place.after) [] rest "" := by
  intro c settled _ next
  rw [aheadWord, ahead, bind_assoc, peek_bind, List.length_nil, Cursor.skip_zero]
  rcases ends.upcoming (e := place.after) settled next rfl rfl rfl with line | ⟨here, -, none⟩
  · rw [line]
    rfl
  · rw [here]
    show some (String.ofList (wordOf c.rest), c) = _
    rw [show c.rest = rest from next, none]

theorem takes_binaryOperator_end (ends : Ends place rest) : Takes blocks (binaryOperator place) [] rest false := by
  intro c settled _ next
  rw [binaryOperator, peek_bind, List.length_nil, Cursor.skip_zero]
  rcases ends.upcoming (e := place.after) settled next rfl rfl rfl with line | ⟨here, symbol, none⟩
  · rw [line]
    rfl
  · have none_of_them : ∀ s ∈ [",", ")", "="],
        (binarySymbols.contains s || comparisonSymbols.contains s) = false := by decide
    rw [here]
    simp only [next, List.nil_append, none_of_them _ symbol, none]
    rfl

/-! ## Strings -/

/-- a text that may be written between quotes as it is: some characters, none of which a reader of strings heeds -/
def IsPlainText (s : String) : Prop :=
  s ≠ "" ∧ ∀ k ∈ s.toList, k ≠ '"' ∧ k ≠ '\\' ∧ k ≠ '\n' ∧ k ≠ '\x00'

/-- a text between quotes -/
def quoted (s : String) : List Char := '"' :: (s.toList ++ ['"'])

/-- one quote on either side, no prefix -/
def plainStyle : StringStyle := ⟨'"', false, false, false, false⟩

theorem opening?_quoted (plain : IsPlainText s) : StringStyle.opening? (quoted s ++ rest) = some (plainStyle, 1) := by
  obtain ⟨some, characters⟩ := plain
  cases body : s.toList with
  | nil => exact absurd (String.toList_eq_nil_iff.1 body) some
  | cons k cs =>
    have single : ('"' == k) = false := by
      have other := (characters k (by simp [body])).1
      simpa using other.symm
    have shape : quoted s ++ rest = '"' :: (k :: (cs ++ ['"']) ++ rest) := by simp [quoted, body]
    rw [shape]
    simp [StringStyle.opening?, isStringPrefix, isQuote, plainStyle, single, List.isPrefixOf]

theorem takes_stringStep (embedded : Reads Unit) (fresh : Bool)
    (plain : k ≠ '"' ∧ k ≠ '\\' ∧ k ≠ '\n' ∧ k ≠ '\x00') :
    Takes blocks (stringStep plainStyle embedded fresh) [k] rest (some false) := by
  intro c settled inside next
  obtain ⟨quote, backslash, feed, zero⟩ := plain
  rw [stringStep, get_bind, next]
  simp [plainStyle, quote, backslash, feed, zero]
  rfl

theorem takes_stringStep_quote (embedded : Reads Unit) (fresh : Bool) :
    Takes blocks (stringStep plainStyle embedded fresh) ['"'] rest none := by
  intro c settled inside next
  rw [stringStep, get_bind, next]
  simp [plainStyle]
  rfl

theorem takes_stringBody (embedded : Reads Unit) (plain : ∀ k ∈ cs, k ≠ '"' ∧ k ≠ '\\' ∧ k ≠ '\n' ∧ k ≠ '\x00')
    (enough : cs.length < n) (fresh : Bool) :
    Takes blocks (stringBody plainStyle embedded n fresh) (cs ++ ['"']) rest () := by
  induction cs generalizing n fresh with
  | nil =>
    obtain ⟨n, rfl⟩ := Nat.exists_eq_add_of_lt enough
    exact .last (takes_stringStep_quote embedded fresh) (.pure () rest)
  | cons k cs ih =>
    obtain ⟨n, rfl⟩ := Nat.exists_eq_add_of_lt (Nat.zero_lt_of_lt enough)
    obtain ⟨first, others⟩ := List.forall_mem_cons.1 plain
    rw [List.length_cons] at enough
    exact .char (takes_stringStep embedded fresh first) (ih others (by omega) false)

/-- in no formatted string, none is closed -/
theorem takes_unformatted (rest : List Char) :
    Takes blocks (modify fun c => { c with inFormatted := false }) [] rest () := by
  intro c settled _ _
  have same : { c with inFormatted := false } = c := by rw [← settled.unformatted]
  rw [List.length_nil, Cursor.skip_zero]
  exact congrArg (fun d => some ((), d)) same

theorem takes_stringToken (embedded : Reads Unit) (plain : IsPlainText s) :
    Takes blocks (stringToken embedded) (quoted s) rest (String.ofList (quoted s)) := by
  intro c settled inside next
  have enough : s.toList.length < c.bound := by
    rw [settled.bound_eq, next]
    simp only [quoted, List.length_append, List.length_cons]
    omega
  have body : Takes blocks (do
      skip 1
      modify fun c => { c with inFormatted := false }
      stringBody plainStyle embedded c.bound true
      modify fun c => { c with inFormatted := false }) (quoted s) rest () :=
    .char (.skip ['"'] _) (.look (takes_unformatted _)
      (.last (takes_stringBody embedded plain.2 enough true) (takes_unformatted rest)))
  have whole := Takes.bind_apply (f := fun _ => do return c.upTo (← get)) (body c settled inside next)
  simp only [bind_assoc] at whole
  rw [stringToken, get_bind, next, opening?_quoted plain]
  refine whole.trans ?_
  rw [← Cursor.upTo_skip next]
  rfl

theorem beginsString_quoted : BeginsString (quoted s ++ rest) := ⟨⟨'"', rfl, rfl⟩, rfl⟩

/-- a string with no other after it -/
theorem takes_stringsAt (plain : IsPlainText s) (ends : Ends place rest) :
    Takes blocks (stringsAt deeper place) (quoted s) rest (.string (String.ofList (quoted s))) := by
  have first : Takes blocks (oneString deeper) (quoted s) rest (String.ofList (quoted s)) :=
    fun c => takes_stringToken (embedded deeper c.bound) plain c
  refine .last first (.last (Rounds.stop ?_).repeatFrom (.pure _ rest))
  intro c settled _ next
  rw [peek_bind, List.length_nil, Cursor.skip_zero]
  rcases ends.upcoming (e := place.instead) settled next rfl rfl rfl with line | ⟨here, -⟩
  · rw [line]
    rfl
  · rw [here]
    rfl

/-! ## Integers -/

theorem decimalRun_append (digits : ∀ d ∈ ds, isDecimal d = true)
    (after : ∀ k ∈ rest.head?, isDecimal k = false ∧ k ≠ '_') : decimalRun (ds ++ rest) = ds.length := by
  induction ds with
  | nil =>
    cases rest with
    | nil => rfl
    | cons k cs =>
      have other := (after k rfl).1
      match cs with
      | [] => simp [decimalRun, other]
      | d :: cs =>
        by_cases separator : d = '_'
        · subst separator
          simp [decimalRun, other]
        · rw [List.nil_append, decimalRun]
          · simp [other]
          · simpa using separator
  | cons d ds ih =>
    obtain ⟨first, others⟩ := List.forall_mem_cons.1 digits
    have next : ∀ cs, ds ++ rest = '_' :: cs → False := by
      intro cs same
      cases ds with
      | nil => exact (after '_' (by rw [← List.nil_append rest, same]; rfl)).2 rfl
      | cons d ds =>
        obtain ⟨rfl, -⟩ := List.cons.inj same
        exact absurd (others '_' List.mem_cons_self) (by decide)
    rw [List.cons_append, decimalRun]
    · rw [if_pos first, ih others, List.length_cons, Nat.add_comm]
    · exact next

theorem basedLength_of_digits (digits : ∀ d ∈ ds, isDecimal d = true)
    (after : ∀ k ∈ rest.head?, k ∈ [',', ')', '=', '\n']) : basedLength (ds ++ rest) = 0 := by
  have marks : ∀ m ∈ ['x', 'X', 'o', 'O', 'b', 'B'], isDecimal m = false ∧ m ∉ [',', ')', '=', '\n'] := by
    simp [isDecimal]
  have none (m : Char) (mark : m ∈ ['x', 'X', 'o', 'O', 'b', 'B']) (cs : List Char) : ds ++ rest ≠ '0' :: m :: cs := by
    intro same
    cases ds with
    | nil => exact absurd (after '0' (by rw [← List.nil_append rest, same]; rfl)) (by decide)
    | cons d ds =>
      obtain ⟨-, next⟩ := List.cons.inj same
      cases ds with
      | nil => exact (marks m mark).2 (after m (by rw [show rest = m :: cs from next]; rfl))
      | cons d' ds =>
        obtain ⟨rfl, -⟩ := List.cons.inj next
        simp [(marks d' mark).1] at digits
  unfold basedLength
  split
  all_goals first | exact absurd ‹_› (none _ (by decide) _) | rfl

theorem suffix_eq_zero {letters : List Char} (after : ∀ k ∈ rest.head?, k ∉ letters) : suffix letters rest = 0 := by
  cases rest with
  | nil => rfl
  | cons k cs =>
    have other := after k rfl
    simp [suffix, other]

/-- decimal digits with nothing after them that belongs to a number -/
theorem number_lengths (some : ds ≠ []) (digits : ∀ d ∈ ds, isDecimal d = true)
    (after : ∀ k ∈ rest.head?, k ∈ [',', ')', '=', '\n']) :
    integerLength (ds ++ rest) = ds.length ∧ floatLength (ds ++ rest) = 0 := by
  have run : decimalRun (ds ++ rest) = ds.length := by
    have marks : ∀ k ∈ [',', ')', '=', '\n'], isDecimal k = false ∧ k ≠ '_' := by simp [isDecimal]
    exact decimalRun_append digits fun k hk => marks k (after k hk)
  have positive : ds.length ≠ 0 := by simpa using some
  have noSuffix : suffix ['L', 'l', 'J', 'j'] rest = 0 := by
    have marks : ∀ k ∈ [',', ')', '=', '\n'], k ∉ ['L', 'l', 'J', 'j'] := by simp
    exact suffix_eq_zero fun k hk => marks k (after k hk)
  constructor
  · rw [integerLength, run]
    simp only [positive, if_false, basedLength_of_digits digits after, andThen, List.drop_left, noSuffix]
    omega
  · have marks : ∀ k ∈ [',', ')', '=', '\n'], ¬ (k = 'e' ∨ k = 'E') ∧ k ≠ '.' := by simp
    cases rest with
    | nil =>
      rw [List.append_nil] at run ⊢
      simp [floatLength, run, exponentLength]
    | cons k cs =>
      obtain ⟨exponent, point⟩ := marks k (after k rfl)
      simp [floatLength, run, exponentLength, exponent, point]

theorem takes_number (some : ds ≠ []) (digits : ∀ d ∈ ds, isDecimal d = true) (ends : Ends place rest) :
    Takes blocks number ds rest (.integer (String.ofList ds)) := by
  intro c settled _ next
  obtain ⟨integer, float⟩ := number_lengths some digits ends.head
  have positive : 0 < ds.length := List.length_pos_iff.2 some
  rw [← next] at integer float
  rw [number]
  show (do
    skip (max (integerLength c.rest) (floatLength c.rest))
    if floatLength c.rest < integerLength c.rest then
      return .integer (String.ofList (c.rest.take (integerLength c.rest)))
    else if 0 < floatLength c.rest then return .float (String.ofList (c.rest.take (floatLength c.rest)))
    else failure : Reads Expr) c = _
  rw [integer, float, if_pos positive, next, List.take_left, Nat.max_eq_left (Nat.zero_le _)]
  rfl

/-! ## Operands -/

/-- what holds of the ten digits -/
theorem of_isDecimal {p : Char → Bool} (ten : ∀ n : Fin 128, isDecimal (Char.ofNat n) = true →
    p (Char.ofNat n) = true) (h : isDecimal k = true) : p k = true := by
  have ascii := ascii_of_goesOn (.inr (by simpa [isDecimal] using h))
  have here := ten ⟨k.toNat, ascii⟩
  simp only [Char.ofNat_toNat] at here
  exact here h

theorem beginsToken_of_isDecimal (digit : isDecimal k = true) : BeginsToken (k :: cs) := by
  have plain := of_isDecimal (p := fun k => isSolid k && !isStringPrefix k && !isQuote k) (by decide) digit
  simp only [Bool.and_eq_true, Bool.not_eq_true'] at plain
  obtain ⟨⟨solid, letter⟩, quoteless⟩ := plain
  exact ⟨⟨k, rfl, solid⟩, by rw [startsString_cons, letter, if_neg (by decide), quoteless]⟩

/-- an operand that is no string and in no brackets is a number or a word -/
theorem takes_atom (begins : text ++ rest = k :: cs) (token : BeginsToken (k :: cs))
    (apart : k ∉ ['(', '[', '\x7b', '.'])
    (here : Takes blocks (if isDecimal k then number else do return ofWord (← word .operand)) text rest operand) :
    Takes blocks (atom deeper place) text rest operand := by
  intro c settled inside next
  have apart {m : Char} (mem : m ∈ ['(', '[', '\x7b', '.']) : k ≠ m := fun same => apart (same ▸ mem)
  rw [atom, peek_bind, upcoming_here settled (next.trans begins) token]
  refine (Takes.bind_apply (show (set c : Reads Unit) c = some ((), c) from rfl)).trans
    ((congrFun ?_ c).trans (here c settled inside next))
  rw [next, begins]
  split
  · exact absurd (List.cons.inj ‹_›).1 (apart (by decide))
  · exact absurd (List.cons.inj ‹_›).1 (apart (by decide))
  · exact absurd (List.cons.inj ‹_›).1 (apart (by decide))
  · exact absurd (List.cons.inj ‹_›).1 (apart (by decide))
  · exact absurd (List.cons.inj ‹_›).1 (apart (by decide))
  · rename_i same
    obtain ⟨rfl, -⟩ := List.cons.inj same
    rfl
  · exact absurd ‹_› (List.cons_ne_nil _ _)

theorem takes_atom_number (some : ds ≠ []) (digits : ∀ d ∈ ds, isDecimal d = true) (ends : Ends place rest) :
    Takes blocks (atom deeper place) ds rest (.integer (String.ofList ds)) := by
  have number : Takes blocks Reads.number ds rest _ := takes_number some digits ends
  obtain ⟨d, ds, rfl⟩ := List.exists_cons_of_ne_nil some
  have digit := digits d List.mem_cons_self
  refine takes_atom rfl (beginsToken_of_isDecimal digit) ?_ ?_
  · have plain := of_isDecimal (p := fun d => !(['(', '[', '\x7b', '.'].contains d)) (by decide) digit
    simpa using plain
  · rwa [if_pos digit]

theorem takes_atom_word (spelled : Name.Spelled s) (ends : EndsWord rest) :
    Takes blocks (atom deeper place) s.toList rest (ofWord s) := by
  have word := isWord_of_spelled spelled ends
  obtain ⟨first, letters, whole, begins, -⟩ := spelled
  have plain := of_goesOn (p := fun d => !(['(', '[', '\x7b', '.'].contains d)) (by decide) (.inl begins)
  have shape : s.toList ++ rest = first :: (letters ++ rest) := by rw [whole, List.cons_append]
  refine takes_atom shape (shape ▸ word.token) (by simpa using plain) ?_
  rw [not_isDecimal_of_begins begins, if_neg (by decide)]
  have read : Takes blocks (Reads.word .operand) s.toList rest (String.ofList s.toList) := takes_word_here word
  rw [String.ofList_toList] at read
  exact .last read (.pure _ rest)

theorem takes_atom_string (plain : IsPlainText s) (ends : Ends place rest) :
    Takes blocks (atom deeper place) (quoted s) rest (.string (String.ofList (quoted s))) := by
  intro c settled inside next
  rw [atom, peek_bind, upcoming_string_here settled next beginsString_quoted rfl]
  exact (Takes.bind_apply (show (set c : Reads Unit) c = some ((), c) from rfl)).trans
    (takes_stringsAt plain ends c settled inside next)

/-! ## Operands with what is around them -/

/-- one more member, call or item, if it comes next -/
def postfixStep (deeper : Deeper) (place : Place) (operand : Expr) : Reads (Option Expr) := do
  if ← trySymbol place.after "." then
    let _ ← word .plain
    return some (.member operand)
  else if ← trySymbol place.after "(" then return some (.call operand (← arguments deeper))
  else if ← trySymbol place.after "[" then
    subscripts deeper
    return some (.item operand)
  else return none

theorem postfixes_eq (deeper : Deeper) (place : Place) (operand : Expr) :
    postfixes deeper place operand = repeatFrom operand (postfixStep deeper place) := rfl

theorem takes_postfixStep_end (ends : Ends place rest) :
    Takes blocks (postfixStep deeper place operand) [] rest none :=
  .look (takes_trySymbol_end ends (by decide)) (.look (takes_trySymbol_end ends (by decide))
    (.look (takes_trySymbol_end ends (by decide)) (.pure none rest)))

theorem takes_postfixes_end (ends : Ends place rest) :
    Takes blocks (postfixes deeper place operand) [] rest operand := by
  rw [postfixes_eq]
  exact (Rounds.stop (takes_postfixStep_end ends)).repeatFrom

/-- a call, with nothing after it -/
theorem takes_postfixes_call {args : Option (List (Argument Expr))}
    (given : Takes blocks (arguments deeper) text rest args) (ends : Ends place rest) :
    Takes blocks (postfixes deeper place operand) ('(' :: text) rest (.call operand args) := by
  have token : BeginsToken ('(' :: (text ++ rest)) := ⟨⟨_, rfl, rfl⟩, rfl⟩
  have symbol : symbolOf ('(' :: (text ++ rest)) = "(" := rfl
  have point : Takes blocks (trySymbol place.after ".") [] ('(' :: (text ++ rest)) false :=
    takes_trySymbol_other token (by rw [symbol]; decide)
  have opening : Takes blocks (trySymbol place.after "(") ['('] (text ++ rest) true := takes_trySymbol token symbol
  have called : Takes blocks (postfixStep deeper place operand) ('(' :: text) rest (some (.call operand args)) := by
    refine .look point ?_
    refine .char opening ?_
    exact .last given (.pure _ rest)
  rw [postfixes_eq]
  exact (Rounds.last called (takes_postfixStep_end ends)).repeatFrom

/-- an operand that is no string and has no sign before it -/
theorem takes_primary (begins : text ++ (more ++ rest) = k :: cs) (token : BeginsToken (k :: cs))
    (plain : k ∉ ['*', '-', '+', '~']) (word : wordOf (k :: cs) ≠ "await".toList) {inner : Expr}
    (first : Takes blocks (atom deeper place) text (more ++ rest) inner)
    (after : Takes blocks (postfixes deeper place inner) more rest operand) :
    Takes blocks (primary deeper place) (text ++ more) rest operand := by
  have ahead : Takes blocks (ahead .operand) [] (text ++ more ++ rest) (k :: cs) := by
    rw [List.append_assoc, begins]
    exact takes_ahead token
  simp only [List.mem_cons, List.not_mem_nil, or_false, not_or] at plain
  refine .look ahead ?_
  have chosen : Takes blocks (do postfixes deeper place (← atom deeper place)) (text ++ more) rest operand :=
    .bind first after
  split
  · exact absurd (List.cons.inj ‹_›).1 plain.1
  · rename_i same
    obtain ⟨rfl, rfl⟩ := List.cons.inj same
    rw [if_neg (by simp [plain]), if_neg word]
    exact chosen
  · exact absurd ‹_› (List.cons_ne_nil _ _)

theorem takes_primary_alone (begins : text ++ rest = k :: cs) (token : BeginsToken (k :: cs))
    (plain : k ∉ ['*', '-', '+', '~']) (word : wordOf (k :: cs) ≠ "await".toList)
    (first : Takes blocks (atom deeper place) text rest operand) (ends : Ends place rest) :
    Takes blocks (primary deeper place) text rest operand := by
  have whole : Takes blocks (primary deeper place) (text ++ []) rest operand :=
    takes_primary begins token plain word first (takes_postfixes_end ends)
  rwa [List.append_nil] at whole

theorem takes_primary_string (string : BeginsString (text ++ rest))
    (first : Takes blocks (atom deeper place) text rest operand) (ends : Ends place rest) :
    Takes blocks (primary deeper place) text rest operand :=
  .look (takes_ahead_string string rfl) (.last first (takes_postfixes_end ends))

/-- a minus sign before an operand -/
theorem takes_primary_minus (inner : Takes blocks (deeper .primary place) text rest operand) :
    Takes blocks (primary deeper place) ('-' :: text) rest (.unary '-' operand) := by
  have token : BeginsToken ('-' :: (text ++ rest)) := ⟨⟨_, rfl, rfl⟩, rfl⟩
  have ahead : Takes blocks (ahead .operand) [] ('-' :: text ++ rest) ('-' :: (text ++ rest)) := takes_ahead token
  refine .look ahead ?_
  refine .look (takes_toToken 0 token) ?_
  exact .char (.skip ['-'] _) (.last inner (.pure _ rest))

/-! ## Expressions -/

theorem takes_chain (first : Takes blocks (primary deeper place) text rest operand) (ends : Ends place rest) :
    Takes blocks (chain deeper place) text rest operand := by
  refine .last first (Rounds.stop ?_).repeatFrom
  have stays : Takes blocks
      (orBack (do if ← binaryOperator place then return true else failure) (return false)) [] rest false := by
    intro c settled inside next
    have refused : (do if ← binaryOperator place then return true else failure : Reads Bool) c = none :=
      Takes.bind_apply (takes_binaryOperator_end ends c settled inside next)
    rw [orBack, refused, List.length_nil, Cursor.skip_zero]
    rfl
  exact .look stays (.pure none rest)

theorem takes_simple {w : String} (ahead : Takes blocks (aheadWord .operand) [] (text ++ rest) w)
    (other : w ≠ "not" ∧ w ≠ "lambda") (first : Takes blocks (chain deeper place) text rest operand)
    (ends : Ends place rest) : Takes blocks (simple deeper place) text rest operand := by
  refine .look ahead ?_
  rw [if_neg other.1, if_neg other.2]
  refine .last first ?_
  split
  · exact .look (takes_trySymbol_end ends (by decide)) (.pure _ rest)
  · exact .pure _ rest

/-- what is an operand is an expression -/
theorem takes_expression {w : String} (ahead : Takes blocks (aheadWord .operand) [] (text ++ rest) w)
    (other : w ≠ "not" ∧ w ≠ "lambda") (first : Takes blocks (primary deeper place) text rest operand)
    (ends : Ends place rest) : Takes blocks (expression deeper place) text rest operand := by
  refine .last (takes_simple ahead other (takes_chain first ends) ends) (Rounds.stop ?_).repeatFrom
  refine .look (takes_aheadWord_end ends) ?_
  exact .pure none rest

end Reads

end Trialbook.Source
