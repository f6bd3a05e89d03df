/-
WRITTEN CALLS: values, arguments and calls as they are written, and what they are read as.

A value is a text between quotes or a decimal integer (`Written.Operand`), an argument is a value that may have a
keyword before it (`Written.Argument`), and a call is a word with arguments in parentheses (`Written.Call`).

Results:
- `Written.Operand.takes`, `Written.Argument.takes`: a value and an argument are read as they are written.
- `Written.Call.takes`: so is a call, wherever an expression may end after it.
-/
import Trialbook.Proofs.Coercions
import Trialbook.Proofs.WrittenExpressions

namespace Trialbook.Source.Written

open Reads

variable {blocks : List Nat} {n : Nat} {place : Place} {text rest : List Char} {s : String}

/-! ## Values -/

/-- a value as it is written: a text between quotes, or an integer in decimal digits with a sign when it is negative -/
inductive Operand where
  | quoted (s : String)
  | integer (n : Int)

namespace Operand

/-- has no character that would be misread -/
def Proper : Operand → Prop
  | .quoted s => IsPlainText s
  | .integer _ => True

def written : Operand → List Char
  | .quoted s => Reads.quoted s
  | .integer n => (Integer.text n).toList

/-- the expression that is read -/
def expr : Operand → Expr
  | .quoted s => .string (String.ofList (Reads.quoted s))
  | .integer n => if n < 0 then .unary '-' (.integer (Nat.repr n.natAbs)) else .integer (Nat.repr n.natAbs)

end Operand

theorem digits_repr (m : Nat) : (Nat.repr m).toList ≠ [] ∧ ∀ d ∈ (Nat.repr m).toList, isDecimal d = true := by
  obtain ⟨some, digits⟩ := Integer.isDecimal_repr m
  refine ⟨some, fun d hd => ?_⟩
  have range : '0' ≤ d ∧ d ≤ '9' := by simpa [Char.isDigit, Char.le_def, UInt32.le_iff_toNat_le] using digits d hd
  simpa [isDecimal] using range

/-- digits begin a token that is no word, with no sign before it -/
theorem begins_repr (m : Nat) (rest : List Char) :
    ∃ d ds, (Nat.repr m).toList ++ rest = d :: ds ∧ BeginsToken (d :: ds) ∧ d ∉ ['*', '-', '+', '~'] ∧
      wordOf (d :: ds) = [] := by
  obtain ⟨some, digits⟩ := digits_repr m
  obtain ⟨d, ds, whole⟩ := List.exists_cons_of_ne_nil some
  have digit := digits d (by simp [whole])
  have plain := of_isDecimal (p := fun d => !(['*', '-', '+', '~'].contains d) && !Text.isNameStart d) (by decide) digit
  simp only [Bool.and_eq_true, Bool.not_eq_true'] at plain
  refine ⟨d, ds ++ rest, by rw [whole, List.cons_append], beginsToken_of_isDecimal digit, by simpa using plain.1, ?_⟩
  rw [wordOf, plain.2, if_neg (by decide)]

theorem takes_repr (m : Nat) (ends : Ends place rest) (deeper : Deeper) :
    Takes blocks (primary deeper place) (Nat.repr m).toList rest (.integer (Nat.repr m)) := by
  obtain ⟨some, digits⟩ := digits_repr m
  have first : Takes blocks (atom deeper place) (Nat.repr m).toList rest (.integer (Nat.repr m)) := by
    have read : Takes blocks (atom deeper place) _ rest _ := takes_atom_number some digits ends
    rwa [String.ofList_toList] at read
  obtain ⟨d, ds, shape, token, plain, word⟩ := begins_repr m rest
  exact takes_primary_alone shape token plain (by rw [word]; decide) first ends

/-- a value is read as it is written; a sign makes it one level deeper -/
theorem Operand.takes {v : Operand} (proper : v.Proper) (ends : Ends place rest) :
    Takes blocks (nested (n + 2) .expression place) v.written rest v.expr := by
  cases v with
  | quoted s =>
    refine takes_expression (w := "") (takes_aheadWord_string beginsString_quoted rfl) (by decide) ?_ ends
    exact takes_primary_string beginsString_quoted (takes_atom_string proper ends) ends
  | integer m =>
    by_cases negative : m < 0
    · have shape : (Operand.integer m).written = '-' :: (Nat.repr m.natAbs).toList := by
        rw [written, Integer.text, if_pos negative, String.toList_append]
        rfl
      rw [shape, expr, if_pos negative]
      have token : BeginsToken ('-' :: (Nat.repr m.natAbs).toList ++ rest) := ⟨⟨_, rfl, rfl⟩, rfl⟩
      have word : wordOf ('-' :: (Nat.repr m.natAbs).toList ++ rest) = [] := rfl
      refine takes_expression (takes_aheadWord token) (by rw [word]; decide) ?_ ends
      exact takes_primary_minus (takes_repr m.natAbs ends (nested n))
    · rw [written, Integer.text, expr, if_neg negative, if_neg negative]
      obtain ⟨d, ds, same, token, -, word⟩ := begins_repr m.natAbs rest
      refine takes_expression (takes_aheadWord (same ▸ token)) ?_ (takes_repr m.natAbs ends _) ends
      rw [same, word]
      decide

/-! ## Arguments -/

/-- words that are no names where an operand may stand -/
def reserved : List String := ["await", "not", "lambda", "True", "False", "None"]

/-- a word that is read as a name -/
def IsName (s : String) : Prop := Name.Spelled s ∧ s ∉ reserved

/-- an argument as it is written -/
inductive Argument where
  | positional (v : Operand)
  | keyword (key : String) (v : Operand)

namespace Argument

def Proper : Argument → Prop
  | .positional v => v.Proper
  | .keyword key v => IsName key ∧ v.Proper

def written : Argument → List Char
  | .positional v => v.written
  | .keyword key v => key.toList ++ '=' :: v.written

/-- the argument that is read -/
def read : Argument → Source.Argument Expr
  | .positional v => .positional v.expr (String.ofList v.written)
  | .keyword key v => .keyword key v.expr

end Argument

/-- begins with what an argument may begin with -/
def BeginsOperand (text : List Char) : Prop := ∃ k ∈ text.head?, isSolid k = true ∧ k ∉ ['*', ')', ',', '=']

theorem begins_operand (v : Operand) (rest : List Char) : BeginsOperand (v.written ++ rest) := by
  cases v with
  | quoted s => exact ⟨'"', rfl, rfl, by decide⟩
  | integer m =>
    by_cases negative : m < 0
    · rw [Operand.written, Integer.text, if_pos negative, String.toList_append]
      exact ⟨'-', rfl, rfl, by decide⟩
    · rw [Operand.written, Integer.text, if_neg negative]
      obtain ⟨some, digits⟩ := digits_repr m.natAbs
      obtain ⟨d, ds, whole⟩ := List.exists_cons_of_ne_nil some
      have plain := of_isDecimal (p := fun d => isSolid d && !(['*', ')', ',', '='].contains d)) (by decide)
        (digits d (by simp [whole]))
      simp only [Bool.and_eq_true, Bool.not_eq_true'] at plain
      exact ⟨d, by simp [whole], plain.1, by simpa using plain.2⟩

theorem begins_spelled (spelled : Name.Spelled s) (rest : List Char) : BeginsOperand (s.toList ++ rest) := by
  obtain ⟨first, letters, whole, begins, -⟩ := spelled
  have plain := of_goesOn (p := fun d => isSolid d && !(['*', ')', ',', '='].contains d)) (by decide) (.inl begins)
  simp only [Bool.and_eq_true, Bool.not_eq_true'] at plain
  exact ⟨first, by simp [whole], plain.1, by simpa using plain.2⟩

theorem begins_argument (a : Argument) (proper : a.Proper) (rest : List Char) :
    BeginsOperand (a.written ++ rest) := by
  cases a with
  | positional v => exact begins_operand v rest
  | keyword key v =>
    rw [Argument.written, List.append_assoc]
    exact begins_spelled proper.1.1 _

namespace BeginsOperand

theorem token_or_string (h : BeginsOperand text) : BeginsToken text ∨ BeginsString text := by
  obtain ⟨k, first, solid, -⟩ := h
  by_cases string : startsString text = true
  · exact .inr ⟨⟨k, first, solid⟩, string⟩
  · exact .inl ⟨⟨k, first, solid⟩, by simpa using string⟩

/-- none of the symbols that may come in place of an argument -/
theorem symbolOf_ne (h : BeginsOperand text) (mem : s ∈ ["**", ")", ",", "="]) : symbolOf text ≠ s := by
  obtain ⟨k, first, -, other⟩ := h
  obtain ⟨cs, rfl⟩ := List.head?_eq_some_iff.1 first
  have heads : ∀ s ∈ ["**", ")", ",", "="], s ≠ "" ∧ ∀ m ∈ s.toList.head?, m ∈ ['*', ')', ',', '='] := by simp
  obtain ⟨some, head⟩ := heads s mem
  refine Reads.symbolOf_ne some ?_
  cases whole : s.toList with
  | nil => exact absurd (String.toList_eq_nil_iff.1 whole) some
  | cons m ms =>
    have apart : (m == k) = false := by
      simpa using fun same : m = k => other (same ▸ head m (by simp [whole]))
    simp [List.isPrefixOf, apart]

theorem takes_trySymbol (h : BeginsOperand rest) (mem : s ∈ ["**", ")", ",", "="]) :
    Takes blocks (trySymbol .element s) [] rest false := by
  rcases h.token_or_string with token | string
  · exact takes_trySymbol_other token (h.symbolOf_ne mem)
  · exact takes_trySymbol_string string rfl

theorem takes_tryClosing (h : BeginsOperand rest) (m : Nat) (mem : s ∈ ["**", ")", ",", "="]) :
    Takes blocks (tryClosing .element s) (List.replicate m ' ') rest false := by
  rcases h.token_or_string with token | string
  · exact takes_tryClosing_other m token (h.symbolOf_ne mem)
  · exact takes_tryClosing_string m string rfl

/-- looking ahead shows no star -/
theorem exists_ahead (h : BeginsOperand rest) :
    ∃ shown, (∀ cs, shown ≠ '*' :: cs) ∧ Takes blocks (ahead .element) [] rest shown := by
  rcases h.token_or_string with token | string
  · refine ⟨rest, ?_, takes_ahead token⟩
    rintro cs rfl
    obtain ⟨k, first, -, other⟩ := h
    cases first
    exact other (by decide)
  · exact ⟨[], fun _ => nofun, takes_ahead_string string rfl⟩

end BeginsOperand

/-- an expression with its text -/
theorem takes_withText {r : Reads Expr} {e : Expr} (begins : BeginsOperand (text ++ rest))
    (read : Takes blocks r text rest e) : Takes blocks (withText r) text rest (e, String.ofList text) := by
  intro c settled inside next
  have here : withText.toElement c = some ((), c) := by
    rcases begins.token_or_string with token | string
    · rw [withText.toElement, peek_bind, upcoming_here settled next token]
      rfl
    · rw [withText.toElement, peek_bind, upcoming_string_here settled next string rfl]
      rfl
  refine (Takes.bind_apply here).trans ?_
  show (r >>= fun e => do return (e, c.upTo (← get))) c = _
  rw [Takes.bind_apply (read c settled inside next), ← Cursor.upTo_skip next]
  rfl

/-- the facts about a name that readers of operands ask for -/
theorem takes_primary_name (name : IsName s) (ends : EndsWord (text ++ rest)) {e : Expr}
    (after : Takes blocks (postfixes (nested n) place (.name s)) text rest e) :
    Takes blocks (primary (nested n) place) (s.toList ++ text) rest e := by
  have word := isWord_of_spelled name.1 ends
  have atom : Takes blocks (atom (nested n) place) s.toList (text ++ rest) (.name s) := by
    have read : Takes blocks (Reads.atom (nested n) place) s.toList (text ++ rest) _ := takes_atom_word name.1 ends
    have plain : ofWord s = .name s := by
      obtain ⟨-, other⟩ := name
      simp only [reserved, List.mem_cons, List.not_mem_nil, or_false, not_or] at other
      simp [ofWord, other]
    rwa [plain] at read
  obtain ⟨first, letters, whole, begins, -⟩ := name.1
  have shape : s.toList ++ (text ++ rest) = first :: (letters ++ (text ++ rest)) := by rw [whole, List.cons_append]
  have sign := of_goesOn (p := fun d => !(['*', '-', '+', '~'].contains d)) (by decide) (.inl begins)
  refine takes_primary shape (shape ▸ word.token) (by simpa using sign) ?_ atom after
  rw [← shape, word.whole]
  exact fun same => name.2 (by rw [String.toList_inj.1 same]; decide)

theorem takes_expression_name (name : IsName s) (endsWord : EndsWord (text ++ rest)) (ends : Ends place rest) {e : Expr}
    (after : Takes blocks (postfixes (nested n) place (.name s)) text rest e) :
    Takes blocks (nested (n + 1) .expression place) (s.toList ++ text) rest e := by
  have word := isWord_of_spelled name.1 endsWord
  have ahead : Takes blocks (aheadWord .operand) [] (s.toList ++ text ++ rest) s := by
    have read : Takes blocks (aheadWord .operand) [] (s.toList ++ (text ++ rest)) _ := takes_aheadWord word.token
    rwa [word.whole, String.ofList_toList, ← List.append_assoc] at read
  refine takes_expression ahead ⟨?_, ?_⟩ (takes_primary_name name endsWord after) ends
  · rintro rfl
    exact name.2 (by decide)
  · rintro rfl
    exact name.2 (by decide)

/-- a keyword, and the value after it -/
theorem takes_keyword_argument {key : String} {v : Operand} (name : IsName key) (proper : v.Proper)
    (ends : Ends .bracket rest) :
    Takes blocks (do
      let (value, text) ← withText (nested (n + 2) .expression .bracket)
      match value with
      | .name key =>
        if ← trySymbol .closing "=" then return Source.Argument.keyword key (← nested (n + 2) .expression .bracket)
        else return Source.Argument.positional value text
      | _ => return Source.Argument.positional value text)
      (key.toList ++ '=' :: v.written) rest (Source.Argument.keyword key v.expr) := by
  obtain ⟨k, first, -, other⟩ := begins_operand v rest
  obtain ⟨cs, whole⟩ := List.head?_eq_some_iff.1 first
  have differs : k ≠ '=' := fun same => other (by simp [same])
  have equals : Ends .bracket ('=' :: v.written ++ rest) := by
    rw [List.cons_append, whole]
    exact .equals cs differs
  have endsWord : EndsWord ('=' :: v.written ++ rest) := by
    rintro _ ⟨⟩
    decide
  have symbol : symbolOf ("=".toList ++ (v.written ++ rest)) = "=" := by
    rw [whole]
    exact Ends.symbolOf_equals cs differs
  have value : Takes blocks (nested (n + 2) .expression .bracket) key.toList ('=' :: v.written ++ rest)
      (.name key) := by
    have read : Takes blocks (nested (n + 2) .expression .bracket) (key.toList ++ []) ('=' :: v.written ++ rest)
        (.name key) := by
      refine takes_expression_name name ?_ equals (takes_postfixes_end equals)
      exact endsWord
    rwa [List.append_nil] at read
  have begins : BeginsOperand (key.toList ++ ('=' :: v.written ++ rest)) := by
    have argument := begins_argument (.keyword key v) ⟨name, proper⟩ rest
    rwa [Argument.written, List.append_assoc] at argument
  refine .bind (takes_withText begins value) ?_
  refine .char (takes_trySymbol ⟨⟨_, rfl, rfl⟩, rfl⟩ symbol) ?_
  exact .last (Operand.takes proper ends) (.pure _ rest)

/-- an argument is read as it is written -/
theorem Argument.takes {a : Argument} (proper : a.Proper) (ends : Ends .bracket rest) :
    Takes blocks (argument (nested (n + 2))) a.written rest a.read := by
  have begins := begins_argument a proper rest
  obtain ⟨shown, star, ahead⟩ : ∃ shown, (∀ cs, shown ≠ _) ∧ Takes blocks (Reads.ahead .element) [] _ shown :=
    begins.exists_ahead
  refine .look (begins.takes_trySymbol (by decide)) (.look ahead ?_)
  split
  · exact absurd rfl (star _)
  · cases a with
    | positional v =>
      refine .last (takes_withText begins (Operand.takes proper ends)) ?_
      cases v with
      | quoted s => exact .pure _ rest
      | integer m =>
        by_cases negative : m < 0
        · simp only [Operand.expr, read, if_pos negative]
          exact .pure _ rest
        · simp only [Operand.expr, read, if_neg negative]
          exact .pure _ rest
    | keyword key v => exact takes_keyword_argument proper.1 proper.2 ends

/-! ## Calls -/

/-- a call as it is written: a word, and some arguments in parentheses -/
structure Call where
  word : String
  first : Argument
  others : List Argument

/-- the arguments after the first one -/
def laterArguments (args : List Argument) : List Char :=
  args.flatMap fun a => ',' :: ' ' :: a.written

namespace Call

structure Proper (c : Call) : Prop where
  word : IsName c.word
  first : c.first.Proper
  others : ∀ a ∈ c.others, a.Proper

def written (c : Call) : List Char :=
  c.word.toList ++ '(' :: (c.first.written ++ (laterArguments c.others ++ [')']))

/-- the expression that is read -/
def expr (c : Call) : Expr := .call (.name c.word) (some (c.first.read :: c.others.map Argument.read))

end Call

/-- an argument after some, or the closing parenthesis after all of them -/
def argumentStep (deeper : Deeper) : List (Source.Argument Expr) × Bool →
    Reads (Option (List (Source.Argument Expr) × Bool)) := fun (args, more) => do
  if !more then return none
  else if ← trySymbol .closing ")" then return some (args, false)
  else
    symbol .closing ","
    if ← tryClosing .element ")" then return some (args, false)
    else return some ((← argument deeper) :: args, true)

theorem restOfArguments_eq (deeper : Deeper) (first : Source.Argument Expr) :
    restOfArguments deeper first = (do
      let (args, _) ← repeatFrom ([first], true) (argumentStep deeper)
      return args.reverse) := rfl

theorem ends_laterArguments (args : List Argument) (rest : List Char) :
    Ends .bracket (laterArguments args ++ [')'] ++ rest) := by
  cases args with
  | nil => exact .paren rest
  | cons a args =>
    rw [laterArguments, List.flatMap_cons]
    exact .comma _

theorem rounds_laterArguments {args : List Argument} (proper : ∀ a ∈ args, a.Proper)
    (before : List (Source.Argument Expr)) :
    Rounds blocks (argumentStep (nested (n + 2))) (before, true) (laterArguments args ++ [')']) rest
      ((args.map Argument.read).reverse ++ before, false) := by
  -- arguments are gathered last first, so whatever was gathered before stays below them
  induction args generalizing before with
  | nil =>
    refine .last (.last (takes_trySymbol (s := ")") ⟨⟨_, rfl, rfl⟩, rfl⟩ rfl) (.pure _ rest)) ?_
    exact .pure none rest
  | cons a args ih =>
    obtain ⟨first, others⟩ := List.forall_mem_cons.1 proper
    have ends := ends_laterArguments args rest
    have begins := begins_argument a first (laterArguments args ++ [')'] ++ rest)
    have shape : laterArguments (a :: args) ++ [')'] =
        ',' :: ' ' :: a.written ++ (laterArguments args ++ [')']) := by
      simp [laterArguments]
    rw [shape, List.map_cons, List.reverse_cons, List.append_assoc]
    refine .next (List.cons_ne_nil _ _) ?_ (ih others (a.read :: before))
    have comma (cs : List Char) : BeginsToken (',' :: cs) := ⟨⟨_, rfl, rfl⟩, rfl⟩
    have noParen : Takes blocks (trySymbol .closing ")") []
        (',' :: ' ' :: a.written ++ (laterArguments args ++ [')'] ++ rest)) false :=
      takes_trySymbol_other (comma _) (symbolOf_ne (by decide) rfl)
    refine .look noParen ?_
    refine .char (takes_symbol (s := ",") (comma _) rfl) ?_
    refine .char (begins.takes_tryClosing 1 (by decide)) ?_
    exact .last (Argument.takes first ends) (.pure _ _)

/-- the arguments after the first one and the closing parenthesis -/
theorem takes_restOfArguments {args : List Argument} (proper : ∀ a ∈ args, a.Proper) (first : Source.Argument Expr) :
    Takes blocks (restOfArguments (nested (n + 2)) first) (laterArguments args ++ [')']) rest
      (first :: args.map Argument.read) := by
  rw [restOfArguments_eq]
  refine .last (rounds_laterArguments proper [first]).repeatFrom ?_
  have order : ((args.map Argument.read).reverse ++ [first]).reverse = first :: args.map Argument.read := by simp
  rw [← order]
  exact .pure _ rest

/-- no clause of a comprehension comes after an argument -/
theorem takes_clauseAhead (ends : Ends .bracket rest) : Takes blocks clauseAhead [] rest false := by
  intro c settled _ next
  rw [clauseAhead, peek_bind, List.length_nil, Cursor.skip_zero]
  rcases ends.upcoming (e := .closing) settled next rfl rfl rfl with line | ⟨here, -, none⟩
  · rw [line]
    rfl
  · rw [here]
    simp only [show c.rest = rest from next, none]
    rfl

/-- the arguments of a call and the closing parenthesis -/
theorem takes_arguments {a : Argument} {args : List Argument} (first : a.Proper) (others : ∀ b ∈ args, b.Proper) :
    Takes blocks (arguments (nested (n + 2))) (a.written ++ (laterArguments args ++ [')'])) rest
      (some (a.read :: args.map Argument.read)) := by
  have ends := ends_laterArguments args rest
  have begins := begins_argument a first (laterArguments args ++ [')'] ++ rest)
  rw [← List.append_assoc] at begins
  refine .look (begins.takes_tryClosing 0 (by decide)) ?_
  refine .look (begins.takes_trySymbol (by decide)) ?_
  refine .bind (Argument.takes first ends) ?_
  have later : Takes blocks (do return some (← restOfArguments (nested (n + 2)) a.read))
      (laterArguments args ++ [')']) rest (some (a.read :: args.map Argument.read)) :=
    .last (takes_restOfArguments others a.read) (.pure _ rest)
  cases a with
  | positional v => exact .look (takes_clauseAhead ends) later
  | keyword key v => exact .look (.pure false _) later

/-- a call is read as it is written -/
theorem Call.takes {c : Call} (proper : c.Proper) (ends : Ends place rest) :
    Takes blocks (nested (n + 3) .expression place) c.written rest c.expr := by
  have endsWord : EndsWord ('(' :: (c.first.written ++ (laterArguments c.others ++ [')'])) ++ rest) := by
    rintro _ ⟨⟩
    decide
  refine takes_expression_name (n := n + 2) proper.word endsWord ends ?_
  exact takes_postfixes_call (takes_arguments proper.first proper.others) ends

/-! ## Lines -/

theorem one_line_spelled (spelled : Name.Spelled s) : '\n' ∉ s.toList := by
  obtain ⟨first, letters, whole, begins, goes⟩ := spelled
  have all : ∀ k ∈ s.toList, Name.GoesOn k := by
    rw [whole]
    exact List.forall_mem_cons.2 ⟨.inl begins, goes⟩
  intro member
  cases isSolid_of_goesOn (all _ member)

theorem Operand.one_line {v : Operand} (proper : v.Proper) : '\n' ∉ v.written := by
  cases v with
  | quoted s =>
    have inside : '\n' ∉ s.toList := fun member => (proper.2 _ member).2.2.1 rfl
    simp [written, Reads.quoted, inside]
  | integer m =>
    have digits : '\n' ∉ (Nat.repr m.natAbs).toList := fun member => by cases (digits_repr m.natAbs).2 _ member
    rw [written, Integer.text]
    split
    · simpa [String.toList_append] using digits
    · exact digits

theorem Argument.one_line {a : Argument} (proper : a.Proper) : '\n' ∉ a.written := by
  cases a with
  | positional v => exact Operand.one_line proper
  | keyword key v => simp [written, one_line_spelled proper.1.1, Operand.one_line proper.2]

/-- a call stands on one line -/
theorem Call.one_line {c : Call} (proper : c.Proper) : '\n' ∉ c.written := by
  have later : '\n' ∉ laterArguments c.others := by
    simp only [laterArguments, List.mem_flatMap, not_exists, not_and]
    intro a member
    simp [Argument.one_line (proper.others a member)]
  simp [written, one_line_spelled proper.word.1, Argument.one_line proper.first, later]

end Trialbook.Source.Written
