/-
WRITTEN DECLARATIONS: a decorated definition, read as it is written.

Calls stand above a function of one parameter that does nothing, each on a line of its own (`Written.Declaration`). The
file that holds only this is read as one function with these decorators, on the line after them.

Results:
- `Reads.takes_body`, `Reads.takes_definitionAt`: the definition.
- `Written.Declaration.takes_decorators`: the decorators above it.
- `Written.Declaration.read?_eq`: the whole file.
-/
import Trialbook.Proofs.WrittenCalls

namespace Trialbook.Source

open Written

variable {blocks : List Nat} {c : Cursor} {n : Nat} {text rest more : List Char} {s : String} {deeper : Deeper}

namespace Reads

/-! ## Statements -/

theorem takes_get {β : Type} {f : Cursor → Reads β} {b : β} (each : ∀ c, Takes blocks (f c) text rest b) :
    Takes blocks (get >>= f) text rest b :=
  fun c settled inside next => each c c settled inside next

theorem takes_trySymbol_line (breaks : Breaks rest n more) : Takes blocks (trySymbol .lineEnd s) [] rest false := by
  intro c settled _ next
  have here : Breaks c.rest n more := by
    rw [next]
    exact breaks
  rw [trySymbol, peek_bind, upcoming_newline settled here rfl rfl rfl, List.length_nil, Cursor.skip_zero]
  rfl

theorem takes_asyncAhead (token : BeginsToken rest) (other : wordOf rest ≠ "async".toList) :
    Takes blocks asyncAhead [] rest "" := by
  intro c settled _ next
  have here : c.rest = rest := next
  rw [asyncAhead, peek_bind, upcoming_here settled next token, List.length_nil, Cursor.skip_zero]
  simp only [here, if_neg other]
  rfl

/-- the word that does nothing -/
def pass : List Char := ['p', 'a', 's', 's']

theorem isWord_pass : IsWord pass ['\n'] := ⟨by decide, by decide, ⟨⟨'p', rfl, rfl⟩, rfl⟩⟩

theorem takes_aheadWord_pass : Takes blocks (aheadWord .statement) [] (pass ++ ['\n']) "pass" :=
  takes_aheadWord isWord_pass.token

theorem takes_simpleStatement : Takes blocks (simpleStatement deeper) pass ['\n'] .other := by
  refine .look takes_aheadWord_pass ?_
  simp only [String.reduceEq, if_false, true_or, if_true]
  exact .last (takes_word_here isWord_pass) (.pure _ _)

theorem takes_simpleLine : Takes blocks (simpleLine deeper) pass ['\n'] [.other] := by
  refine .last takes_simpleStatement ?_
  refine .look (Rounds.stop (.look (takes_trySymbol_line .last) (.pure none _))).repeatFrom ?_
  exact .look (takes_lineEnd .last) (.pure _ _)

/-- on a line of its own in a block -/
def passLine : List Char := '\n' :: (List.replicate 4 ' ' ++ pass)

theorem breaks_passLine : Breaks (passLine ++ ['\n']) 4 (pass ++ ['\n']) := .line 4 _ rfl

theorem takes_toStatement : Takes [4] toStatement ('\n' :: List.replicate 4 ' ') (pass ++ ['\n']) () := by
  intro c settled inside next
  have breaks : Breaks c.rest 4 (pass ++ ['\n']) := by
    rw [next]
    exact breaks_passLine
  have here : upcoming .statement c = .token (c.skip 5) :=
    upcoming_line settled breaks rfl rfl (by simp [inside]) rfl
  rw [toStatement, peek_bind, here]
  rfl

theorem takes_statement (inner : Reads Unit) : Takes [4] (statement deeper inner) passLine ['\n'] [.other] := by
  have symbol : symbolOf (pass ++ ['\n']) ≠ "@" := symbolOf_ne (by decide) rfl
  have toStatement : Takes [4] Reads.toStatement ('\n' :: List.replicate 4 ' ') (pass ++ ['\n']) () := takes_toStatement
  refine .bind toStatement ?_
  refine .look takes_aheadWord_pass ?_
  refine .look (takes_asyncAhead isWord_pass.token (by decide)) ?_
  refine .look (takes_ahead isWord_pass.token) ?_
  simp only [symbol, String.reduceEq, or_self, if_false]
  exact takes_simpleLine

/-! ## Bodies -/

variable {α : Type} {step : α → Reads (Option α)} {a a' : α} {there : Cursor}

theorem iterate_of_some (goes : step a c = some (some a', there)) :
    iterate step (n + 1) a c = iterate step n a' there := by
  rw [iterate]
  exact Takes.bind_apply goes

theorem iterate_of_none (stops : step a c = some (none, there)) : iterate step (n + 1) a c = some (a, there) := by
  rw [iterate]
  exact Takes.bind_apply stops

/-- three rounds, the last of which declines -/
theorem repeatFrom_of_three {a'' : α} {later : Cursor} (settled : c.Settled) (some : c.rest ≠ [])
    (first : step a c = .some (.some a', there)) (second : step a' there = .some (.some a'', later))
    (third : step a'' later = .some (none, later)) : repeatFrom a step c = .some (a'', later) := by
  have longer := List.length_pos_iff.2 some
  obtain ⟨n, bound⟩ := Nat.exists_eq_add_of_le (show 3 ≤ c.bound by rw [settled.bound_eq]; omega)
  show iterate step c.bound a c = _
  rw [bound, Nat.add_comm]
  exact (iterate_of_some first).trans ((iterate_of_some second).trans (iterate_of_none third))

/-- a statement of a block, or the end of the block -/
def blockStep (statement : Reads (List Statement)) (more : Bool) : Reads (Option Bool) := do
  if !more then return none
  else match ← peek .statement with
  | .dedent there =>
    set there
    return some false
  | _ =>
    let _ ← statement
    return some true

theorem block_eq (statement : Reads (List Statement)) :
    block statement = (do let _ ← repeatFrom true (blockStep statement)) := rfl

/-- the block that a body begins with ends with the file -/
theorem takes_body (inner : Reads Unit) : Takes [] (bodyOf deeper (statement deeper inner)) passLine ['\n'] () := by
  intro c settled inside next
  -- inside the block, after its one statement, and after the block
  let d : Cursor := { c with blocks := [4] }
  let e := d.skip passLine.length
  let f : Cursor := { e with blocks := [] }
  have settledDeep : d.Settled := ⟨settled.whole, settled.unformatted⟩
  have breaks : Breaks c.rest 4 (pass ++ ['\n']) := by
    rw [next]
    exact breaks_passLine
  have begins : upcoming .body c = .indent d := by
    have deep := upcoming_indent (e := .body) settled breaks rfl (by simp [inside])
    rwa [inside] at deep
  have stands : upcoming .statement d = .token (d.skip 5) :=
    upcoming_line settledDeep breaks rfl rfl (Nat.le_refl 4) rfl
  have one : statement deeper inner d = some ([.other], e) := takes_statement inner d settledDeep rfl next
  have ends : upcoming .statement e = .dedent f := by
    have last : e.rest = ['\n'] := Cursor.rest_skip_of_append next
    have breaks : Breaks e.rest 0 [] := last ▸ .last
    exact upcoming_dedent (settledDeep.skip_of_append next) breaks rfl rfl (show 0 < 4 by decide)
  have rounds : block (statement deeper inner) d = some ((), f) := by
    have first : blockStep (statement deeper inner) true d = some (some true, e) := by
      rw [blockStep, if_neg (by decide), peek_bind, stands]
      exact Takes.bind_apply one
    have second : blockStep (statement deeper inner) true e = some (some false, f) := by
      rw [blockStep, if_neg (by decide), peek_bind, ends]
      rfl
    have whole := repeatFrom_of_three settledDeep (next ▸ List.cons_ne_nil _ _) first second rfl
    rw [block_eq]
    exact Takes.bind_apply whole
  have back : f = c.skip passLine.length := by
    show Cursor.mk _ _ _ _ [] _ = _
    rw [← inside]
    rfl
  rw [bodyOf, peek_bind, begins, ← back]
  exact (Takes.bind_apply (show (set d : Reads Unit) c = some ((), d) from rfl)).trans rounds

/-! ## Definitions -/

/-- a function of one parameter that does nothing -/
def definition (name parameter : String) : List Char :=
  "def".toList ++ (' ' :: name.toList ++ '(' :: (parameter.toList ++ [')'] ++ ':' :: passLine))

theorem takes_parameter {hint : Reads Unit} (spelled : Name.Spelled s) :
    Takes blocks (parameter deeper (some hint) .bracket) s.toList (')' :: rest) true := by
  have word : IsWord s.toList (')' :: rest) := isWord_of_spelled spelled (by rintro _ ⟨⟩; decide)
  have close : BeginsToken (')' :: rest) := ⟨⟨_, rfl, rfl⟩, rfl⟩
  have none (mark : String) (some : mark ≠ "") (other : mark.toList.isPrefixOf (')' :: rest) = false) :
      Takes blocks (trySymbol Place.bracket.after mark) [] (')' :: rest) false :=
    takes_trySymbol_other close (symbolOf_ne some other)
  obtain ⟨first, letters, whole, begins, -⟩ := spelled
  have plain := of_goesOn (p := fun d => !(['/', '(', '*'].contains d)) (by decide) (.inl begins)
  have apart {m : Char} (mem : m ∈ ['/', '(', '*']) : first ≠ m := by
    rintro rfl
    simp_all
  refine .look (takes_ahead word.token) ?_
  rw [whole, List.cons_append]
  split
  · exact absurd (List.cons.inj ‹_›).1 (apart (by decide))
  · exact absurd (List.cons.inj ‹_›).1 (apart (by decide))
  · exact absurd (List.cons.inj ‹_›).1 (apart (by decide))
  · exact absurd (List.cons.inj ‹_›).1 (apart (by decide))
  · rw [← whole]
    refine .last (takes_word_here word) ?_
    have hinted := none ":" (by decide) rfl
    have given := none "=" (by decide) rfl
    exact .look (.look hinted (.pure () _)) (.look (.look given (.pure () _)) (.pure true _))

theorem takes_parameters {hint : Reads Unit} (spelled : Name.Spelled s) :
    Takes blocks (parameters deeper (some hint) .bracket ")") (s.toList ++ [')']) rest 1 := by
  have begins : BeginsOperand (s.toList ++ [')'] ++ rest) := by
    rw [List.append_assoc]
    exact begins_spelled spelled _
  have closed : Takes blocks (tryClosing Place.bracket.instead ")") [] (s.toList ++ [')'] ++ rest) false :=
    begins.takes_tryClosing 0 (by decide)
  have closing : Takes blocks (trySymbol Place.bracket.after ")") [')'] rest true :=
    takes_trySymbol (s := ")") ⟨⟨_, rfl, rfl⟩, rfl⟩ rfl
  refine .look closed (.bind (.last (takes_parameter spelled) (.pure 1 _)) ?_)
  refine .last (a := (1, false)) (Rounds.last ?_ ?_).repeatFrom (.pure 1 rest)
  · exact .last closing (.pure (some (1, false)) rest)
  · exact .pure none rest

theorem isWord_def (rest : List Char) : IsWord "def".toList (' ' :: rest) :=
  isWord_of_spelled (Name.isWord_iff.1 (by decide)) (by rintro _ ⟨⟩; decide)

/-- a function definition on a line, from its first word on -/
def definitionAt (deeper : Deeper) (body : Reads Unit) (decorators : List Decorator) (line : Nat) : Reads Function := do
  let isAsync ← tryWord .statement "async"
  keyword .plain "def"
  let name ← word .plain
  let bound := (← get).bound
  if ← trySymbol .plain "[" then hintList (hint deeper bound .bracket true)
  symbol .plain "("
  let arity ← parameters deeper (some (hint deeper bound .bracket true)) .bracket ")"
  if ← trySymbol .plain "->" then hint deeper bound .inner false
  colonBody body .plain
  return { name, line, arity, isAsync, decorators }

theorem functionDefinition_eq (deeper : Deeper) (body : Reads Unit) (decorators : List Decorator) :
    functionDefinition deeper body decorators = (do
      toToken .statement
      definitionAt deeper body decorators ((← get).row + 1)) := rfl

theorem takes_definitionAt {body : Reads Unit} {name parameter : String} {decorators : List Decorator} {line : Nat}
    (inner : Takes [] body passLine ['\n'] ()) (named : Name.Spelled name) (spelled : Name.Spelled parameter) :
    Takes [] (definitionAt deeper body decorators line) (definition name parameter) ['\n']
      ⟨name, line, 1, false, decorators⟩ := by
  have word := isWord_def (name.toList ++ '(' :: (parameter.toList ++ [')'] ++ ':' :: passLine) ++ ['\n'])
  have sync : Takes [] (tryWord .statement "async") [] (definition name parameter ++ ['\n']) false := by
    refine takes_tryWord_other word.token ?_
    have whole : wordOf (definition name parameter ++ ['\n']) = "def".toList := word.whole
    rw [whole]
    decide
  have endsName : EndsWord ('(' :: (parameter.toList ++ [')'] ++ ':' :: passLine) ++ ['\n']) := by
    rintro _ ⟨⟩
    decide
  have opened (cs : List Char) : BeginsToken ('(' :: cs) := ⟨⟨_, rfl, rfl⟩, rfl⟩
  have colon (cs : List Char) : BeginsToken (':' :: cs) := ⟨⟨_, rfl, rfl⟩, rfl⟩
  have read : Takes [] (Reads.word .plain) (' ' :: name.toList)
      ('(' :: (parameter.toList ++ [')'] ++ ':' :: passLine) ++ ['\n']) (String.ofList name.toList) :=
    takes_word 1 (isWord_of_spelled named endsName)
  rw [String.ofList_toList] at read
  refine .look sync ?_
  refine .bind (takes_keyword word) ?_
  refine .bind read ?_
  refine takes_get fun _ => ?_
  refine .look (takes_trySymbol_other (opened _) (symbolOf_ne (by decide) rfl)) ?_
  refine .char (takes_symbol (opened _) rfl) ?_
  refine .bind (takes_parameters spelled) ?_
  refine .look (takes_trySymbol_other (colon _) (symbolOf_ne (by decide) rfl)) ?_
  have bodied : Takes [] (colonBody body .plain) (':' :: passLine) ['\n'] () :=
    .char (takes_symbol (colon _) rfl) inner
  exact .last bodied (.pure _ _)

/-- on the next line -/
theorem functionDefinition_apply {body : Reads Unit} {name parameter : String} {decorators : List Decorator}
    (inner : Takes [] body passLine ['\n'] ()) (named : Name.Spelled name) (spelled : Name.Spelled parameter)
    (settled : c.Settled) (inside : c.blocks = []) (next : c.rest = '\n' :: definition name parameter ++ ['\n']) :
    functionDefinition deeper body decorators c =
      some (⟨name, c.row + 2, 1, false, decorators⟩, c.skip ('\n' :: definition name parameter).length) := by
  have word := isWord_def (name.toList ++ '(' :: (parameter.toList ++ [')'] ++ ':' :: passLine) ++ ['\n'])
  have split : c.rest = ['\n'] ++ (definition name parameter ++ ['\n']) := next
  have moved : toToken .statement c = some ((), c.skip 1) :=
    takes_toToken_next_line word.token rfl rfl c settled inside split
  have row : (c.skip 1).row = c.row + 1 := by simp [Cursor.skip, next]
  have takes : Takes [] (definitionAt deeper body decorators (c.row + 2)) (definition name parameter) ['\n'] _ :=
    takes_definitionAt inner named spelled
  have read := takes (c.skip 1) (settled.skip_of_append split) inside (Cursor.rest_skip_of_append split)
  rw [functionDefinition_eq, Takes.bind_apply moved]
  show definitionAt deeper body decorators ((c.skip 1).row + 1) (c.skip 1) = _
  rw [row, read, Cursor.skip_skip, List.length_cons, Nat.add_comm 1]

end Reads

namespace Written

open Reads

/-! ## Decorators -/

/-- the decorator that a call is read as -/
def Call.decorator (c : Call) : Decorator := ⟨c.expr, String.ofList c.written⟩

theorem Call.begins {c : Call} (proper : c.Proper) (rest : List Char) : BeginsOperand (c.written ++ rest) := by
  rw [Call.written, List.append_assoc]
  exact begins_spelled proper.word.1 _

theorem symbolOf_at (begins : BeginsOperand text) : symbolOf ('@' :: text) = "@" := by
  obtain ⟨k, first, -, other⟩ := begins
  obtain ⟨cs, rfl⟩ := List.head?_eq_some_iff.1 first
  have single : ('=' == k) = false := by simpa using fun same : '=' = k => other (by simp [← same])
  simp [symbolOf, symbols, List.find?, List.isPrefixOf, single]

theorem takes_decorator {mark : List Char} {call : Call} (proper : call.Proper) (breaks : ∃ more, Breaks rest 0 more)
    (marked : Takes blocks (symbol .statement "@") mark (call.written ++ rest) ()) :
    Takes blocks (decorator (nested (n + 3))) (mark ++ call.written) rest call.decorator := by
  obtain ⟨more, breaks⟩ := breaks
  have ends : Ends .statement rest := .line rfl breaks
  refine .bind marked (.last (takes_withText (Call.begins proper rest) (Call.takes proper ends)) ?_)
  exact .look (takes_lineEnd breaks) (.pure _ rest)

/-- decorators after the first one, each on the next line -/
def laterDecorators (calls : List Call) : List Char :=
  calls.flatMap fun c => '\n' :: '@' :: c.written

/-- one more decorator, if it comes next -/
def decoratorStep (deeper : Deeper) (ds : List Decorator) : Reads (Option (List Decorator)) := do
  if symbolOf (← ahead .plain) = "@" then return some ((← decorator deeper) :: ds)
  else return none

/-- what may come below decorators -/
structure BelowDecorators (below : List Char) : Prop where
  token : BeginsToken below
  other : symbolOf below ≠ "@"

theorem breaks_of_begins (token : BeginsToken text) : ∃ more, Breaks ('\n' :: text) 0 more := by
  obtain ⟨⟨k, first, solid⟩, -⟩ := token
  obtain ⟨cs, rfl⟩ := List.head?_eq_some_iff.1 first
  exact ⟨_, .line 0 cs solid⟩

theorem begins_at (cs : List Char) : BeginsToken ('@' :: cs) := ⟨⟨_, rfl, rfl⟩, rfl⟩

theorem breaks_laterDecorators (calls : List Call) {below : List Char} (stands : BelowDecorators below) :
    ∃ more, Breaks (laterDecorators calls ++ '\n' :: below) 0 more := by
  cases calls with
  | nil => exact breaks_of_begins stands.token
  | cons c calls => exact breaks_of_begins (begins_at _)

theorem rounds_laterDecorators {calls : List Call} (proper : ∀ c ∈ calls, c.Proper) {below : List Char}
    (stands : BelowDecorators below) (before : List Decorator) :
    Rounds [] (decoratorStep (nested (n + 3))) before (laterDecorators calls) ('\n' :: below)
      ((calls.map Call.decorator).reverse ++ before) := by
  induction calls generalizing before with
  | nil =>
    refine .stop (.look (takes_ahead_next_line stands.token rfl rfl) ?_)
    rw [if_neg stands.other]
    exact .pure none _
  | cons c calls ih =>
    obtain ⟨first, others⟩ := List.forall_mem_cons.1 proper
    have shape : laterDecorators (c :: calls) = ('\n' :: '@' :: c.written) ++ laterDecorators calls := by
      simp [laterDecorators]
    rw [shape, List.map_cons, List.reverse_cons, List.append_assoc]
    refine .next (List.cons_ne_nil _ _) ?_ (ih others (c.decorator :: before))
    have mark := symbolOf_at (c.begins first (laterDecorators calls ++ '\n' :: below))
    have marked : Takes [] (symbol .statement "@") ['\n', '@']
        (c.written ++ (laterDecorators calls ++ '\n' :: below)) () :=
      takes_symbol_next_line (s := "@") (begins_at _) mark rfl rfl
    have shown : Takes [] (ahead .plain) [] ('\n' :: '@' :: (c.written ++ (laterDecorators calls ++ '\n' :: below)))
        ('@' :: (c.written ++ (laterDecorators calls ++ '\n' :: below))) :=
      takes_ahead_next_line (begins_at _) rfl rfl
    refine .look shown ?_
    rw [if_pos mark]
    exact .last (takes_decorator first (breaks_laterDecorators calls stands) marked) (.pure _ _)

/-! ## Files -/

/-- decorators above a definition -/
def decoratorsAbove (deeper : Deeper) : Reads (List Decorator) := do
  let first ← decorator deeper
  let decorators ← repeatFrom [first] (decoratorStep deeper)
  return decorators.reverse

theorem decorated_eq (deeper : Deeper) (body : Reads Unit) :
    decorated deeper body = (do
      let decorators ← decoratorsAbove deeper
      if (← aheadWord .plain) = "class" then
        classDefinition deeper body
        return .other
      else return .function (← functionDefinition deeper body decorators)) := by
  simp only [decorated, decoratorsAbove, bind_assoc, pure_bind]
  rfl

/-- calls above a function of one parameter that does nothing -/
structure Declaration where
  first : Call
  others : List Call
  name : String
  parameter : String

namespace Declaration

structure Proper (d : Declaration) : Prop where
  first : d.first.Proper
  others : ∀ c ∈ d.others, c.Proper
  name : Name.Spelled d.name
  parameter : Name.Spelled d.parameter

/-- the lines of the decorators -/
def above (d : Declaration) : List Char := '@' :: d.first.written ++ laterDecorators d.others

/-- all lines, the last one without its end -/
def lines (d : Declaration) : List Char := d.above ++ '\n' :: definition d.name d.parameter

def written (d : Declaration) : List Char := d.lines ++ ['\n']

def decorators (d : Declaration) : List Decorator := d.first.decorator :: d.others.map Call.decorator

/-- the function that is read, on a line -/
def function (d : Declaration) (line : Nat) : Function := ⟨d.name, line, 1, false, d.decorators⟩

variable {d : Declaration}

theorem takes_decorators (proper : d.Proper) {below : List Char} (stands : BelowDecorators below) :
    Takes [] (decoratorsAbove (nested (n + 3))) d.above ('\n' :: below) d.decorators := by
  have mark := symbolOf_at (d.first.begins proper.first (laterDecorators d.others ++ '\n' :: below))
  have marked : Takes [] (symbol .statement "@") ['@']
      (d.first.written ++ (laterDecorators d.others ++ '\n' :: below)) () :=
    takes_symbol (s := "@") (begins_at _) mark
  have first := takes_decorator (n := n) proper.first (breaks_laterDecorators d.others stands) marked
  have later := (rounds_laterDecorators (n := n) proper.others stands [d.first.decorator]).repeatFrom
  have order : ((d.others.map Call.decorator).reverse ++ [d.first.decorator]).reverse = d.decorators := by
    simp [decorators]
  refine .bind first (.last later ?_)
  rw [order]
  exact .pure _ _

theorem count_laterDecorators {calls : List Call} (proper : ∀ c ∈ calls, c.Proper) :
    (laterDecorators calls).count '\n' = calls.length := by
  induction calls with
  | nil => rfl
  | cons c calls ih =>
    obtain ⟨first, others⟩ := List.forall_mem_cons.1 proper
    have none := List.count_eq_zero.2 (Call.one_line first)
    have shape : laterDecorators (c :: calls) = '\n' :: '@' :: (c.written ++ laterDecorators calls) := by
      simp [laterDecorators]
    rw [shape, List.count_cons_self, List.count_cons_of_ne (by decide), List.count_append, none, ih others,
      Nat.zero_add, List.length_cons]

theorem count_above (proper : d.Proper) : d.above.count '\n' = d.others.length := by
  have none := List.count_eq_zero.2 (Call.one_line proper.first)
  simp [above, none, count_laterDecorators proper.others]

theorem below_definition (name parameter : String) : BelowDecorators (definition name parameter ++ ['\n']) where
  token := (isWord_def _).token
  other := symbolOf_ne (by decide) rfl

theorem wordOf_definition (name parameter : String) :
    wordOf (definition name parameter ++ ['\n']) = "def".toList := (isWord_def _).whole

theorem decorated_apply {body : Reads Unit} (proper : d.Proper) (inner : Takes [] body passLine ['\n'] ())
    (settled : c.Settled) (inside : c.blocks = []) (next : c.rest = d.written) :
    decorated (nested (n + 3)) body c =
      some (.function (d.function (c.row + d.others.length + 2)), c.skip d.lines.length) := by
  have stands := below_definition d.name d.parameter
  have split : c.rest = d.above ++ '\n' :: definition d.name d.parameter ++ ['\n'] := next
  rw [List.append_assoc] at split
  have later : (c.skip d.above.length).rest = '\n' :: definition d.name d.parameter ++ ['\n'] :=
    Cursor.rest_skip_of_append split
  have settledLater := settled.skip_of_append split
  have row : (c.skip d.above.length).row = c.row + d.others.length := by
    show c.row + (c.rest.take d.above.length).count '\n' = _
    rw [split, List.take_left, count_above proper]
  have word : Takes [] (aheadWord .plain) [] ('\n' :: definition d.name d.parameter ++ ['\n']) "def" := by
    have shown : Takes [] (aheadWord .plain) [] ('\n' :: (definition d.name d.parameter ++ ['\n'])) _ :=
      .look (takes_ahead_next_line stands.token rfl rfl) (.pure _ _)
    rwa [wordOf_definition, String.ofList_toList] at shown
  have defined : functionDefinition (nested (n + 3)) body d.decorators (c.skip d.above.length) = _ :=
    functionDefinition_apply inner proper.name proper.parameter settledLater inside later
  -- the definition is read at a cursor: its line is the number of breaks before it, which no `Takes` tells
  have read : decoratorsAbove (nested (n + 3)) c = some (d.decorators, c.skip d.above.length) :=
    takes_decorators proper stands c settled inside split
  rw [decorated_eq, Takes.bind_apply read, Takes.bind_apply (word _ settledLater inside later), List.length_nil,
    Cursor.skip_zero, if_neg (by decide), Takes.bind_apply defined, row, Cursor.skip_skip, lines, List.length_append]
  rfl

/-- moves nowhere on the line of a token -/
theorem takes_toStatement_here (token : BeginsToken rest) : Takes blocks toStatement [] rest () := by
  intro c settled _ next
  rw [toStatement, peek_bind, upcoming_here settled next token, List.length_nil, Cursor.skip_zero]
  rfl

theorem written_eq (d : Declaration) : d.written =
    '@' :: (d.first.written ++ (laterDecorators d.others ++ '\n' :: (definition d.name d.parameter ++ ['\n']))) := by
  simp [written, lines, above]

theorem statement_apply {body : Reads Unit} (proper : d.Proper) (inner : Takes [] body passLine ['\n'] ())
    (settled : c.Settled) (inside : c.blocks = []) (next : c.rest = d.written) :
    statement (nested (n + 3)) body c =
      some ([.function (d.function (c.row + d.others.length + 2))], c.skip d.lines.length) := by
  have token : BeginsToken d.written := begins_at _
  have wordless : wordOf d.written = [] := by
    rw [written_eq]
    rfl
  have mark : symbolOf d.written = "@" := by
    rw [written_eq]
    exact symbolOf_at (d.first.begins proper.first _)
  have word : Takes [] (aheadWord .statement) [] d.written _ := takes_aheadWord token
  have sync : Takes [] asyncAhead [] d.written "" := takes_asyncAhead token (by rw [wordless]; decide)
  rw [statement, Takes.here (takes_toStatement_here token) settled inside next, Takes.here word settled inside next,
    Takes.here sync settled inside next, Takes.here (takes_ahead token) settled inside next, if_pos mark,
    Takes.bind_apply (decorated_apply proper inner settled inside next)]
  rfl

/-- statements of a file, and whether more may come -/
def fileStep (statement : Reads (List Statement)) :
    List Statement × Bool → Reads (Option (List Statement × Bool)) := fun (statements, more) => do
  if !more then return none
  else match ← peek .statement with
  | .token there =>
    if there.rest.isEmpty then return some (statements, false)
    else return some ((← statement).reverse ++ statements, true)
  | .string _ => return some ((← statement).reverse ++ statements, true)
  | _ => failure

theorem fileStatements_eq (statement : Reads (List Statement)) :
    fileStatements statement = (do
      let (statements, _) ← repeatFrom ([], true) (fileStep statement)
      return statements.reverse) := rfl

theorem fileStatements_apply {body : Reads Unit} (proper : d.Proper) (inner : Takes [] body passLine ['\n'] ())
    (settled : c.Settled) (inside : c.blocks = []) (next : c.rest = d.written) :
    fileStatements (statement (nested (n + 3)) body) c =
      some ([.function (d.function (c.row + d.others.length + 2))], c.skip d.lines.length) := by
  let f : Statement := .function (d.function (c.row + d.others.length + 2))
  let e := c.skip d.lines.length
  have some : c.rest ≠ [] := by
    rw [next, written_eq]
    exact List.cons_ne_nil _ _
  have last : e.rest = ['\n'] := Cursor.rest_skip_of_append next
  have begins : upcoming .statement c = .token c := upcoming_here settled next (begins_at _)
  have ends : upcoming .statement e = .token (e.skip 1) := by
    have breaks : Breaks e.rest 0 [] := last ▸ .last
    have outside : e.blocks = [] := inside
    exact upcoming_line (settled.skip_of_append next) breaks rfl rfl (by simp [outside]) rfl
  have first : fileStep (statement (nested (n + 3)) body) ([], true) c = .some (.some ([f], true), e) := by
    have more : c.rest.isEmpty = false := List.isEmpty_eq_false_iff.2 some
    simp only [fileStep, Bool.not_true, Bool.false_eq_true, if_false]
    rw [peek_bind, begins]
    simp only [more, Bool.false_eq_true, if_false]
    exact Takes.bind_apply (statement_apply proper inner settled inside next)
  have second : fileStep (statement (nested (n + 3)) body) ([f], true) e = .some (.some ([f], false), e) := by
    have none : (e.skip 1).rest = [] := by rw [Cursor.rest_skip, last]; rfl
    simp only [fileStep, Bool.not_true, Bool.false_eq_true, if_false]
    rw [peek_bind, ends]
    simp only [none, List.isEmpty_nil, if_true]
    rfl
  rw [fileStatements_eq]
  exact Takes.bind_apply (repeatFrom_of_three settled some first second rfl)

/-- the file that holds only the declaration -/
theorem read?_eq (proper : d.Proper) :
    Module.read? (String.ofList d.written) = some [.function (d.function (d.others.length + 2))] := by
  let start : Cursor := ⟨d.written, d.written.length, 0, 0, [], false⟩
  have starts : Cursor.start (String.ofList d.written).toList = start := by
    rw [String.toList_ofList, written_eq, Cursor.start]
    · simp only [start, written_eq]
    · simp
  have settled : start.Settled := ⟨(Nat.zero_add _).symm, rfl⟩
  obtain ⟨n, bound⟩ := Nat.exists_eq_add_of_le (show 3 ≤ start.bound by
    rw [settled.bound_eq]
    simp [start, written_eq])
  have inner : Takes [] (bodyWithin (nested (n + 3)) (n + 3)) passLine ['\n'] () := takes_body _
  have read := fileStatements_apply (n := n) proper inner settled rfl rfl
  rw [Module.read?, starts, bound, Nat.add_comm 3]
  show ((fileStatements _) start).map Prod.fst = _
  rw [read]
  simp [start]

end Declaration

end Written

end Trialbook.Source
