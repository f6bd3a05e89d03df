/-
READERS: what a reader reads.

A reader takes a text when, wherever the text stands before a given rest, it moves past it and yields a result
(`Reads.Takes`). Such facts are put together as readers are: one after the other, by rounds of a loop, by looking ahead,
which takes nothing. What comes next at a cursor is settled by the blanks before it: none or a few on the same line
(`upcoming_spaced`), or a line break and the indentation of the next line (`upcoming_newline`, `upcoming_line`,
`upcoming_indent`, `upcoming_dedent`, `upcoming_end`).

Results:
- `Reads.Takes.bind`, `Reads.Takes.look`: readers one after the other.
- `Reads.Takes.repeatFrom`: a loop takes what its rounds take (`Reads.Rounds`).
- `Reads.takes_symbol`, `Reads.takes_word`: symbols and words.
-/
import Trialbook.Proofs.Names
import Trialbook.Source.Module

namespace Trialbook.Source

variable {α β : Type} {c there : Cursor} {e : Expected} {n m : Nat} {k : Char} {cs text more rest : List Char}

/-! ## Cursors -/

namespace Cursor

/-- knows how much of the file is left, and is in no formatted string -/
structure Settled (c : Cursor) : Prop where
  whole : c.size = c.offset + c.rest.length
  unformatted : c.inFormatted = false

theorem skip_zero (c : Cursor) : c.skip 0 = c := by
  simp [skip]

theorem skip_skip (c : Cursor) (n m : Nat) : (c.skip n).skip m = c.skip (n + m) := by
  simp [skip, List.take_add, Nat.add_assoc]

theorem rest_skip (c : Cursor) (n : Nat) : (c.skip n).rest = c.rest.drop n := rfl

theorem rest_skip_of_append (next : c.rest = text ++ rest) : (c.skip text.length).rest = rest := by
  rw [rest_skip, next, List.drop_left]

namespace Settled

theorem skip (h : c.Settled) (room : n ≤ c.rest.length) : (c.skip n).Settled := by
  refine ⟨?_, h.unformatted⟩
  show c.size = c.offset + n + (c.rest.drop n).length
  rw [h.whole, List.length_drop]
  omega

theorem skip_of_append (h : c.Settled) (next : c.rest = text ++ rest) : (c.skip text.length).Settled :=
  h.skip (by simp [next])

theorem bound_eq (h : c.Settled) : c.bound = c.rest.length + 2 := by
  rw [bound, h.whole]
  omega

end Settled

/-- the text from a cursor to a later one is what was moved past -/
theorem upTo_skip (next : c.rest = text ++ rest) : c.upTo (c.skip text.length) = String.ofList text := by
  have moved : (c.skip text.length).offset - c.offset = text.length := Nat.add_sub_cancel_left _ _
  rw [upTo, moved, next, List.take_left]

end Cursor

/-! ## What comes next -/

/-- neither separates tokens nor starts a comment or joins lines -/
def isSolid (k : Char) : Bool := !isSeparator k && k != '#' && k != '\\'

theorem not_blank_of_isSolid (solid : isSolid k = true) :
    k ≠ '\n' ∧ k ≠ ' ' ∧ k ≠ '\t' ∧ k ≠ '\r' ∧ k ≠ '\x0c' ∧ k ≠ '#' ∧ k ≠ '\\' := by
  refine ⟨?_, ?_, ?_, ?_, ?_, ?_, ?_⟩ <;> rintro rfl <;> cases solid

/-- spaces, and a token after them -/
theorem measure_spaces (counts : Bool) (g : Gap) (n : Nat) (cs : List Char) (solid : isSolid k = true) :
    measure counts false g (List.replicate n ' ' ++ k :: cs) =
      some { g with rest := k :: cs, width := g.width + n, indent := g.indent + n } := by
  induction n generalizing g with
  | zero =>
    obtain ⟨feed, space, tab, carriage, form, comment, joined⟩ := not_blank_of_isSolid solid
    rw [List.replicate_zero, List.nil_append, measure]
    · simp [feed, space, tab, carriage, form, comment]
    · exact joined
  | succ n ih =>
    rw [List.replicate_succ, List.cons_append, measure]
    · simp only [↓reduceIte, ih]
      simp [Nat.add_assoc, Nat.add_comm 1]
    · decide

theorem measure_newline (counts : Bool) (g : Gap) (cs : List Char) :
    measure counts false g ('\n' :: cs) =
      measure counts false { g with width := g.width + 1, broken := true, indent := 0 } cs := by
  rw [measure]
  · simp
  · decide

theorem isSeparator_of_isSolid (solid : isSolid k = true) : isSeparator k = false := by
  simp only [isSolid, Bool.and_eq_true, Bool.not_eq_true'] at solid
  exact solid.1.1

/-- where the layout has nothing to say, the next token comes after what separates tokens -/
theorem upcoming_of_layout (settled : c.Settled) (none : layout e c = none) (next : c.rest = text ++ rest)
    (blank : ∀ k ∈ text, isSeparator k = true) (token : ∀ k ∈ rest.head?, isSolid k = true) :
    upcoming e c = .token (c.skip text.length) := by
  have stop : rest.takeWhile isSeparator = [] := by
    cases rest with
    | nil => rfl
    | cons k cs => simp [isSeparator_of_isSolid (token k rfl)]
  have blanks : c.rest.takeWhile isSeparator = text := by
    rw [next, List.takeWhile_append_of_pos blank, stop, List.append_nil]
  rw [upcoming, settled.bound_eq, upcomingWithin, none]
  simp only [blanks, Cursor.rest_skip_of_append next]
  cases rest with
  | nil => rfl
  | cons k cs =>
    obtain ⟨-, -, -, -, -, comment, joined⟩ := not_blank_of_isSolid (token k rfl)
    split <;> first | rfl | simp_all

/-- on the same line -/
theorem upcoming_spaced (settled : c.Settled) (next : c.rest = List.replicate n ' ' ++ k :: cs)
    (solid : isSolid k = true) :
    upcoming e c = if e.string && startsString (k :: cs) then .string (c.skip n) else .token (c.skip n) := by
  have gap := measure_spaces e.countsComments ⟨c.rest, 0, false, 0, none⟩ n cs solid
  rw [← next] at gap
  by_cases string : (e.string && startsString (k :: cs)) = true
  · have found : layout e c = some (.string (c.skip n)) := by
      simp only [Bool.and_eq_true] at string
      simp [layout, gap, string]
    rw [upcoming, settled.bound_eq, upcomingWithin, found, if_pos string]
  · have none : layout e c = none := by
      simp only [Bool.and_eq_true] at string
      simp [layout, gap, string]
    have token := upcoming_of_layout settled none next (fun d hd => by rw [List.eq_of_mem_replicate hd]; rfl)
      (by simpa using solid)
    rw [token, List.length_replicate, if_neg string]

/-- a line break, and after it a line that is indented by so many spaces, or the end of the file -/
inductive Breaks : List Char → Nat → List Char → Prop where
  | line {k : Char} (n : Nat) (cs : List Char) : isSolid k = true →
    Breaks ('\n' :: (List.replicate n ' ' ++ k :: cs)) n (k :: cs)
  | last : Breaks ['\n'] 0 []

theorem Breaks.measure_eq (h : Breaks cs n rest) (counts : Bool) :
    measure counts false ⟨cs, 0, false, 0, none⟩ cs = some ⟨rest, n + 1, true, n, none⟩ := by
  cases h with
  | line n cs solid =>
    rw [measure_newline, measure_spaces _ _ _ _ solid]
    simp [Nat.add_comm]
  | last =>
    rw [measure_newline]
    rfl

theorem Breaks.text_eq (h : Breaks cs n rest) : cs = '\n' :: List.replicate n ' ' ++ rest := by
  cases h <;> rfl

theorem Breaks.solid (h : Breaks cs n rest) : ∀ k ∈ rest.head?, isSolid k = true := by
  cases h with
  | line _ _ solid => simpa using solid
  | last => simp

/-- where a statement may end -/
theorem upcoming_newline (settled : c.Settled) (breaks : Breaks c.rest n rest) (newline : e.newline = true)
    (indent : e.indent = false) (dedent : e.dedent = false) : upcoming e c = .newline := by
  have gap := breaks.measure_eq e.countsComments
  have found : layout e c = some .newline := by simp [layout, gap, newline, indent, dedent]
  rw [upcoming, settled.bound_eq, upcomingWithin, found]

/-- where a block may begin -/
theorem upcoming_indent (settled : c.Settled) (breaks : Breaks c.rest n rest) (indent : e.indent = true)
    (deeper : c.blocks.headD 0 < n) : upcoming e c = .indent { c with blocks := n :: c.blocks } := by
  have gap := breaks.measure_eq e.countsComments
  have found : layout e c = some (.indent { c with blocks := n :: c.blocks }) := by
    simp only [layout, gap, Option.bind_eq_bind, Option.bind_some]
    rw [if_pos (by simpa [indent] using deeper)]
    rfl
  rw [upcoming, settled.bound_eq, upcomingWithin, found]

/-- where a block may end -/
theorem upcoming_dedent (settled : c.Settled) (breaks : Breaks c.rest n rest) (dedent : e.dedent = true)
    (indent : e.indent = false) (less : n < c.blocks.headD 0) :
    upcoming e c = .dedent { c with blocks := c.blocks.tail } := by
  have gap := breaks.measure_eq e.countsComments
  have found : layout e c = some (.dedent { c with blocks := c.blocks.tail }) := by
    simp only [layout, gap, Option.bind_eq_bind, Option.bind_some]
    rw [if_neg (by simp [indent]), if_pos (by simpa [dedent, settled.unformatted] using less)]
    rfl
  rw [upcoming, settled.bound_eq, upcomingWithin, found]

/-- where the line break means nothing: the first token of the next line, or the end of the file -/
theorem upcoming_line (settled : c.Settled) (breaks : Breaks c.rest n rest) (newline : e.newline = false)
    (indent : e.indent = false) (block : c.blocks.headD 0 ≤ n) (token : (e.string && startsString rest) = false) :
    upcoming e c = .token (c.skip (n + 1)) := by
  have gap := breaks.measure_eq e.countsComments
  have none : layout e c = none := by
    simp only [layout, gap, Option.bind_eq_bind, Option.bind_some]
    rw [if_neg (by simp [indent]), if_neg, if_neg (by simp [newline]), if_neg (by simp [token])]
    intro ends
    simp only [Bool.and_eq_true, decide_eq_true_eq] at ends
    exact Nat.not_lt.2 block ends.1.1.2
  rw [upcoming_of_layout settled none breaks.text_eq _ breaks.solid, List.length_cons, List.length_replicate]
  intro d hd
  rcases List.mem_cons.1 hd with rfl | hd
  · rfl
  · rw [List.eq_of_mem_replicate hd]
    rfl

/-! ## Readers one after the other -/

namespace Reads

variable {blocks : List Nat} {r : Reads α} {f : α → Reads β} {a : α} {b : β} {s w : String}

/-- wherever the text stands before the rest, in these blocks, the reader moves past it and yields the result -/
def Takes (blocks : List Nat) (r : Reads α) (text rest : List Char) (a : α) : Prop :=
  ∀ c : Cursor, c.Settled → c.blocks = blocks → c.rest = text ++ rest → r c = some (a, c.skip text.length)

namespace Takes

theorem pure (a : α) (rest : List Char) : Takes blocks (Pure.pure a) [] rest a := by
  intro c _ _ _
  rw [List.length_nil, Cursor.skip_zero]
  rfl

theorem bind_apply {later : Cursor} (first : r c = some (a, later)) : (r >>= f) c = f a later := by
  show ((r c).bind fun p => f p.1 p.2) = _
  rw [first]
  rfl

theorem bind (first : Takes blocks r text (more ++ rest) a) (second : Takes blocks (f a) more rest b) :
    Takes blocks (r >>= f) (text ++ more) rest b := by
  intro c settled inside next
  have split : c.rest = text ++ (more ++ rest) := by rw [next, List.append_assoc]
  rw [bind_apply (first c settled inside split),
    second _ (settled.skip_of_append split) inside (Cursor.rest_skip_of_append split), Cursor.skip_skip,
    List.length_append]

/-- a reader of one character, and what it goes on with -/
theorem char (first : Takes blocks r [k] (more ++ rest) a) (second : Takes blocks (f a) more rest b) :
    Takes blocks (r >>= f) (k :: more) rest b :=
  bind first second

/-- what is only looked at is still there to be taken -/
theorem look (first : Takes blocks r [] (text ++ rest) a) (second : Takes blocks (f a) text rest b) :
    Takes blocks (r >>= f) text rest b :=
  bind first second

/-- what follows is only looked at -/
theorem last (first : Takes blocks r text rest a) (second : Takes blocks (f a) [] rest b) :
    Takes blocks (r >>= f) text rest b := by
  have both : Takes blocks (r >>= f) (text ++ []) rest b := bind first second
  rwa [List.append_nil] at both

/-- at a cursor, what is only looked at changes nothing -/
theorem here (first : Takes blocks r [] rest a) (settled : c.Settled) (inside : c.blocks = blocks)
    (next : c.rest = rest) : (r >>= f) c = f a c := by
  have read := first c settled inside next
  rw [List.length_nil, Cursor.skip_zero] at read
  exact bind_apply read

theorem skip (text rest : List Char) : Takes blocks (Reads.skip text.length) text rest () := fun _ _ _ _ => rfl

end Takes

/-! ## Loops -/

variable {step : α → Reads (Option α)} {a' a'' : α}

/-- the rounds of a loop: each takes something, the last one that goes on maybe nothing, and the loop declines then -/
inductive Rounds (blocks : List Nat) (step : α → Reads (Option α)) : α → List Char → List Char → α → Prop where
  | stop {a : α} {rest : List Char} : Takes blocks (step a) [] rest none → Rounds blocks step a [] rest a
  | last {a a' : α} {text rest : List Char} : Takes blocks (step a) text rest (some a') →
    Takes blocks (step a') [] rest none →
    Rounds blocks step a text rest a'
  | next {a a' a'' : α} {text more rest : List Char} : text ≠ [] → Takes blocks (step a) text (more ++ rest) (some a') →
    Rounds blocks step a' more rest a'' → Rounds blocks step a (text ++ more) rest a''

theorem takes_iterate_stop (stops : Takes blocks (step a) [] rest none) (n : Nat) :
    Takes blocks (iterate step (n + 1) a) [] rest a := by
  rw [iterate]
  exact .look stops (.pure a rest)

theorem takes_iterate_next (goes : Takes blocks (step a) text (more ++ rest) (some a'))
    (later : Takes blocks (iterate step n a') more rest a'') :
    Takes blocks (iterate step (n + 1) a) (text ++ more) rest a'' := by
  rw [iterate]
  exact .bind goes later

theorem Rounds.takes (h : Rounds blocks step a text rest a') (enough : text.length + 2 ≤ n) :
    Takes blocks (iterate step n a) text rest a' := by
  -- each round but the last takes a character, so the bound outlasts the text by two at every stage
  induction h generalizing n with
  | stop stops =>
    obtain ⟨n, rfl⟩ := Nat.exists_eq_add_of_lt (show 0 < n by omega)
    exact takes_iterate_stop stops _
  | @last a a' text rest goes stops =>
    obtain ⟨n, rfl⟩ := Nat.exists_eq_add_of_le (show 2 ≤ n by omega)
    rw [Nat.add_comm 2]
    have later := takes_iterate_stop stops n
    have both : Takes blocks (iterate step (n + 1 + 1) a) (text ++ []) rest a' := takes_iterate_next goes later
    rwa [List.append_nil] at both
  | @next a a' a'' text more rest some goes _ ih =>
    have longer := List.length_pos_iff.2 some
    rw [List.length_append] at enough
    obtain ⟨n, rfl⟩ := Nat.exists_eq_add_of_lt (show 0 < n by omega)
    exact takes_iterate_next goes (ih (by omega))

/-- a loop takes what its rounds take -/
theorem Rounds.repeatFrom (h : Rounds blocks step a text rest a') :
    Takes blocks (repeatFrom a step) text rest a' := by
  intro c settled inside next
  have enough : text.length + 2 ≤ c.bound := by
    rw [settled.bound_eq, next, List.length_append]
    omega
  exact h.takes enough c settled inside next

/-! ## Tokens -/

/-- begins with a token that is no string -/
def BeginsToken (text : List Char) : Prop := (∃ k ∈ text.head?, isSolid k = true) ∧ startsString text = false

/-- begins with a string -/
def BeginsString (text : List Char) : Prop := (∃ k ∈ text.head?, isSolid k = true) ∧ startsString text = true

theorem upcoming_token (settled : c.Settled) (next : c.rest = List.replicate n ' ' ++ text)
    (token : BeginsToken text) : upcoming e c = .token (c.skip n) := by
  obtain ⟨⟨k, first, solid⟩, word⟩ := token
  obtain ⟨cs, rfl⟩ := List.head?_eq_some_iff.1 first
  rw [upcoming_spaced settled next solid, if_neg (by simp [word])]

theorem upcoming_string (settled : c.Settled) (next : c.rest = List.replicate n ' ' ++ text)
    (string : BeginsString text) (expected : e.string = true) : upcoming e c = .string (c.skip n) := by
  obtain ⟨⟨k, first, solid⟩, quoted⟩ := string
  obtain ⟨cs, rfl⟩ := List.head?_eq_some_iff.1 first
  rw [upcoming_spaced settled next solid, if_pos (by simp [quoted, expected])]

/-- nothing on this line goes before the token -/
theorem upcoming_here (settled : c.Settled) (next : c.rest = text) (token : BeginsToken text) :
    upcoming e c = .token c := by
  have here := upcoming_token (n := 0) (e := e) settled next token
  rwa [Cursor.skip_zero] at here

theorem upcoming_string_here (settled : c.Settled) (next : c.rest = text) (string : BeginsString text)
    (expected : e.string = true) : upcoming e c = .string c := by
  have here := upcoming_string (n := 0) settled next string expected
  rwa [Cursor.skip_zero] at here

theorem get_bind (f : Cursor → Reads β) (c : Cursor) : ((get : Reads Cursor) >>= f) c = f c c := rfl

theorem peek_bind (f : Upcoming → Reads β) (c : Cursor) : (peek e >>= f) c = f (upcoming e c) c := rfl

theorem takes_ahead (token : BeginsToken rest) : Takes blocks (ahead e) [] rest rest := by
  intro c settled _ next
  rw [ahead, peek_bind, upcoming_here settled next token]
  simp [next, Cursor.skip_zero]
  rfl

theorem takes_ahead_string (string : BeginsString rest) (expected : e.string = true) :
    Takes blocks (ahead e) [] rest [] := by
  intro c settled _ next
  rw [ahead, peek_bind, upcoming_string_here settled next string expected]
  rw [List.length_nil, Cursor.skip_zero]
  rfl

theorem takes_toToken (n : Nat) (token : BeginsToken rest) :
    Takes blocks (toToken e) (List.replicate n ' ') rest () := by
  intro c settled _ next
  rw [toToken, peek_bind, upcoming_token settled next token, List.length_replicate]
  rfl

theorem takes_trySymbol (token : BeginsToken (s.toList ++ rest)) (symbol : symbolOf (s.toList ++ rest) = s) :
    Takes blocks (trySymbol e s) s.toList rest true := by
  intro c settled _ next
  rw [trySymbol, peek_bind, upcoming_here settled next token]
  simp only [next, symbol, if_true]
  rfl

/-- no symbol is read where another stands, or none -/
theorem takes_trySymbol_other (token : BeginsToken rest) (other : symbolOf rest ≠ s) :
    Takes blocks (trySymbol e s) [] rest false := by
  intro c settled _ next
  rw [trySymbol, peek_bind, upcoming_here settled next token, List.length_nil, Cursor.skip_zero]
  have differs : symbolOf c.rest ≠ s := next ▸ other
  simp only [differs, if_false]
  rfl

theorem takes_trySymbol_string (string : BeginsString rest) (expected : e.string = true) :
    Takes blocks (trySymbol e s) [] rest false := by
  intro c settled _ next
  rw [trySymbol, peek_bind, upcoming_string_here settled next string expected, List.length_nil, Cursor.skip_zero]
  rfl

theorem symbolOf_ne (some : s ≠ "") (other : s.toList.isPrefixOf rest = false) : symbolOf rest ≠ s := by
  rintro rfl
  rw [symbolOf] at some other
  cases found : symbols.find? fun s => s.toList.isPrefixOf rest with
  | none => simp [found] at some
  | some t =>
    have stands := List.find?_some found
    rw [found, Option.getD_some, stands] at other
    cases other

theorem takes_symbol (token : BeginsToken (s.toList ++ rest)) (symbol : symbolOf (s.toList ++ rest) = s) :
    Takes blocks (Reads.symbol e s) s.toList rest () :=
  .last (takes_trySymbol token symbol) (.pure () rest)

theorem takes_tryClosing (token : BeginsToken (s.toList ++ rest)) (symbol : symbolOf (s.toList ++ rest) = s) :
    Takes blocks (tryClosing e s) s.toList rest true := by
  intro c settled _ next
  rw [tryClosing, peek_bind, upcoming_here settled next token]
  simp only [next, symbol, if_true]
  rfl

/-- where no closing symbol stands, the blanks before what does are passed over -/
theorem takes_tryClosing_other (n : Nat) (token : BeginsToken rest) (other : symbolOf rest ≠ s) :
    Takes blocks (tryClosing e s) (List.replicate n ' ') rest false := by
  intro c settled _ next
  have differs : symbolOf (c.skip (List.replicate n ' ').length).rest ≠ s := by
    rwa [Cursor.rest_skip_of_append next]
  rw [List.length_replicate] at differs
  rw [tryClosing, peek_bind, upcoming_token settled next token, List.length_replicate]
  simp only [differs, if_false]
  rfl

theorem takes_tryClosing_string (n : Nat) (string : BeginsString rest) (expected : e.string = true) :
    Takes blocks (tryClosing e s) (List.replicate n ' ') rest false := by
  intro c settled _ next
  rw [tryClosing, peek_bind, upcoming_string settled next string expected, List.length_replicate]
  rfl

/-! ## Words -/

/-- a word that ends where the rest begins -/
structure IsWord (w rest : List Char) : Prop where
  some : w ≠ []
  whole : wordOf (w ++ rest) = w
  token : BeginsToken (w ++ rest)

theorem takes_aheadWord (token : BeginsToken rest) :
    Takes blocks (aheadWord e) [] rest (String.ofList (wordOf rest)) :=
  .look (takes_ahead token) (.pure _ rest)

theorem takes_aheadWord_string (string : BeginsString rest) (expected : e.string = true) :
    Takes blocks (aheadWord e) [] rest "" :=
  .look (takes_ahead_string string expected) (.pure _ rest)

theorem takes_word {w : List Char} (n : Nat) (word : IsWord w rest) :
    Takes blocks (Reads.word e) (List.replicate n ' ' ++ w) rest (String.ofList w) := by
  refine .bind (takes_toToken n word.token) fun c settled inside next => ?_
  have whole : wordOf c.rest = w := next ▸ word.whole
  show (if (wordOf c.rest).isEmpty then _ else _ : Reads String) c = _
  rw [whole, if_neg (by simpa using word.some)]
  rfl

theorem takes_word_here {w : List Char} (word : IsWord w rest) :
    Takes blocks (Reads.word e) w rest (String.ofList w) :=
  takes_word 0 word

theorem takes_tryWord (word : IsWord s.toList rest) : Takes blocks (tryWord e s) s.toList rest true := by
  have ahead : Takes blocks (aheadWord e) [] (s.toList ++ rest) _ := takes_aheadWord word.token
  rw [word.whole, String.ofList_toList] at ahead
  refine .look ahead ?_
  rw [if_pos rfl]
  exact .last (takes_word_here word) (.pure true rest)

theorem takes_tryWord_other (token : BeginsToken rest) (other : String.ofList (wordOf rest) ≠ w) :
    Takes blocks (tryWord e w) [] rest false := by
  refine .look (takes_aheadWord token) ?_
  show Takes blocks (if String.ofList (wordOf rest) = w then _ else _) [] rest false
  rw [if_neg other]
  exact .pure false rest

theorem takes_keyword (word : IsWord s.toList rest) : Takes blocks (keyword e s) s.toList rest () :=
  .last (takes_tryWord word) (.pure () rest)

theorem takes_lineEnd (breaks : Breaks rest n more) : Takes blocks lineEnd [] rest () := by
  intro c settled _ next
  have here : Breaks c.rest n more := by
    rw [next]
    exact breaks
  rw [lineEnd, peek_bind, upcoming_newline settled here rfl rfl rfl, List.length_nil, Cursor.skip_zero]
  rfl

/-- what ends a word: no letter of words, and no quote, which would make prefix letters of the word -/
def EndsWord (rest : List Char) : Prop := ∀ k ∈ rest.head?, Text.isNameLetter k = false ∧ isQuote k = false

theorem ascii_of_goesOn (h : Name.GoesOn k) : k.toNat < 128 := by
  have order (a b : Char) : a ≤ b ↔ a.toNat ≤ b.toNat := Iff.rfl
  simp only [Name.GoesOn, Name.Begins, order, Char.reduceToNat] at h
  rcases h with (h | h | rfl) | h
  · omega
  · omega
  · decide
  · omega

theorem not_isDecimal_of_begins (h : Name.Begins k) : isDecimal k = false := by
  have order (a b : Char) : a ≤ b ↔ a.toNat ≤ b.toNat := Iff.rfl
  by_contra digit
  simp only [isDecimal, order, Char.reduceToNat, Bool.and_eq_true, decide_eq_true_eq, Bool.not_eq_false] at digit
  simp only [Name.Begins, order, Char.reduceToNat] at h
  rcases h with h | h | rfl
  · omega
  · omega
  · exact absurd digit (by decide)

theorem isNameStart_of_begins (h : Name.Begins k) : Text.isNameStart k = true := by
  rw [Text.isNameStart, if_pos (ascii_of_goesOn (.inl h))]
  exact Name.isStart_iff.2 h

theorem isNameLetter_of_goesOn (h : Name.GoesOn k) : Text.isNameLetter k = true := by
  rw [Text.isNameLetter, if_pos (ascii_of_goesOn h)]
  exact Name.isLetter_iff.2 h

/-- what holds of all letters of words holds of those of seven bits -/
theorem of_goesOn {p : Char → Bool} (letters : ∀ n : Fin 128, Text.isNameLetter (Char.ofNat n) = true →
    p (Char.ofNat n) = true) (h : Name.GoesOn k) : p k = true := by
  have here := letters ⟨k.toNat, ascii_of_goesOn h⟩
  simp only [Char.ofNat_toNat] at here
  exact here (isNameLetter_of_goesOn h)

theorem isSolid_of_goesOn (h : Name.GoesOn k) : isSolid k = true := of_goesOn (by decide) h

theorem not_isQuote_of_goesOn (h : Name.GoesOn k) : isQuote k = false := by
  have quoteless := of_goesOn (p := fun k => !isQuote k) (by decide) h
  simpa using quoteless

theorem startsString_cons : startsString (k :: cs) = if isStringPrefix k then startsString cs else isQuote k := by
  by_cases letter : isStringPrefix k = true
  · simp [startsString, letter]
  · simp [startsString, letter]

theorem isNameLetter_of_isStringPrefix (h : isStringPrefix k = true) : Text.isNameLetter k = true := by
  have all : ∀ k ∈ "fFrRbBuU".toList, Text.isNameLetter k = true := List.all_eq_true.1 (by decide)
  exact all k (by simpa [isStringPrefix] using h)

theorem not_startsString {w : List Char} (letters : ∀ k ∈ w, Name.GoesOn k) (ends : EndsWord rest) :
    startsString (w ++ rest) = false := by
  induction w with
  | nil =>
    cases rest with
    | nil => rfl
    | cons k cs =>
      obtain ⟨other, quoteless⟩ := ends k rfl
      have letter : isStringPrefix k ≠ true := fun yes => by simp [isNameLetter_of_isStringPrefix yes] at other
      rw [List.nil_append, startsString_cons, if_neg letter, quoteless]
  | cons k cs ih =>
    rw [List.cons_append, startsString_cons]
    split
    · exact ih fun d hd => letters d (List.mem_cons_of_mem _ hd)
    · exact not_isQuote_of_goesOn (letters k List.mem_cons_self)

/-- words of seven-bit letters -/
theorem isWord_of_spelled (spelled : Name.Spelled s) (ends : EndsWord rest) : IsWord s.toList rest := by
  obtain ⟨first, letters, whole, begins, goes⟩ := spelled
  have all : ∀ k ∈ s.toList, Name.GoesOn k := by
    rw [whole]
    exact List.forall_mem_cons.2 ⟨.inl begins, goes⟩
  have after : rest.takeWhile Text.isNameLetter = [] := by
    cases rest with
    | nil => rfl
    | cons k cs => simp [(ends k rfl).1]
  refine ⟨by simp [whole], ?_, ⟨first, by simp [whole], isSolid_of_goesOn (.inl begins)⟩, not_startsString all ends⟩
  have run : (s.toList ++ rest).takeWhile Text.isNameLetter = s.toList := by
    rw [List.takeWhile_append_of_pos fun k hk => isNameLetter_of_goesOn (all k hk), after, List.append_nil]
  rw [whole, List.cons_append] at run ⊢
  exact (if_pos (isNameStart_of_begins begins)).trans run

/-! ## The next line -/

/-- the first token of the next line, where no block is open and line breaks mean nothing -/
theorem upcoming_next_line (settled : c.Settled) (inside : c.blocks = []) (next : c.rest = '\n' :: text)
    (token : BeginsToken text) (newline : e.newline = false) (indent : e.indent = false) :
    upcoming e c = .token (c.skip 1) := by
  obtain ⟨⟨k, first, solid⟩, word⟩ := token
  obtain ⟨cs, rfl⟩ := List.head?_eq_some_iff.1 first
  have breaks : Breaks c.rest 0 (k :: cs) := by
    rw [next]
    exact .line 0 cs solid
  exact upcoming_line settled breaks newline indent (by simp [inside]) (by simp [word])

theorem takes_ahead_next_line (token : BeginsToken rest) (newline : e.newline = false) (indent : e.indent = false) :
    Takes [] (ahead e) [] ('\n' :: rest) rest := by
  intro c settled inside next
  have later : (c.skip 1).rest = rest := by
    rw [Cursor.rest_skip, next]
    rfl
  rw [ahead, peek_bind, upcoming_next_line settled inside next token newline indent]
  show some ((c.skip 1).rest, c) = _
  rw [later, List.length_nil, Cursor.skip_zero]

theorem takes_toToken_next_line (token : BeginsToken rest) (newline : e.newline = false) (indent : e.indent = false) :
    Takes [] (toToken e) ['\n'] rest () := by
  intro c settled inside next
  rw [toToken, peek_bind, upcoming_next_line settled inside next token newline indent]
  rfl

theorem takes_symbol_next_line (token : BeginsToken (s.toList ++ rest)) (symbol : symbolOf (s.toList ++ rest) = s)
    (newline : e.newline = false) (indent : e.indent = false) :
    Takes [] (Reads.symbol e s) ('\n' :: s.toList) rest () := by
  refine .last (a := true) ?_ (.pure () rest)
  intro c settled inside next
  have later : (c.skip 1).rest = s.toList ++ rest := by
    rw [Cursor.rest_skip, next]
    rfl
  rw [trySymbol, peek_bind, upcoming_next_line settled inside next token newline indent]
  simp only [later, symbol, if_true]
  show some (true, (c.skip 1).skip s.length) = _
  rw [Cursor.skip_skip, Nat.add_comm]
  rfl

end Reads

end Trialbook.Source
