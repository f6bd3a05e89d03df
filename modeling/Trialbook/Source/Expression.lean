/-
EXPRESSIONS of a declaration file.

Each production below reads one form of expression and takes, as `deeper`, the reader of the expressions inside it.
Only the shape that declarations need is kept, so operators of every precedence make one `compound` expression; what
matters is which texts are expressions at all. `Reads.nested` closes the knot: a text of `n` characters nests fewer
than `n + 1` levels deep, since every form reads at least one character before the expressions inside it.
-/
import Trialbook.Source.StringToken
import Trialbook.Source.Tree

namespace Trialbook.Source

/-- where an expression stands: what may follow it -/
structure Place where
  /-- the end of the statement -/
  newline : Bool
  /-- a closing bracket -/
  closer : Bool
  /-- a condition, with `else` after it -/
  conditional : Bool

namespace Place

/-- at the end of a statement -/
def statement : Place := ⟨true, false, true⟩

/-- between brackets -/
def bracket : Place := ⟨false, true, true⟩

/-- before a keyword or a colon -/
def inner : Place := ⟨false, false, true⟩

/-- the source or the condition of a comprehension, where `if` starts another condition -/
def clause : Place := ⟨false, true, false⟩

/-- what may come after the expression, apart from operators -/
def after (p : Place) : Expected := { Expected.plain with newline := p.newline, closer := p.closer }

/-- what may come where the expression is optional -/
def instead (p : Place) : Expected := { p.after with string := true }

end Place

/-- the expressions that occur inside others: any, or one that is no operator of lower rank than a sign -/
inductive Goal where
  | expression
  | primary

/-- the reader of the expressions inside an expression -/
abbrev Deeper := Goal → Place → Reads Expr

/-! ## What can start an expression -/

/-- words that go on with an expression, or with what it is part of, and so start no operand after one -/
def continuingWords : List String :=
  ["and", "or", "not", "in", "is", "if", "as", "else", "for", "from"]

/-- whether the characters of a token can start a primary expression -/
def startsPrimary (cs : List Char) : Bool :=
  match cs with
  | '.' :: '.' :: '.' :: _ => true
  | '.' :: c :: _ => isDecimal c
  | c :: _ => Text.isNameStart c || isDecimal c || "([\x7b-+~*".toList.contains c
  | [] => false

/-- whether an expression comes next -/
def Upcoming.startsExpression : Upcoming → Bool
  | .string _ => true
  | .token there => startsPrimary there.rest
  | _ => false

/-- whether an operand comes next after a word that could also be a name -/
def Upcoming.startsOperand : Upcoming → Bool
  | .string _ => true
  | .token there =>
    startsPrimary there.rest && !continuingWords.contains (String.ofList (wordOf there.rest))
  | _ => false

namespace Reads

/-- whether what may come next here is an expression; moves to it if so -/
def toExpression (e : Expected) (starts : Upcoming → Bool) : Reads Bool := do
  let next ← peek e
  match next.cursor? with
  | some there =>
    if starts next then
      set there
      return true
    else return false
  | none => return false

/-! ## Lists of expressions -/

/-- reads commas and expressions after a first one; a comma may come last. The second part says whether a comma came -/
def moreItems (read : Reads Expr) (place : Place) (first : Expr) : Reads (List Expr × Bool) := do
  let (items, comma, _) ← repeatFrom ([first], false, true) fun (items, _, more) => do
    if !more then return none
    else if ← trySymbol place.after "," then
      if ← toExpression place.instead Upcoming.startsExpression then return some ((← read) :: items, true, true)
      else return some (items, true, false)
    else return none
  return (items.reverse, comma)

section Productions

variable (deeper : Deeper)

/-- reads `yield` and what it yields -/
def yielded (place : Place) : Reads Expr := do
  keyword .operand "yield"
  if ← tryWord place.instead "from" then
    let _ ← deeper .expression place
  else if ← toExpression place.instead Upcoming.startsExpression then
    let first ← deeper .expression place
    let _ ← moreItems (deeper .expression place) place first
  return .compound

/-- an item of a list, set or tuple, and whether it is an expression in its own right -/
def collectionItem (place : Place) : Reads (Expr × Bool) := do
  match ← ahead .operand with
  | '*' :: _ =>
    toToken .operand
    skip 1
    return (.starred (← deeper .expression place), false)
  | cs =>
    if wordOf cs = "yield".toList then return (← yielded deeper place, false)
    else return (← deeper .expression place, true)

/-- reads the items after the first one, a comma last allowed, and the closing bracket; the result says whether any
comma came -/
def restOfCollection (closing : String) (first : Expr) : Reads (List Expr × Bool) := do
  let (items, comma, _) ← repeatFrom ([first], false, true) fun (items, comma, more) => do
    if !more then return none
    else if ← trySymbol .closing closing then return some (items, comma, false)
    else
      symbol .closing ","
      if ← tryClosing .element closing then return some (items, true, false)
      else return some ((← collectionItem deeper .bracket).1 :: items, true, true)
  return (items.reverse, comma)

/-! ## Comprehensions -/

/-- reads targets up to `in`, which is read too -/
def targetsBeforeIn : Reads Unit := do
  let target : Reads Unit := do
    if (← deeper .primary .inner).isTarget then return () else failure
  target
  let _ ← repeatFrom true fun more => do
    if !more then return none
    else if ← tryWord .plain "in" then return some false
    else
      symbol .plain ","
      if ← tryWord .operand "in" then return some false
      else
        target
        return some true

/-- whether a clause of a comprehension comes next -/
def clauseAhead : Reads Bool := do
  match ← peek .closing with
  | .token there =>
    let w := wordOf there.rest
    if w = "for".toList then return true
    else if w = "async".toList then
      match upcoming .plain (there.skip w.length) with
      | .token next => return wordOf next.rest = "for".toList
      | _ => return false
    else return false
  | _ => return false

/-- reads the clauses of a comprehension -/
def clauses : Reads Unit := do
  let source : Reads Unit := do
    let isAsync ← tryWord .closing "async"
    keyword (if isAsync then .plain else .closing) "for"
    targetsBeforeIn deeper
    let first ← deeper .expression .clause
    let _ ← repeatFrom ([first], true) fun (items, more) => do
      if !more then return none
      else if ← trySymbol .closing "," then
        let clause := (← clauseAhead) || (← aheadWord .closing) = "if"
        if !clause && (← toExpression .element Upcoming.startsExpression) then
          return some ((← deeper .expression .clause) :: items, true)
        else return some (items, false)
      else return none
  source
  let _ ← repeatFrom () fun _ => do
    if ← clauseAhead then
      source
      return some ()
    else if ← tryWord .closing "if" then
      let _ ← deeper .expression .clause
      return some ()
    else return none

/-! ## Bracketed forms -/

/-- reads what follows an opening parenthesis: a tuple, a generator or a grouped expression -/
def parenthesized : Reads Expr := do
  if ← tryClosing .element ")" then return .tuple []
  else
    let (first, plain) ← collectionItem deeper .bracket
    if plain && (← clauseAhead) then
      clauses deeper
      symbol .closing ")"
      return .compound
    else
      let (items, comma) ← restOfCollection deeper ")" first
      if comma then return .tuple items
      else
        match first with
        | .starred e => return if e.isPlace then .grouped first else .tuple [first]
        | _ => return .grouped first

/-- reads what follows an opening square bracket: a list or a comprehension -/
def bracketed : Reads Expr := do
  if ← tryClosing .element "]" then return .list []
  else
    let (first, plain) ← collectionItem deeper .bracket
    if plain && (← clauseAhead) then
      clauses deeper
      symbol .closing "]"
      return .compound
    else
      let (items, _) ← restOfCollection deeper "]" first
      return .list items

/-- reads one entry of a dictionary -/
def dictionaryEntry : Reads Unit := do
  if ← trySymbol .element "**" then
    let _ ← deeper .expression .bracket
  else
    let _ ← deeper .expression .inner
    symbol .plain ":"
    let _ ← deeper .expression .bracket

/-- reads the entries after the first one and the closing brace -/
def restOfDictionary : Reads Unit := do
  let _ ← repeatFrom true fun more => do
    if !more then return none
    else if ← trySymbol .closing "\x7d" then return some false
    else
      symbol .closing ","
      if ← tryClosing .element "\x7d" then return some false
      else
        dictionaryEntry deeper
        return some true

/-- reads what follows an opening brace: a dictionary, a set or a comprehension -/
def braced : Reads Expr := do
  if ← tryClosing .element "\x7d" then return .compound
  else if ← trySymbol .element "," then
    symbol .closing "\x7d"
    return .compound
  else if ← trySymbol .element "**" then
    let _ ← deeper .expression .bracket
    restOfDictionary deeper
    return .compound
  else
    let (first, plain) ← collectionItem deeper .bracket
    if plain && (← trySymbol .closing ":") then
      let _ ← deeper .expression .bracket
      if ← clauseAhead then
        clauses deeper
        symbol .closing "\x7d"
      else restOfDictionary deeper
      return .compound
    else if plain && (← clauseAhead) then
      clauses deeper
      symbol .closing "\x7d"
      return .compound
    else
      let _ ← restOfCollection deeper "\x7d" first
      return .compound

/-! ## Strings -/

/-- reads the format of an embedded expression, up to its closing brace -/
def formatSpec (embedded : Reads Unit) : Nat → Reads Unit
  | 0 => failure
  | n + 1 => do
    match (← get).rest with
    | [] => failure
    | ch :: cs =>
      if ch = '\x00' then failure
      else if ch = '\x7d' then skip 1
      else if ch = '\x7b' then
        skip 1
        embedded
        formatSpec embedded n
      else if ch = '\n' then
        skip 1
        formatSpec embedded n
      else
        skip (1 + (cs.takeWhile fun c => !"\x7b\x7d\n\x00".toList.contains c).length)
        formatSpec embedded n

/-- reads an expression embedded in a formatted string, and the closing brace; formats nest to the given depth -/
def embedded : Nat → Reads Unit
  | 0 => failure
  | n + 1 => do
    if (← aheadWord .operand) = "yield" then
      let _ ← yielded deeper .bracket
    else
      let first ← deeper .expression .bracket
      let _ ← moreItems (deeper .expression .bracket) .bracket first
    let _ ← trySymbol .closing "="
    match ← ahead .closing with
    | '!' :: c :: _ =>
      if 'a' ≤ c ∧ c ≤ 'z' then
        toToken .closing
        skip 2
      else failure
    | _ => pure ()
    match ← ahead .closing with
    | ':' :: _ =>
      toToken .closing
      skip 1
      let c ← get
      formatSpec (embedded n) c.bound
    | _ => symbol .closing "\x7d"

/-- reads one string at the cursor -/
def oneString : Reads String := do
  let c ← get
  stringToken (embedded deeper c.bound)

/-- reads a string at the cursor and the strings that follow it -/
def stringsAt (place : Place) : Reads Expr := do
  let first ← oneString deeper
  let parts ← repeatFrom [first] fun parts => do
    match ← peek place.instead with
    | .string there =>
      set there
      return some ((← oneString deeper) :: parts)
    | _ => return none
  match parts with
  | [only] => return .string only
  | parts => return .strings parts.reverse

/-! ## Calls, members and items -/

/-- reads a value and gives it its text -/
def withText (read : Reads Expr) : Reads (Expr × String) := do
  toElement
  let start ← get
  let e ← read
  return (e, start.upTo (← get))
where
  toElement : Reads Unit := do
    match ← peek .operand with
    | .string there => set there
    | .token there => set there
    | _ => failure

/-- reads one argument -/
def argument : Reads (Argument Expr) := do
  if ← trySymbol .element "**" then
    let _ ← deeper .expression .bracket
    return .spread
  else
    match ← ahead .element with
    | '*' :: _ =>
      toToken .element
      skip 1
      let _ ← deeper .expression .bracket
      return .spread
    | _ =>
      let (value, text) ← withText (deeper .expression .bracket)
      match value with
      | .name key =>
        if ← trySymbol .closing "=" then return .keyword key (← deeper .expression .bracket)
        else return .positional value text
      | _ => return .positional value text

/-- reads the arguments after the first one and the closing parenthesis -/
def restOfArguments (first : Argument Expr) : Reads (List (Argument Expr)) := do
  let (args, _) ← repeatFrom ([first], true) fun (args, more) => do
    if !more then return none
    else if ← trySymbol .closing ")" then return some (args, false)
    else
      symbol .closing ","
      if ← tryClosing .element ")" then return some (args, false)
      else return some ((← argument deeper) :: args, true)
  return args.reverse

/-- reads what follows the opening parenthesis of a call; none stands for a generator -/
def arguments : Reads (Option (List (Argument Expr))) := do
  if ← tryClosing .element ")" then return some []
  else if ← trySymbol .element "," then
    symbol .closing ")"
    return some []
  else
    let first ← argument deeper
    let generator ← match first with
      | .positional _ _ => clauseAhead
      | _ => pure false
    if generator then
      clauses deeper
      symbol .closing ")"
      return none
    else return some (← restOfArguments deeper first)

/-- reads an index or a slice -/
def subscript : Reads Unit := do
  let bound : Reads Unit := do
    if ← toExpression .element Upcoming.startsExpression then
      let _ ← deeper .expression .bracket
  let slice : Reads Unit := do
    bound
    if ← trySymbol .closing ":" then bound
  if ← trySymbol .operand ":" then slice
  else
    let _ ← deeper .expression .bracket
    if ← trySymbol .closing ":" then slice

/-- reads indices after an opening square bracket, and the closing one -/
def subscripts : Reads Unit := do
  subscript deeper
  let _ ← repeatFrom true fun more => do
    if !more then return none
    else if ← trySymbol .closing "]" then return some false
    else
      symbol .closing ","
      if ← tryClosing .element "]" then return some false
      else
        subscript deeper
        return some true

/-- reads the calls, members and items that follow an operand -/
def postfixes (place : Place) (operand : Expr) : Reads Expr :=
  repeatFrom operand fun e => do
    if ← trySymbol place.after "." then
      let _ ← word .plain
      return some (.member e)
    else if ← trySymbol place.after "(" then return some (.call e (← arguments deeper))
    else if ← trySymbol place.after "[" then
      subscripts deeper
      return some (.item e)
    else return none

/-! ## Operands -/

/-- reads a number at the cursor -/
def number : Reads Expr := do
  let cs := (← get).rest
  let i := integerLength cs
  let f := floatLength cs
  skip (max i f)
  if f < i then return .integer (String.ofList (cs.take i))
  else if 0 < f then return .float (String.ofList (cs.take f))
  else failure

/-- what a word denotes as an operand -/
def ofWord (w : String) : Expr :=
  if w = "True" then .truth true
  else if w = "False" then .truth false
  else if w = "None" then .absent
  else .name w

/-- reads an operand without operators -/
def atom (place : Place) : Reads Expr := do
  match ← peek .operand with
  | .string there =>
    set there
    stringsAt deeper place
  | .token there =>
    set there
    match there.rest with
    | '(' :: _ =>
      skip 1
      parenthesized deeper
    | '[' :: _ =>
      skip 1
      bracketed deeper
    | '\x7b' :: _ =>
      skip 1
      braced deeper
    | '.' :: '.' :: '.' :: _ =>
      skip 3
      return .compound
    | '.' :: _ => number
    | c :: _ =>
      if isDecimal c then number
      else return ofWord (← word .operand)
    | [] => failure
  | _ => failure

/-- reads an operand with the signs before it and the calls, members and items after it -/
def primary (place : Place) : Reads Expr := do
  match ← ahead .operand with
  | '*' :: _ =>
    toToken .operand
    skip 1
    let e ← deeper .primary place
    if e.isPlace then return .starred e
    else if e.canBeStarred then return .compound
    else failure
  | c :: cs =>
    if c = '-' ∨ c = '+' ∨ c = '~' then
      toToken .operand
      skip 1
      return .unary c (← deeper .primary place)
    else if wordOf (c :: cs) = "await".toList then
      let _ ← word .operand
      if ← toExpression place.instead Upcoming.startsOperand then
        let _ ← deeper .primary place
        return .compound
      else postfixes deeper place (.name "await")
    else postfixes deeper place (← atom deeper place)
  | [] => postfixes deeper place (← atom deeper place)

/-! ## Operators -/

/-- symbols between two primary expressions -/
def binarySymbols : List String :=
  ["+", "-", "*", "@", "/", "%", "//", "**", "|", "&", "^", "<<", ">>"]

/-- symbols that compare -/
def comparisonSymbols : List String := ["<", "<=", "==", "!=", ">=", ">", "<>"]

/-- reads an operator between primary expressions, if one comes next -/
def binaryOperator (place : Place) : Reads Bool := do
  match ← peek place.after with
  | .token there =>
    let s := symbolOf there.rest
    if binarySymbols.contains s || comparisonSymbols.contains s then
      set (there.skip s.length)
      return true
    else
      let w := String.ofList (wordOf there.rest)
      if w = "in" then tryWord place.after "in"
      else if w = "not" then
        let _ ← word place.after
        tryWord .plain "in"
      else if w = "is" then
        let _ ← word place.after
        let _ ← tryWord .operand "not"
        return true
      else return false
  | _ => return false

/-- reads primary expressions with operators between them -/
def chain (place : Place) : Reads Expr := do
  let first ← primary deeper place
  repeatFrom first fun _ => do
    if ← orBack (do if ← binaryOperator place then return true else failure) (return false) then
      let _ ← primary deeper place
      return some .compound
    else return none

/-- reads a name that a lambda or a function takes, and its default or type hint -/
def parameter (hint : Option (Reads Unit)) (place : Place) : Reads Bool := do
  let hinted : Reads Unit := do
    match hint with
    | some a => if ← trySymbol place.after ":" then a
    | none => pure ()
  let default : Reads Unit := do
    if ← trySymbol place.after "=" then
      let _ ← deeper .expression place
  match ← ahead .element with
  | '/' :: _ =>
    symbol .element "/"
    return false
  | '(' :: _ =>
    symbol .element "("
    let e ← parenthesized deeper
    if e.isTarget then
      default
      return true
    else failure
  | '*' :: '*' :: _ =>
    symbol .element "**"
    if (← deeper .primary place).isPlace then
      hinted
      return true
    else failure
  | '*' :: _ =>
    symbol .element "*"
    let separator ← match ← ahead place.instead with
      | c :: _ => pure (c == ',' || c == ')' || c == ':')
      | [] => pure false
    if separator then return false
    else if (← deeper .primary place).isPlace then
      hinted
      return true
    else failure
  | _ =>
    let _ ← word .element
    hinted
    default
    return true

/-- reads parameters up to a closing symbol, which is read too, and counts them; separators do not count -/
def parameters (hint : Option (Reads Unit)) (place : Place) (closing : String) : Reads Nat := do
  if ← tryClosing place.instead closing then return 0
  else
    let count (n : Nat) : Reads Nat := do return if ← parameter deeper hint place then n + 1 else n
    let first ← count 0
    let (n, _) ← repeatFrom (first, true) fun (n, more) => do
      if !more then return none
      else if ← trySymbol place.after closing then return some (n, false)
      else
        symbol place.after ","
        if ← tryClosing place.instead closing then return some (n, false)
        else return some (← count n, true)
    return n

/-- reads an expression up to the next `and`, `or`, `as` or condition -/
def simple (place : Place) : Reads Expr := do
  let w ← aheadWord .operand
  if w = "not" then
    let _ ← word .operand
    let _ ← deeper .expression place
    return .compound
  else if w = "lambda" then
    let _ ← word .operand
    let _ ← parameters deeper none .inner ":"
    let _ ← deeper .expression place
    return .compound
  else
    let e ← chain deeper place
    match e with
    | .name _ =>
      if ← trySymbol place.after ":=" then
        let _ ← deeper .expression place
        return .compound
      else return e
    | _ => return e

/-- reads an expression -/
def expression (place : Place) : Reads Expr := do
  let first ← simple deeper place
  repeatFrom first fun _ => do
    let w ← aheadWord place.after
    if w = "and" ∨ w = "or" ∨ w = "as" then
      let _ ← word place.after
      let _ ← simple deeper place
      return some .compound
    else if w = "if" ∧ place.conditional then
      let _ ← word place.after
      let _ ← deeper .expression .inner
      keyword .plain "else"
      let _ ← simple deeper place
      return some .compound
    else return none

end Productions

/-- reads an expression nested at most so many levels deep -/
def nested : Nat → Deeper
  | 0, _, _ => failure
  | n + 1, .expression, place => expression (nested n) place
  | n + 1, .primary, place => primary (nested n) place

end Reads

end Trialbook.Source
