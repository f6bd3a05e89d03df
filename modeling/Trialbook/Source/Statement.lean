/-
STATEMENTS of a declaration file.

A line of simple statements is separated by semicolons and ends with its line; a compound statement has bodies, each a
line, an indented block, or nothing at all at the end of a line. Each production takes, as `body`, the reader of the
bodies inside it. The grammar is lenient: what an older edition of the language allowed is read too, and where it has no
place for a keyword the word is a name.
-/
import Trialbook.Source.TypeHint
import Trialbook.Source.CasePattern

namespace Trialbook.Source.Reads

section

variable (expr : Deeper)

/-! ## Parts of statements -/

/-- reads expressions with commas between them; the second part says whether any comma came -/
def expressionList (place : Place) : Reads (List Expr × Bool) := do
  let first ← expr .expression place
  moreItems (expr .expression place) place first

/-- reads words with commas between them -/
def wordList : Reads Unit := do
  let _ ← word .plain
  let _ ← repeatFrom () fun _ => do
    if ← trySymbol .lineEnd "," then
      let _ ← word .plain
      return some ()
    else return none

/-- reads expressions with commas between them, none after the last -/
def strictList (place : Place) : Reads Unit := do
  let _ ← expr .expression place
  let _ ← repeatFrom () fun _ => do
    if ← trySymbol place.after "," then
      let _ ← expr .expression place
      return some ()
    else return none

/-- whether a simple statement ends here -/
def endsHere : Reads Unit := do
  match ← peek .lineEnd with
  | .newline => return ()
  | .token there => if there.rest.head? = some ';' then return () else failure
  | _ => failure

/-! ## Assignments -/

/-- symbols that change the target on their left -/
def updateSymbols : List String :=
  ["+=", "-=", "*=", "/=", "@=", "//=", "%=", "**=", ">>=", "<<=", "&=", "^=", "|="]

/-- how an assignment goes on after its targets -/
inductive Assigning where
  | nothing
  | value
  | update
  | hintOnly

/-- reads what makes an assignment of expressions, if it comes next -/
def assigning (targets : List Expr) : Reads Assigning := do
  match ← peek .lineEnd with
  | .token there =>
    let s := symbolOf there.rest
    if !(s == "=" || s == ":" || updateSymbols.contains s) then return .nothing
    else if !Expr.areTargets targets then failure
    else
      set (there.skip s.length)
      if s = ":" then
        hint expr (← get).bound .statement true
        return if ← trySymbol .lineEnd "=" then .value else .hintOnly
      else return if s = "=" then .value else .update
  | _ => return .nothing

/-- reads the right side of an assignment, which may be another assignment -/
def rightSide : Nat → Reads Expr
  | 0 => failure
  | n + 1 => do
    if (← aheadWord .operand) = "yield" then yielded expr .statement
    else
      let (items, comma) ← expressionList expr .statement
      match ← assigning expr items with
      | .nothing =>
        match items with
        | [only] => return if comma then .compound else only
        | _ => return .compound
      | .hintOnly => return .compound
      | _ =>
        let _ ← rightSide n
        return .compound

/-- reads an expression or an assignment as a statement -/
def expressionStatement : Reads Statement := do
  if (← aheadWord .operand) = "yield" then
    let _ ← yielded expr .statement
    return .other
  else
    let (items, _) ← expressionList expr .statement
    let bound := (← get).bound
    match ← assigning expr items with
    | .nothing => return .other
    | .value => return .assignment (some (← rightSide expr bound))
    | .hintOnly => return .assignment none
    | .update =>
      let _ ← rightSide expr bound
      return .other

/-! ## Imports -/

/-- reads a name, perhaps renamed -/
def imported (e : Expected) : Reads Unit := do
  dottedName e
  if ← tryWord e "as" then
    let _ ← word .plain

/-- reads names with commas between them, a comma last allowed -/
def importList (e : Expected) : Reads Unit := do
  imported e
  let _ ← repeatFrom true fun more => do
    if !more then return none
    else if ← trySymbol e "," then
      if (← aheadWord e).isEmpty then return some false
      else
        toToken e
        imported e
        return some true
    else return none

/-- reads `from` and what it imports -/
def importFrom : Reads Unit := do
  keyword .statement "from"
  let dots ← repeatFrom 0 fun n => do
    match ← ahead .plain with
    | '.' :: _ =>
      toToken .plain
      skip 1
      return some (n + 1)
    | _ => return none
  if dots = 0 ∨ (← aheadWord .plain) ≠ "import" then dottedName .plain
  keyword .plain "import"
  if ← trySymbol .plain "*" then return ()
  else if ← trySymbol .plain "(" then
    importList .closing
    symbol .closing ")"
  else importList .lineEnd

/-! ## Simple statements -/

/-- reads the words and expressions of a `print` statement -/
def printStatement : Reads Statement := do
  keyword .statement "print"
  if ← trySymbol .operand ">>" then
    let _ ← expr .expression .statement
  else
    let _ ← expr .expression .statement
  let _ ← repeatFrom true fun more => do
    if !more then return none
    else if ← trySymbol .lineEnd "," then
      if (← toExpression Place.statement.instead Upcoming.startsExpression) then
        let _ ← expr .expression .statement
        return some true
      else return some false
    else return none
  return .other

/-- reads an `exec` statement -/
def execStatement : Reads Statement := do
  keyword .statement "exec"
  match ← peek .operand with
  | .string there =>
    set there
    let _ ← oneString expr
  | _ =>
    let _ ← word .operand
  if ← tryWord .lineEnd "in" then strictList expr .statement
  return .other

/-- reads the definition of a type -/
def typeStatement : Reads Statement := do
  keyword .statement "type"
  let bound := (← get).bound
  hint expr bound .inner false
  symbol .plain "="
  hint expr bound .statement true
  return .other

/-- reads a simple statement -/
def simpleStatement : Reads Statement := do
  let w ← aheadWord .statement
  let expressionFirst (other : Reads Statement) : Reads Statement :=
    orBack (do let s ← expressionStatement expr; endsHere; return s) other
  if w = "import" then
    let _ ← word .statement
    importList .lineEnd
    return .other
  else if w = "from" then
    importFrom
    return .other
  else if w = "assert" then
    let _ ← word .statement
    strictList expr .statement
    return .other
  else if w = "return" then
    let _ ← word .statement
    if (← toExpression Place.statement.instead Upcoming.startsExpression) then
      let _ ← expressionList expr .statement
    return .other
  else if w = "del" then
    let _ ← word .statement
    let _ ← expressionList expr .statement
    return .other
  else if w = "raise" then
    let _ ← word .statement
    if (← aheadWord .lineEnd) ≠ "from" && (← toExpression Place.statement.instead Upcoming.startsExpression) then
      let _ ← expressionList expr .statement
    if ← tryWord .lineEnd "from" then
      let _ ← expr .expression .statement
    return .other
  else if w = "pass" ∨ w = "break" ∨ w = "continue" then
    let _ ← word .statement
    return .other
  else if w = "global" ∨ w = "nonlocal" then
    let _ ← word .statement
    wordList
    return .other
  else if w = "print" then expressionFirst (printStatement expr)
  else if w = "exec" then expressionFirst (execStatement expr)
  else if w = "type" then expressionFirst (typeStatement expr)
  else expressionStatement expr

/-- reads simple statements up to the end of the line -/
def simpleLine : Reads (List Statement) := do
  let first ← simpleStatement expr
  let (statements, _) ← repeatFrom ([first], true) fun (statements, more) => do
    if !more then return none
    else if ← trySymbol .lineEnd ";" then
      match ← peek { Expected.lineEnd with string := true } with
      | .newline => return some (statements, false)
      | _ => return some ((← simpleStatement expr) :: statements, true)
    else return none
  lineEnd
  return statements.reverse

/-! ## Bodies -/

/-- reads statements up to the end of the block -/
def block (statement : Reads (List Statement)) : Reads Unit := do
  let _ ← repeatFrom true fun more => do
    if !more then return none
    else match ← peek .statement with
    | .dedent there =>
      set there
      return some false
    | _ =>
      let _ ← statement
      return some true

/-- reads the body of a compound statement -/
def bodyOf (statement : Reads (List Statement)) : Reads Unit := do
  match ← peek .body with
  | .indent there =>
    set there
    block statement
  | .newline => return ()
  | .dedent _ => failure
  | _ =>
    let _ ← simpleLine expr

/-! ## Compound statements -/

variable (body : Reads Unit)

/-- reads a colon and a body -/
def colonBody (e : Expected) : Reads Unit := do
  symbol e ":"
  body

/-- reads the `else` of a compound statement, if it has one -/
def elseBody : Reads Unit := do
  if ← tryWord .statement "else" then colonBody body .plain

def ifStatement : Reads Unit := do
  keyword .statement "if"
  let _ ← expr .expression .inner
  colonBody body .plain
  let _ ← repeatFrom () fun _ => do
    if ← tryWord .statement "elif" then
      let _ ← expr .expression .inner
      colonBody body .plain
      return some ()
    else return none
  elseBody body

def forStatement : Reads Unit := do
  keyword .statement "for"
  targetsBeforeIn expr
  let _ ← expressionList expr .inner
  colonBody body .plain
  elseBody body

def whileStatement : Reads Unit := do
  keyword .statement "while"
  let _ ← expr .expression .inner
  colonBody body .plain
  elseBody body

def withStatement : Reads Unit := do
  keyword .statement "with"
  let _ ← expressionList expr .inner
  colonBody body .plain

/-- reads an exception handler after its keyword -/
def handlerRest (needsValue : Bool) : Reads Unit := do
  if needsValue || (← toExpression .operand Upcoming.startsExpression) then
    let _ ← expr .expression .inner
    if !needsValue then
      if ← trySymbol .plain "," then
        let _ ← expr .expression .inner
  colonBody body .plain

def tryStatement : Reads Unit := do
  keyword .statement "try"
  colonBody body .plain
  let first : Expected := { Expected.plain with handler := true }
  let later : Expected := { Expected.statement with handler := true }
  match ← ahead first with
  | 'e' :: 'x' :: 'c' :: 'e' :: 'p' :: 't' :: '*' :: _ =>
    let groupAhead (e : Expected) : Reads Bool := do
      return "except*".toList.isPrefixOf (← ahead e)
    let group (e : Expected) : Reads Unit := do
      toToken e
      skip 7
      handlerRest expr body true
    group first
    let _ ← repeatFrom () fun _ => do
      if ← groupAhead later then
        group later
        return some ()
      else return none
    elseBody body
    if ← tryWord .statement "finally" then colonBody body .plain
  | _ =>
    if ← tryWord first "except" then
      handlerRest expr body false
      let _ ← repeatFrom () fun _ => do
        if ← tryWord later "except" then
          handlerRest expr body false
          return some ()
        else return none
      elseBody body
      if ← tryWord .statement "finally" then colonBody body .plain
    else
      keyword first "finally"
      colonBody body .plain

/-- reads one `case` of a `match` statement -/
def caseClause : Reads Unit := do
  keyword .statement "case"
  let one := casePattern expr (← get).bound
  one
  let _ ← repeatFrom true fun more => do
    if !more then return none
    else if ← trySymbol .plain "," then
      match ← ahead .operand with
      | ':' :: _ => return some false
      | cs =>
        if wordOf cs = "if".toList then return some false
        else
          one
          return some true
    else return none
  if ← tryWord .plain "if" then
    let _ ← expr .expression .inner
  colonBody body .plain

def matchStatement : Reads Unit := do
  keyword .statement "match"
  let _ ← expressionList expr .inner
  symbol .plain ":"
  match ← peek { Expected.plain with indent := true, newline := true } with
  | .indent there =>
    set there
    let _ ← repeatFrom true fun more => do
      if !more then return none
      else match ← peek { Expected.plain with dedent := true } with
      | .dedent there =>
        set there
        return some false
      | _ =>
        caseClause expr body
        return some true
  | .newline => return ()
  | _ => failure

def classDefinition : Reads Unit := do
  keyword .statement "class"
  let _ ← word .plain
  if ← trySymbol .plain "[" then hintList (hint expr (← get).bound .bracket true)
  if ← trySymbol .plain "(" then
    match ← arguments expr with
    | some _ => pure ()
    | none => failure
  colonBody body .plain

/-- reads a function definition, its decorators being given -/
def functionDefinition (decorators : List Decorator) : Reads Function := do
  toToken .statement
  let line := (← get).row + 1
  let isAsync ← tryWord .statement "async"
  keyword .plain "def"
  let name ← word .plain
  let bound := (← get).bound
  if ← trySymbol .plain "[" then hintList (hint expr bound .bracket true)
  symbol .plain "("
  let arity ← parameters expr (some (hint expr bound .bracket true)) .bracket ")"
  if ← trySymbol .plain "->" then hint expr bound .inner false
  colonBody body .plain
  return { name, line, arity, isAsync, decorators }

/-- reads a decorator and the end of its line -/
def decorator : Reads Decorator := do
  symbol .statement "@"
  let (expr, text) ← withText (expr .expression .statement)
  lineEnd
  return ⟨expr, text⟩

/-- reads decorators and the definition below them -/
def decorated : Reads Statement := do
  let first ← decorator expr
  let decorators ← repeatFrom [first] fun ds => do
    if symbolOf (← ahead .plain) = "@" then return some ((← decorator expr) :: ds)
    else return none
  if (← aheadWord .plain) = "class" then
    classDefinition expr body
    return .other
  else return .function (← functionDefinition expr body decorators.reverse)

/-- the word after `async`, if it begins a compound statement -/
def asyncAhead : Reads String := do
  match ← peek .statement with
  | .token there =>
    let w := wordOf there.rest
    if w = "async".toList then
      match upcoming Place.statement.after (there.skip w.length) with
      | .token next => return String.ofList (wordOf next.rest)
      | _ => return ""
    else return ""
  | _ => return ""

/-- moves to the first character of a statement, past the comments above it -/
def toStatement : Reads Unit := do
  match ← peek .statement with
  | .token there | .string there => set there
  | _ => return ()

/-- reads a statement, or a line of simple ones -/
def statement : Reads (List Statement) := do
  toStatement
  let other (p : Reads Unit) : Reads (List Statement) := do
    p
    return [.other]
  let w ← aheadWord .statement
  let after ← asyncAhead
  if symbolOf (← ahead .statement) = "@" then return [← decorated expr body]
  else if w = "def" ∨ after = "def" then return [.function (← functionDefinition expr body [])]
  else if w = "class" then other (classDefinition expr body)
  else if w = "if" then other (ifStatement expr body)
  else if w = "for" then other (forStatement expr body)
  else if w = "while" then other (whileStatement expr body)
  else if w = "with" then other (withStatement expr body)
  else if w = "try" then other (tryStatement expr body)
  else if after = "for" then other (do keyword .statement "async"; forStatement expr body)
  else if after = "with" then other (do keyword .statement "async"; withStatement expr body)
  else if w = "match" then orBack (other (matchStatement expr body)) (simpleLine expr)
  else simpleLine expr

/-- reads a body whose blocks nest at most so many levels deep -/
def bodyWithin : Nat → Reads Unit
  | 0 => failure
  | n + 1 => bodyOf expr (statement expr (bodyWithin n))

end

end Trialbook.Source.Reads
