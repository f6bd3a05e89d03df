/-
CASE PATTERNS: what a `case` of a `match` statement compares its subject with.
-/
import Trialbook.Source.Expression

namespace Trialbook.Source.Reads

section

variable (expr : Deeper)

/-- reads readings of `one` with commas between them, a comma last allowed, and the closing symbol -/
def separated (one : Reads Unit) (closing : String) : Reads Unit := do
  if ← tryClosing .element closing then return ()
  else
    one
    let _ ← repeatFrom true fun more => do
      if !more then return none
      else if ← trySymbol .closing closing then return some false
      else
        symbol .closing ","
        if ← tryClosing .element closing then return some false
        else
          one
          return some true

/-- reads a number, or the sum or difference of two -/
def patternNumber : Reads Unit := do
  let signed : Reads Unit := do
    let _ ← trySymbol .operand "-"
    toToken .operand
    let _ ← number
  signed
  if (← trySymbol .closing "+") || (← trySymbol .closing "-") then
    toToken .operand
    let _ ← number

/-- reads a word with words after points -/
def dottedName (e : Expected) : Reads Unit := do
  let _ ← word .plain
  let _ ← repeatFrom () fun _ => do
    if ← trySymbol e "." then
      let _ ← word .plain
      return some ()
    else return none

/-- reads a pattern that is no alternative; `whole` reads any pattern inside it -/
def closedPattern (simple whole : Reads Unit) : Reads Unit := do
  match ← peek .operand with
  | .string there =>
    set there
    let _ ← stringsAt expr .inner
  | .token there =>
    match there.rest with
    | '[' :: _ =>
      symbol .operand "["
      separated whole "]"
    | '(' :: _ =>
      symbol .operand "("
      separated whole ")"
    | '\x7b' :: _ =>
      symbol .operand "\x7b"
      let entry : Reads Unit := do
        match ← ahead .element with
        | '*' :: _ => simple
        | _ =>
          simple
          symbol .closing ":"
          whole
      separated entry "\x7d"
    | '*' :: '*' :: _ =>
      symbol .operand "**"
      let _ ← word .plain
    | '*' :: _ =>
      symbol .operand "*"
      let _ ← word .plain
    | c :: _ =>
      if c = '-' ∨ c = '.' ∨ isDecimal c then patternNumber
      else
        dottedName .closing
        if ← trySymbol .closing "(" then separated whole ")"
    | [] => failure
  | _ => failure

/-- reads a pattern nested at most so many levels deep -/
def casePattern : Nat → Reads Unit
  | 0 => failure
  | n + 1 => do
    let simple : Reads Unit := do
      closedPattern expr (closedPattern expr (casePattern n) (casePattern n)) (casePattern n)
      let _ ← repeatFrom () fun _ => do
        if ← trySymbol .closing "|" then
          closedPattern expr (casePattern n) (casePattern n)
          return some ()
        else return none
    simple
    if ← trySymbol .closing "=" then simple
    if ← tryWord .closing "as" then
      let _ ← word .plain

end

end Trialbook.Source.Reads
