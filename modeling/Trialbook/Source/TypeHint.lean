/-
TYPE HINTS of parameters, results, variables and type parameters.

A type hint is an expression, a starred name, or a name with hints between square brackets; hints may be
joined by `|`, followed by members, and bounded by another one after a colon where no body can follow.
-/
import Trialbook.Source.Expression

namespace Trialbook.Source.Reads

/-- words that are operands or operators themselves and so name no type -/
def notTypeNames : List String := ["True", "False", "None", "await", "not", "lambda"]

section

variable (expr : Deeper)

/-- reads hints up to the closing square bracket -/
def hintList (one : Reads Unit) : Reads Unit := do
  one
  let _ ← repeatFrom true fun more => do
    if !more then return none
    else if ← trySymbol .closing "]" then return some false
    else
      symbol .closing ","
      if ← tryClosing .element "]" then return some false
      else
        one
        return some true

/-- reads what goes on with a hint that is no expression -/
def hintRest (next : Reads Unit) (place : Place) : Reads Unit := do
  let _ ← repeatFrom () fun _ => do
    if ← trySymbol place.after "|" then
      next
      return some ()
    else if ← trySymbol place.after "." then
      let _ ← word .plain
      return some ()
    else return none

/-- reads a hint nested at most so many levels deep; `bounded` says whether a bound may follow -/
def hint : Nat → Place → Bool → Reads Unit
  | 0, _, _ => failure
  | n + 1, place, bounded => do
    let next := hint n place false
    match ← ahead .operand with
    | '*' :: '*' :: _ =>
      symbol .operand "**"
      let _ ← word .plain
      hintRest next place
    | '*' :: _ =>
      let _ ← expr .primary place
      hintRest next place
    | cs =>
      let w := String.ofList (wordOf cs)
      if w.isEmpty || notTypeNames.contains w then
        let _ ← expr .expression place
      else
        let here ← get
        let _ ← word .operand
        if ← trySymbol place.after "[" then
          hintList (hint n .bracket true)
          hintRest next place
        else
          set here
          let _ ← expr .expression place
    if bounded then
      if ← trySymbol place.after ":" then hint n place true

end

end Trialbook.Source.Reads
