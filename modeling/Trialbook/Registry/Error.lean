/-
DECLARATION ERRORS: why an experiment cannot be registered.
-/
import Trialbook.Declaration.Link

namespace Trialbook

/-- why a declaration that is carried out fails -/
inductive DeclarationError where
  | badArity (c : Combinator) (arity : Nat)
  | asynchronous (function : String)
  | aboveExperiment (function : String)
  | malformed (function : String) (e : LinkError)
  | duplicateExperiment (name : String)
  deriving DecidableEq, Repr

def DeclarationError.message : DeclarationError → String
  | badArity c arity =>
    s!"'{c.word}' can only be applied to a function that accepts exactly one argument (got {arity})"
  | asynchronous function => s!"invalid declaration of '{function}': async functions cannot be experiments"
  | aboveExperiment function =>
    s!"invalid declaration of '{function}': annotation applied on top of a registered experiment"
  | malformed function e => s!"invalid declaration of '{function}': {e.message}"
  | duplicateExperiment name => s!"experiment with name '{name}' already exists"

end Trialbook
