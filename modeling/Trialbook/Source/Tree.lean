/-
TREES: expressions, statements and function definitions of a declaration file, as far as declarations need them.

An expression that can be a literal, a name, a call or the target of an assignment keeps its parts; every other one is
`compound`. Comments and blanks are gone; the arguments of calls and the decorators of functions keep their text.
-/
namespace Trialbook.Source

/-- one argument of a call, its values in `ε` -/
inductive Argument (ε : Type) where
  /-- a value, and its text -/
  | positional (value : ε) (text : String)
  | keyword (name : String) (value : ε)
  /-- a value spread over several arguments -/
  | spread

/-- an expression -/
inductive Expr where
  | name (word : String)
  /-- a string with its prefix and quotes -/
  | string (token : String)
  /-- strings written one after the other -/
  | strings (tokens : List String)
  | integer (token : String)
  | float (token : String)
  | truth (b : Bool)
  | absent
  /-- a sign or a complement before an operand -/
  | unary (operator : Char) (operand : Expr)
  | grouped (inner : Expr)
  | list (items : List Expr)
  | tuple (items : List Expr)
  /-- a call; no arguments stand for a generator in their place -/
  | call (callee : Expr) (arguments : Option (List (Argument Expr)))
  | member (object : Expr)
  | item (object : Expr)
  | starred (target : Expr)
  | compound

namespace Expr

/-- ends in a name, a member or an item -/
def isPlace : Expr → Bool
  | name _ | member _ | item _ => true
  | _ => false

mutual

/-- may stand on the left of an assignment -/
def isTarget : Expr → Bool
  | name _ | member _ | item _ => true
  | starred e => e.isPlace
  | grouped e => isTarget e
  | list es => areTargets es
  | tuple es => areTargets es
  | _ => false

def areTargets : List Expr → Bool
  | [] => true
  | e :: es => isTarget e && areTargets es

end

/-- a star before it takes a name, a member or an item, and then calls may follow -/
def canBeStarred : Expr → Bool
  | name _ | member _ | item _ => true
  | call callee _ => callee.canBeStarred
  | _ => false

end Expr

/-- a decorator: its expression and the text of it -/
structure Decorator where
  expr : Expr
  text : String

/-- a function definition with the decorators above it, outermost first -/
structure Function where
  name : String
  /-- line of the definition, the first line being one -/
  line : Nat
  /-- number of parameters, separators not counted -/
  arity : Nat
  isAsync : Bool
  decorators : List Decorator

/-- a statement, as far as declarations need it -/
inductive Statement where
  /-- an assignment, and what is assigned if something is -/
  | assignment (right : Option Expr)
  | function (f : Function)
  | other

/-- a file -/
abbrev Module := List Statement

end Trialbook.Source
