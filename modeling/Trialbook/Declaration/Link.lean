/-
LINKS: decorators read as declarations.

A decorator is a link when it calls one of the two combinators by its bare name: `experiment`, which names an
experiment and may give a seed, and `param`, which declares a parameter. Its arguments must be literals; the name comes
first or by keyword, everything else by keyword; an argument that is nothing counts as not given. `Decorator.link`
reads one, and says of one that it cannot read whether it is foreign or malformed, and why.
-/
import Trialbook.Declaration.Literal
import Trialbook.Param.Spec

namespace Trialbook

/-- the calls that declare something -/
inductive Combinator where
  | experiment
  | param
  deriving DecidableEq, Repr

namespace Combinator

def word : Combinator → String
  | experiment => "experiment"
  | param => "param"

/-- the combinator of a name -/
def ofWord? (w : String) : Option Combinator :=
  if w = "experiment" then some experiment else if w = "param" then some param else none

/-- keywords that a combinator takes -/
def keywords : Combinator → List String
  | experiment => ["name", "seed"]
  | param => ["name", "default", "description", "required", "type", "options"]

end Combinator

/-- an experiment as a decorator states it -/
structure ExperimentDraft where
  name : String
  seed : Option Int64
  deriving DecidableEq, Repr

/-- one decorator of a declaration -/
inductive Link where
  | experiment (draft : ExperimentDraft)
  | param (draft : Draft)
  deriving DecidableEq, Repr

/-- what is wrong with the arguments of a combinator -/
inductive LinkFault where
  | generator (c : Combinator)
  | repeatedKeyword (key : String)
  | opaqueKeyword (key : String)
  | spread
  | positionalAfterKeyword
  | opaqueArgument (text : String)
  | tooManyPositional (c : Combinator) (count : Nat)
  | unexpectedKeyword (c : Combinator) (key : String)
  | nameTwice (c : Combinator)
  | nameMissing (c : Combinator)
  | wrongKind (key expected found : String)
  deriving DecidableEq, Repr

/-- why a decorator is no link -/
inductive LinkError where
  /-- it does not call a combinator -/
  | foreign (text : String)
  | malformed (fault : LinkFault)
  deriving DecidableEq, Repr

/-- a text between backticks -/
def ticked (s : String) : String := "\x60" ++ s ++ "\x60"

def LinkFault.message : LinkFault → String
  | generator c => s!"{ticked c.word} takes plain arguments"
  | repeatedKeyword key => s!"keyword {ticked key} given more than once"
  | opaqueKeyword key => s!"value of {ticked key} is not a literal"
  | spread => "argument unpacking is not allowed"
  | positionalAfterKeyword => "positional argument follows keyword argument"
  | opaqueArgument text => s!"argument {ticked text} is not a literal"
  | tooManyPositional c count => s!"{ticked c.word} takes one positional argument, got {count}"
  | unexpectedKeyword c key => s!"{ticked c.word} got an unexpected keyword {ticked key}"
  | nameTwice c => s!"{ticked c.word} got multiple values for " ++ ticked "name"
  | nameMissing c => s!"{ticked c.word} is missing a name"
  | wrongKind key expected found => s!"{ticked key} must be {expected}, got {found}"

def LinkError.message : LinkError → String
  | foreign text => s!"unrecognized decorator {ticked text}"
  | malformed fault => fault.message

/-! ## Arguments -/

/-- the arguments of a call, evaluated -/
structure Given where
  positional : List Literal
  keywords : List (String × Literal)
  deriving DecidableEq, Repr

namespace Given

/-- adds one argument to those before it -/
def add (g : Given) : Source.Argument Source.Expr → Except LinkFault Given
  | .keyword key value =>
    if g.keywords.any fun kv => kv.1 == key then .error (.repeatedKeyword key)
    else match value.literal? with
      | some l => .ok { g with keywords := g.keywords ++ [(key, l)] }
      | none => .error (.opaqueKeyword key)
  | .spread => .error .spread
  | .positional value text =>
    if !g.keywords.isEmpty then .error .positionalAfterKeyword
    else match value.literal? with
      | some l => .ok { g with positional := g.positional ++ [l] }
      | none => .error (.opaqueArgument text)

/-- the arguments of a call to a combinator -/
def read (c : Combinator) (args : List (Source.Argument Source.Expr)) : Except LinkFault Given := do
  let g ← args.foldlM add ⟨[], []⟩
  if 1 < g.positional.length then throw (.tooManyPositional c g.positional.length)
  match g.keywords.find? fun kv => !c.keywords.contains kv.1 with
  | some (key, _) => throw (.unexpectedKeyword c key)
  | none => return g

/-- the value of a keyword, if it is given and is something -/
def value? (g : Given) (key : String) : Option Literal :=
  match g.keywords.lookup key with
  | some (.scalar .absent) => none
  | l => l

/-- refuses a literal of the wrong kind -/
def wrong {α : Type} (key expected : String) (l : Literal) : Except LinkFault α :=
  .error (.wrongKind key expected l.description)

/-- the name, which is given exactly once -/
def name (c : Combinator) (g : Given) : Except LinkFault String := do
  let l ← match g.positional, g.keywords.lookup "name" with
    | _ :: _, some _ => throw (.nameTwice c)
    | l :: _, none => pure l
    | [], some l => pure l
    | [], none => throw (.nameMissing c)
  match l with
  | .scalar (.value (.str s)) => return s
  | l => wrong "name" "a str" l

/-! ## Keywords -/

def seed (g : Given) : Except LinkFault (Option Int64) :=
  match g.value? "seed" with
  | none => .ok none
  | some (.scalar (.value (.int i))) => .ok (some i)
  | some l => wrong "seed" "an int" l

def default (g : Given) : Except LinkFault (Option Value) :=
  match g.value? "default" with
  | none => .ok none
  | some (.scalar (.value v)) => .ok (some v)
  | some l => wrong "default" "a str, int, float or bool" l

def description (g : Given) : Except LinkFault (Option String) :=
  match g.value? "description" with
  | none => .ok none
  | some (.scalar (.value (.str s))) => .ok (some s)
  | some l => wrong "description" "a str" l

def required (g : Given) : Except LinkFault Bool :=
  match g.value? "required" with
  | none => .ok false
  | some (.scalar (.value (.bool b))) => .ok b
  | some l => wrong "required" "a bool" l

def kind (g : Given) : Except LinkFault (Option Kind) :=
  match g.value? "type" with
  | none => .ok none
  | some (.kind k) => .ok (some k)
  | some l => wrong "type" "one of str, int, float, bool" l

/-- an item of an option list -/
def option (s : Scalar) : Except LinkFault Value :=
  match s with
  | .value v => .ok v
  | .absent => wrong "options" "a sequence of scalars" (.scalar s)

def options (g : Given) : Except LinkFault (Option (List Value)) :=
  match g.value? "options" with
  | none => .ok none
  | some (.sequence items) => do return some (← items.mapM option)
  | some l => wrong "options" "a list or tuple" l

/-! ## Links -/

def experimentDraft (g : Given) : Except LinkFault ExperimentDraft := do
  let name ← g.name .experiment
  let seed ← g.seed
  return { name, seed }

def draft (g : Given) : Except LinkFault Draft := do
  let name ← g.name .param
  let default ← g.default
  let description ← g.description
  let required ← g.required
  let kind ← g.kind
  let options ← g.options
  return { name, kind, default, description, required, options }

/-- the link that a combinator makes of its arguments -/
def link (c : Combinator) (g : Given) : Except LinkFault Link :=
  match c with
  | .experiment => Link.experiment <$> g.experimentDraft
  | .param => Link.param <$> g.draft

end Given

namespace Source

/-- the combinator that an expression calls, and its arguments -/
def Expr.combinatorCall? : Expr → Option (Combinator × Option (List (Argument Expr)))
  | .call (.name w) args => (Combinator.ofWord? w).map fun c => (c, args)
  | _ => none

namespace Decorator

/-- whether a decorator calls `experiment` -/
def callsExperiment (d : Decorator) : Bool :=
  match d.expr.combinatorCall? with
  | some (.experiment, _) => true
  | _ => false

/-- reads a decorator -/
def link (d : Decorator) : Except LinkError Link :=
  match d.expr.combinatorCall? with
  | none => .error (.foreign d.text)
  | some (c, none) => .error (.malformed (.generator c))
  | some (c, some args) =>
    match Given.read c args >>= Given.link c with
    | .ok l => .ok l
    | .error fault => .error (.malformed fault)

end Decorator

end Source

end Trialbook
