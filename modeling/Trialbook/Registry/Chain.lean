/-
CHAINS: an entry with the parameters declared on it so far.

Parameters are added from the innermost out, so each is put before those that are there. A parameter may be declared
again with the same settings, which changes nothing, but not with others. An entry must take exactly one argument.
-/
import Trialbook.Failure
import Trialbook.Registry.Entry

namespace Trialbook

/-- an entry under declaration -/
inductive Chain where
  | bare (entry : Entry)
  | params (entry : Entry) (params : List Spec)

/-- refuses an entry that does not take exactly one argument -/
def Entry.checkArity (c : Combinator) (e : Entry) : Except DeclarationError Unit :=
  if e.arity = 1 then .ok () else .error (.badArity c e.arity)

namespace Chain

def entry : Chain → Entry
  | bare e => e
  | params e _ => e

/-- the parameters declared so far, the last one first -/
def declared : Chain → List Spec
  | bare _ => []
  | params _ ps => ps

/-- adds a parameter to those declared before it -/
def addSpec (ps : List Spec) (p : Spec) : Except SpecError (List Spec) :=
  match ps.find? fun q => q.name == p.name with
  | none => .ok (p :: ps)
  | some q => if q.same p then .ok ps else .error (.duplicateParam p.name)

/-- declares a parameter -/
def param (p : Spec) : Chain → Except Failure Chain
  | bare e =>
    match e.checkArity .param with
    | .ok () => .ok (params e [p])
    | .error err => .error (.declaration err)
  | params e ps =>
    match addSpec ps p with
    | .ok ps => .ok (params e ps)
    | .error err => .error (.spec err)

def diagnostic : Chain → String
  | bare _ => "Bare"
  | params _ ps => "Params(" ++ diagnosticList (ps.map Spec.diagnostic) ++ ")"

end Chain

end Trialbook
