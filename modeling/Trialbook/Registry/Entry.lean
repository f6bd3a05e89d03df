/-
ENTRIES: what runs when an experiment is launched.

The host supplies handlers. An entry is a handler with the number of arguments it takes, or a function of a declaration
file, which has the number of arguments it is written with and is run by the handler that `EntryTable.find?` gives for
its name. Running an entry says which handlers were called, with what.
-/
import Trialbook.Launch.Bundle
import Trialbook.Param.Diagnostic

namespace Trialbook

/-- code of the host, under the name it is known by -/
structure Handler where
  label : String
  run : Bundle → Except EntryFailure Unit

/-- a call of a handler -/
structure Call where
  handler : String
  bundle : Bundle
  deriving DecidableEq, Repr

/-- what came of running something: the calls made, and how it ended -/
structure Outcome (ε : Type) where
  calls : List Call
  result : Except ε Unit

/-- what an experiment is bound to -/
inductive Entry where
  | native (arity : Nat) (handler : Handler)
  | function (name : String) (arity : Nat) (handler : Option Handler)

namespace Entry

/-- number of arguments -/
def arity : Entry → Nat
  | native n _ => n
  | function _ n _ => n

def run (e : Entry) (b : Bundle) : Outcome EntryFailure :=
  match e with
  | native _ h => ⟨[⟨h.label, b⟩], h.run b⟩
  | function _ _ (some h) => ⟨[⟨h.label, b⟩], h.run b⟩
  | function name _ none => ⟨[], .error ⟨s!"no handler is bound for function '{name}'", []⟩⟩

end Entry

/-- handlers for the functions of declaration files -/
structure EntryTable where
  /-- by the name of the function -/
  bound : Table Handler
  /-- for every other function -/
  fallback : Option Handler

namespace EntryTable

/-- the handler for a function -/
def find? (t : EntryTable) (function : String) : Option Handler := (t.bound.get? function).or t.fallback

def diagnostic (t : EntryTable) : String :=
  diagnosticRecord "EntryTable"
    [("bound", diagnosticList (t.bound.entries.map fun e => Text.quoted e.1)),
     ("fallback", Json.truth t.fallback.isSome)]

end EntryTable

end Trialbook
