/-
ARGUMENTS: the values that a request gives to an experiment's parameters.

An argument counts when it holds exactly one equals sign; of two with one key the later counts. `forwarded` takes the
prefix of forwarded inputs off the keys that have it and drops the others. `resolve` goes through the parameters in
order: one whose forwarded input is given takes that text, else its default; a required parameter without either is
missing, any other is left out.
-/
import Trialbook.Launch.Error
import Trialbook.Param.Form
import Trialbook.Table

namespace Trialbook.Arguments

/-- the key and the value of an argument -/
def split? (argument : String) : Option (String × String) :=
  let key := argument.toList.takeWhile (· != '=')
  match argument.toList.drop key.length with
  | _ :: value => if value.contains '=' then none else some (String.ofList key, String.ofList value)
  | [] => none

/-- the raw texts that arguments give, by key -/
def read (arguments : List String) : Table String := Table.ofList (arguments.filterMap split?)

/-- the name of the input that a key forwards -/
def inputName? (key : String) : Option String :=
  (Form.inputPrefix.toList.isPrefixOf? key.toList).map String.ofList

/-- the texts forwarded to inputs, by the name of the input -/
def forwarded (raw : List (String × String)) : Table String :=
  Table.ofList (raw.filterMap fun e => (inputName? e.1).map (·, e.2))

/-- the value of one parameter, given the raw text for it -/
def value? (p : Spec) : Option String → Except DispatchError (Option Value)
  | some text =>
    match p.accept text with
    | .ok v => .ok (some v)
    | .error fault => .error (.invalidValue p.name fault)
  | none =>
    match p.default with
    | some v => .ok (some v)
    | none => if p.required then .error (.missingRequired p.name) else .ok none

/-- goes on with one parameter -/
def step (inputs : Table String) (values : Table Value) (p : Spec) : Except DispatchError (Table Value) := do
  match ← value? p (inputs.get? p.name) with
  | some v => return values.insert p.name v
  | none => return values

/-- the values of parameters, given raw texts by key, the keys met in any order -/
def resolveFrom (params : List Spec) (raw : List (String × String)) : Except DispatchError (Table Value) :=
  params.foldlM (step (forwarded raw)) .empty

/-- the values of parameters, given raw texts by key -/
def resolve (params : List Spec) (raw : Table String) : Except DispatchError (Table Value) :=
  resolveFrom params raw.entries

end Trialbook.Arguments
