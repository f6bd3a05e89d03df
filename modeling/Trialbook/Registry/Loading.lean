/-
LOADING: filling a registry by carrying out declarations.

Functions of a declaration file are taken in order. One without decorators, or with a decorator that is no combinator,
is left alone; of any other the links are applied to it from the innermost out, a parameter being added to the chain
and an experiment registering it. The first failure stops the loading, and what is registered by then stays.
-/
import Trialbook.Files.Walk
import Trialbook.Registry.Registry

namespace Trialbook

/-- a registry being filled, and what stopped that -/
structure Loading where
  registry : Registry
  failure : Option Failure

/-! ## Links -/

/-- a function to which links are being applied: its chain, until that is registered -/
structure Application where
  target : Option Chain
  registry : Registry

namespace Application

/-- applies one link -/
def apply (function : String) (a : Application) (l : Link) : Except Failure Application :=
  match a.target, l with
  | none, _ => .error (.declaration (.aboveExperiment function))
  | some c, .param d =>
    match d.spec with
    | .error e => .error (.spec e)
    | .ok p =>
      match c.param p with
      | .error e => .error e
      | .ok c => .ok { a with target := some c }
  | some c, .experiment d =>
    match checkName d.name with
    | .error e => .error (.spec e)
    | .ok () =>
      match a.registry.register d.name d.seed c with
      | .error e => .error (.declaration e)
      | .ok r => .ok ⟨none, r⟩

/-- applies links one after the other, up to the first that fails -/
def applyAll (function : String) (a : Application) : List Link → Loading
  | [] => ⟨a.registry, none⟩
  | l :: ls =>
    match a.apply function l with
    | .error e => ⟨a.registry, some e⟩
    | .ok a => applyAll function a ls

end Application

namespace Source.Function

/-- whether a decorator of the function is no combinator -/
def isForeign (f : Function) : Bool :=
  f.decorators.any fun d =>
    match d.link with
    | .error (.foreign _) => true
    | _ => false

/-- the function as an entry -/
def entry (f : Function) (entries : EntryTable) : Entry := .function f.name f.arity (entries.find? f.name)

end Source.Function

/-! ## Sources -/

/-- an experiment that the host registers: its parameters are added in order to the bare handler -/
structure Registration where
  name : String
  seed : Option Int64
  arity : Nat
  handler : Handler
  params : List Draft

namespace Registration

/-- the chain to register -/
def chain (r : Registration) : Except Failure Chain :=
  r.params.foldlM (fun c d =>
    match d.spec with
    | .error e => .error (.spec e)
    | .ok p => c.param p) (.bare (.native r.arity r.handler))

end Registration

/-- something that registers experiments -/
inductive Declarations where
  | file (path : String) (entries : EntryTable)
  | native (name : String) (registrations : List Registration)

namespace Declarations

/-- where the experiments come from -/
def origin : Declarations → String
  | file path _ => path
  | native name _ => name

/-- the declaration files at or below a directory -/
def discover (files : Files) (root extension : String) (entries : EntryTable) : List Declarations :=
  (files.declarationFiles root extension).map fun path => file path entries

end Declarations

namespace Loading

/-- a registry that nothing has stopped yet -/
def start (r : Registry) : Loading := ⟨r, none⟩

/-- how the loading ended -/
def result (x : Loading) : Except Failure Unit :=
  match x.failure with
  | some e => .error e
  | none => .ok ()

/-- goes on with one function of a file -/
def addFunction (entries : EntryTable) (x : Loading) (f : Source.Function) : Loading :=
  if x.failure.isSome || f.decorators.isEmpty || f.isForeign then x
  else match f.decorators.mapM Source.Decorator.link with
    | .error e => { x with failure := some (.declaration (.malformed f.name e)) }
    | .ok links =>
      if f.isAsync then { x with failure := some (.declaration (.asynchronous f.name)) }
      else Application.applyAll f.name ⟨some (.bare (f.entry entries)), x.registry⟩ links.reverse

/-- goes on with the functions of a file -/
def addFunctions (entries : EntryTable) (x : Loading) (fs : List Source.Function) : Loading :=
  fs.foldl (addFunction entries) x

/-- goes on with the text of a file -/
def addText (entries : EntryTable) (origin : String) (x : Loading) (text : String) : Loading :=
  if x.failure.isSome then x
  else match Source.Module.read? text with
    | none => { x with failure := some (.extraction (.unreadable origin)) }
    | some m => x.addFunctions entries m.functions

/-- goes on with an experiment of the host -/
def addRegistration (x : Loading) (r : Registration) : Loading :=
  if x.failure.isSome then x
  else match r.chain with
    | .error e => { x with failure := some e }
    | .ok c =>
      match checkName r.name with
      | .error e => { x with failure := some (.spec e) }
      | .ok () =>
        match x.registry.register r.name r.seed c with
        | .error e => { x with failure := some (.declaration e) }
        | .ok registry => { x with registry }

/-- goes on with what registers experiments -/
def add (files : Files) (x : Loading) : Declarations → Loading
  | .file path entries =>
    if x.failure.isSome then x
    else match files.readText path with
      | .error e => { x with failure := some (.file e) }
      | .ok text => x.addText entries path text
  | .native _ registrations => registrations.foldl addRegistration x

end Loading

end Trialbook
