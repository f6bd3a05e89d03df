/-
EXTRACTION: the experiments that declaration files declare, read without running them.

A function at the top level of a file declares an experiment when it is not asynchronous and its outermost decorator
calls `experiment`. Such a function is kept when all its decorators are links, all its parameters are sound and its
name is one; otherwise it is skipped, with the first reason. Only collisions stop an extraction: a second experiment or
a repeated parameter on one function, which are found before anything is checked, and an experiment name that was seen
before.
-/
import Trialbook.Declaration.Link
import Trialbook.Param.Form
import Trialbook.Source.Module

namespace Trialbook

/-- an experiment that a file declares -/
structure Declared where
  name : String
  seed : Option Int64
  /-- name of the decorated function -/
  function : String
  line : Nat
  file : Option String
  /-- parameters as they are written, from the top -/
  params : List Spec
  deriving DecidableEq, Repr

namespace Declared

/-- all parameters, the seed among them -/
def parameters (d : Declared) : List Spec := withSeed d.seed d.params

/-- the arguments that forward every parameter -/
def runArguments (d : Declared) : String := Trialbook.runArguments d.parameters

/-- the entries of the form -/
def formFields (d : Declared) : List String := Trialbook.formFields d.parameters

def toJson (d : Declared) : Json :=
  .obj
    [("experiment", .obj <|
        [("name", .str d.name), ("seed", (d.seed.map fun s => Json.int s.toInt).getD .null),
         ("function", .str d.function), ("line", .int d.line)]
          ++ (d.file.map fun f => ("file", .str f)).toList),
     ("params", .arr (d.params.map Spec.toJson))]

end Declared

/-- why a declaration was left out -/
inductive SkipReason where
  | unresolved (e : LinkError)
  | invalidSpec (e : SpecError)
  deriving DecidableEq, Repr

def SkipReason.message : SkipReason → String
  | unresolved e => e.message
  | invalidSpec e => e.message

/-- a declaration that was left out -/
structure Skipped where
  function : String
  line : Nat
  file : Option String
  reason : SkipReason
  deriving DecidableEq, Repr

/-- why an extraction stopped -/
inductive ExtractError where
  | unreadable (origin : String)
  | multipleExperiments (function : String)
  | duplicateParam (function name : String)
  | duplicateExperiment (name : String)
  deriving DecidableEq, Repr

def ExtractError.message : ExtractError → String
  | unreadable origin => s!"failed to parse {origin}"
  | multipleExperiments function => s!"more than one experiment is defined on '{function}'"
  | duplicateParam function name =>
    s!"more than one param with the same name '{name}' is defined on '{function}'"
  | duplicateExperiment name => s!"experiment with name '{name}' already exists"

/-! ## One function -/

/-- the links of a chain sorted by what they declare -/
structure Gathered where
  experiment : Option ExperimentDraft
  params : List Draft
  deriving DecidableEq, Repr

/-- adds a link to those written above it -/
def Gathered.add (function : String) (g : Gathered) : Link → Except ExtractError Gathered
  | .experiment d =>
    if g.experiment.isSome then .error (.multipleExperiments function) else .ok { g with experiment := some d }
  | .param d =>
    if g.params.any fun p => p.name == d.name then .error (.duplicateParam function d.name)
    else .ok { g with params := g.params ++ [d] }

/-- what a function turns out to be -/
inductive Verdict where
  /-- no declaration -/
  | ignored
  | skipped (reason : SkipReason)
  | kept (experiment : ExperimentDraft) (params : List Spec)
  deriving DecidableEq, Repr

/-- the check of gathered links: parameters first, in the order they are written, then the name -/
def Gathered.verdict (g : Gathered) : Verdict :=
  match g.params.mapM Draft.spec with
  | .error e => .skipped (.invalidSpec e)
  | .ok params =>
    match g.experiment with
    | none => .ignored
    | some d =>
      match checkName d.name with
      | .error e => .skipped (.invalidSpec e)
      | .ok () => .kept d params

namespace Source.Function

/-- not asynchronous, and its outermost decorator calls `experiment` -/
def isDeclaration (f : Function) : Bool :=
  !f.isAsync && (f.decorators.head?.map Decorator.callsExperiment).getD false

/-- reads a function as a declaration -/
def verdict (f : Function) : Except ExtractError Verdict :=
  if f.isDeclaration then
    match f.decorators.mapM Decorator.link with
    | .error e => .ok (.skipped (.unresolved e))
    | .ok links => Gathered.verdict <$> links.foldlM (Gathered.add f.name) ⟨none, []⟩
  else .ok .ignored

end Source.Function

/-! ## Many functions -/

/-- what an extraction has found so far -/
structure Extraction where
  found : List Declared
  skipped : List Skipped
  /-- what stopped it -/
  error : Option ExtractError
  deriving DecidableEq, Repr

namespace Extraction

def empty : Extraction := ⟨[], [], none⟩

/-- the experiments found, unless something stopped the extraction -/
def result (x : Extraction) : Except ExtractError (List Declared) :=
  match x.error with
  | some e => .error e
  | none => .ok x.found

/-- goes on with one function of a file; after a collision nothing is read any more -/
def step (file : Option String) (x : Extraction) (f : Source.Function) : Extraction :=
  if x.error.isSome then x
  else match f.verdict with
    | .error e => { x with error := some e }
    | .ok .ignored => x
    | .ok (.skipped reason) => { x with skipped := x.skipped ++ [⟨f.name, f.line, file, reason⟩] }
    | .ok (.kept d params) =>
      if x.found.any fun e => e.name == d.name then { x with error := some (.duplicateExperiment d.name) }
      else { x with found := x.found ++ [⟨d.name, d.seed, f.name, f.line, file, params⟩] }

/-- goes on with the functions of a file -/
def addFunctions (file : Option String) (x : Extraction) (fs : List Source.Function) : Extraction :=
  fs.foldl (step file) x

/-- goes on with the text of a file -/
def addText (file : Option String) (x : Extraction) (text : String) : Extraction :=
  if x.error.isSome then x
  else match Source.Module.read? text with
    | none => { x with error := some (.unreadable (file.getD "<source>")) }
    | some m => x.addFunctions file m.functions

/-- extracts from a text that is in no file -/
def ofText (text : String) : Extraction := empty.addText none text

end Extraction

end Trialbook
