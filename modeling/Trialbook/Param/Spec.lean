/-
PARAMETER SPECS: what an experiment takes as input.

A `Draft` is what a declaration states; `Draft.spec` checks it and makes a `Spec` of it: the kind is the declared one,
else the kind of the default, else text; the default and the options are converted to it; options without a default
make the first of them the default; and a default must be among the options. `Spec.accept` reads a raw text given for a
parameter, and `withSeed` adds the parameter that every experiment has.
-/
import Trialbook.Param.Name
import Trialbook.Param.Value

namespace Trialbook

/-- why a declared parameter or name is refused -/
inductive SpecError where
  | nameLength (name : String)
  | nameLetters (name : String)
  | unsupportedKind (word : String)
  | conversion (name : String) (value : Value) (target : Kind)
  | defaultNotInOptions (name : String) (default : Value) (options : List Value)
  | duplicateParam (name : String)
  deriving DecidableEq, Repr

/-- values as they are shown, with commas between them -/
def shownList (values : List Value) : String :=
  String.intercalate ", " (values.map Value.shown)

def SpecError.message : SpecError → String
  | nameLength name => s!"name '{name}' must be between 1 and 20 characters long"
  | nameLetters name => s!"name '{name}' must match ^[A-Za-z_][A-Za-z0-9_]*$"
  | unsupportedKind word => s!"parameter type '{word}' is not supported, expected one of str, int, float, bool"
  | conversion name value target =>
    s!"value {value.diagnostic} of '{name}' cannot be converted to {target.word}"
  | defaultNotInOptions name default options =>
    s!"default {default.shown} of '{name}' is not one of the options [{shownList options}]"
  | duplicateParam name => s!"parameter '{name}' is defined more than once with different settings"

/-- refuses what is no name -/
def checkName (name : String) : Except SpecError Unit :=
  match Name.fault? name with
  | none => .ok ()
  | some .length => .error (.nameLength name)
  | some .letters => .error (.nameLetters name)

/-- the kind that a word names, for a declaration that must name one -/
def Kind.ofWord (word : String) : Except SpecError Kind :=
  match Kind.ofWord? word with
  | some k => .ok k
  | none => .error (.unsupportedKind word)

/-- a parameter as a declaration states it -/
structure Draft where
  name : String
  kind : Option Kind
  default : Option Value
  description : Option String
  required : Bool
  options : Option (List Value)
  deriving DecidableEq, Repr

/-- a parameter that has been checked -/
structure Spec where
  name : String
  kind : Kind
  default : Option Value
  required : Bool
  description : Option String
  options : List Value
  deriving DecidableEq, Repr

/-! ## Checking a draft -/

/-- converts a stated value to the kind of its parameter -/
def convertFor (name : String) (target : Kind) (v : Value) : Except SpecError Value :=
  match v.convert? target with
  | some w => .ok w
  | none => .error (.conversion name v target)

namespace Draft

/-- the kind of the parameter: declared, else that of the default, else text -/
def resolvedKind (d : Draft) : Kind :=
  (d.kind.or (d.default.map Value.kind)).getD .str

/-- the default of the checked parameter, given the converted default and options -/
def chooseDefault (name : String) (default : Option Value) (options : List Value) :
    Except SpecError (Option Value) :=
  match options, default with
  | [], default => .ok default
  | first :: _, none => .ok (some first)
  | options, some v => if v.isIn options then .ok (some v) else .error (.defaultNotInOptions name v options)

/-- checks a draft -/
def spec (d : Draft) : Except SpecError Spec := do
  checkName d.name
  let kind := d.resolvedKind
  let stated ← d.default.mapM (convertFor d.name kind)
  let options ← (d.options.getD []).mapM (convertFor d.name kind)
  let default ← chooseDefault d.name stated options
  return { name := d.name, kind, default, required := d.required, description := d.description, options }

end Draft

/-! ## Taking raw texts -/

/-- why a raw text is no value of a parameter -/
inductive InputFault where
  | notOfKind (raw : String) (kind : Kind)
  | notAnOption (raw : String) (options : List Value)
  deriving DecidableEq, Repr

def InputFault.reason : InputFault → String
  | notOfKind raw kind => s!"{Text.quoted raw} cannot be converted to {kind.word}"
  | notAnOption raw options => s!"{Text.quoted raw} is not one of [{shownList options}]"

namespace Spec

/-- the value of the parameter that a raw text stands for -/
def accept (p : Spec) (raw : String) : Except InputFault Value :=
  match p.kind.read? raw with
  | none => .error (.notOfKind raw p.kind)
  | some v =>
    if p.options.isEmpty || v.isIn p.options then .ok v else .error (.notAnOption raw p.options)

/-- a spec that states all it has -/
def toDraft (p : Spec) : Draft :=
  { name := p.name, kind := some p.kind, default := p.default, description := p.description, required := p.required,
    options := some p.options }

/-! ## Equality and texts -/

/-- equality of specs, the values in them compared as values -/
def same (p q : Spec) : Bool :=
  p.name == q.name && p.kind == q.kind && p.required == q.required && p.description == q.description &&
    (match p.default, q.default with
      | none, none => true
      | some v, some w => v.same w
      | _, _ => false) &&
    p.options.length == q.options.length && (p.options.zip q.options).all fun vw => vw.1.same vw.2

def toJson (p : Spec) : Json :=
  .obj <|
    [("name", .str p.name), ("type", .str p.kind.word)]
      ++ (p.default.map fun v => ("default", v.toJson)).toList
      ++ [("required", .bool p.required)]
      ++ (p.description.map fun s => ("description", .str s)).toList
      ++ (if p.options.isEmpty then [] else [("options", .arr (p.options.map Value.toJson))])

end Spec

/-! ## The seed -/

/-- the parameter that every experiment has -/
def seedName : String := "seed"

/-- the seed of an experiment that declares none -/
def defaultSeed : Int64 := 42

/-- the seed parameter: required unless the declaration gives a seed -/
def Spec.seed (declared : Option Int64) : Spec :=
  { name := seedName, kind := .int, default := some (.int (declared.getD defaultSeed)), required := declared.isNone,
    description := none, options := [] }

/-- puts the seed parameter first, unless one of that name is declared -/
def withSeed (seed : Option Int64) (declared : List Spec) : List Spec :=
  if declared.any fun p => p.name == seedName then declared else Spec.seed seed :: declared

end Trialbook
