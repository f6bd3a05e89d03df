/-
DIAGNOSTIC TEXTS of specs: every field by name, values with their kinds.
-/
import Trialbook.Param.Spec

namespace Trialbook

/-- a kind by its long name -/
def Kind.diagnostic : Kind → String
  | str => "String"
  | int => "Integer"
  | float => "Float"
  | bool => "Boolean"

/-- a thing that may be absent -/
def diagnosticOption : Option String → String
  | none => "None"
  | some s => "Some(" ++ s ++ ")"

/-- items between square brackets -/
def diagnosticList (items : List String) : String := "[" ++ String.intercalate ", " items ++ "]"

/-- a record: its title, and its fields between braces -/
def diagnosticRecord (title : String) (fields : List (String × String)) : String :=
  title ++ " \x7b " ++ String.intercalate ", " (fields.map fun f => f.1 ++ ": " ++ f.2) ++ " \x7d"

def Spec.diagnostic (p : Spec) : String :=
  diagnosticRecord "ParamSpec"
    [("name", Text.quoted p.name), ("param_type", p.kind.diagnostic),
     ("default", diagnosticOption (p.default.map Value.diagnostic)), ("required", Json.truth p.required),
     ("description", diagnosticOption (p.description.map Text.quoted)),
     ("options", diagnosticList (p.options.map Value.diagnostic))]

end Trialbook
