/-
WORKFLOW FORMS: an experiment's parameters as a form that a build platform shows, and the command that the filled-in
form runs.

`Spec.field` is one entry of the form: a name line, then indented lines for the description, whether it is required,
its default, and its choices. Texts are double-quoted scalars in which every line break, control character and
byte-order mark is written as an escape, so an entry has no line but its own. Floats are written as in diagnoses, but
cut at the exponent and completed on both sides of the cut (`Form.completed`), since readers of forms take a number
without a point, or an exponent without a sign, for a text. `Spec.token` forwards one input of the filled-in form.
-/
import Trialbook.Param.Spec
import Trialbook.Text.Hex

namespace Trialbook

namespace Form

/-! ## Scalars -/

/-- characters that stand for themselves in a double-quoted scalar, quote and backslash apart -/
def isPlain (c : Char) : Bool :=
  let n := c.toNat
  (0x20 ≤ n && n ≤ 0x7E) || (0xA0 ≤ n && n ≤ 0x2027) || (0x202A ≤ n && n ≤ 0xD7FF) || (0xE000 ≤ n && n ≤ 0xFEFE) ||
    (0xFF00 ≤ n && n ≤ 0xFFFD) || 0x10000 ≤ n

/-- one character inside a double-quoted scalar -/
def scalarChar (c : Char) : List Char :=
  if c = '"' then ['\\', '"']
  else if c = '\\' then ['\\', '\\']
  else if c = '\n' then ['\\', 'n']
  else if c = '\t' then ['\\', 't']
  else if c = '\r' then ['\\', 'r']
  else if isPlain c then [c]
  else if c.toNat ≤ 0xFF then '\\' :: 'x' :: Text.hexDigits 2 c.toNat
  else if c.toNat ≤ 0xFFFF then '\\' :: 'u' :: Text.hexDigits 4 c.toNat
  else '\\' :: 'U' :: Text.hexDigits 8 c.toNat

/-- the inside of a double-quoted scalar -/
def scalarBody (cs : List Char) : List Char := cs.flatMap scalarChar

/-- a double-quoted scalar -/
def quote (s : String) : String := String.ofList ('"' :: scalarBody s.toList ++ ['"'])

/-- what stands before an exponent, with a point -/
def pointed (mantissa : List Char) : List Char :=
  mantissa ++ if mantissa.contains '.' then [] else ['.', '0']

/-- an exponent with a sign -/
def signed (exponent : List Char) : List Char :=
  (if exponent.head? = some '-' then [] else ['+']) ++ exponent

/-- a number cut at the first `e`, with a point before the cut and a sign after it; as it is if there is no `e` -/
def completed (cs : List Char) : List Char :=
  match cs.dropWhile (· != 'e') with
  | mark :: exponent => pointed (cs.takeWhile (· != 'e')) ++ mark :: signed exponent
  | [] => cs

/-- a floating-point number as a scalar -/
def float (x : Binary64) : String :=
  if x.isNaN then ".nan"
  else if !x.isFinite then (if x.negative then "-.inf" else ".inf")
  else String.ofList (completed (FloatLayout.diagnostic.write x).toList)

/-- a value as a scalar -/
def scalar : Value → String
  | .str s => quote s
  | .int i => Integer.text i.toInt
  | .float x => float x
  | .bool b => Json.truth b

/-! ## Entries -/

/-- before every line of an entry but the first -/
def indent : String := "        "

/-- before the name of an input in the command -/
def inputPrefix : String := "hf_action_"

end Form

open Form

namespace Spec

/-- forwards the input of this parameter, as the platform substitutes it -/
def token (p : Spec) : String :=
  inputPrefix ++ p.name ++ "=\"$\x7b\x7b github.event.inputs." ++ p.name ++ " \x7d\x7d\""

/-- the lines of the entry of this parameter -/
def fieldLines (p : Spec) : List String :=
  [p.name ++ ":"]
    ++ (match p.description with
      | some s => if s.isEmpty then [] else [indent ++ "description: " ++ quote s]
      | none => [])
    ++ [indent ++ "required: " ++ Json.truth p.required]
    ++ (match p.default with
      | some v => [indent ++ "default: " ++ scalar v]
      | none => [])
    ++ (if p.options.isEmpty then
        (if p.kind = .bool then [indent ++ "type: boolean"] else [])
      else
        [indent ++ "options: [" ++ String.intercalate ", " (p.options.map scalar) ++ "]", indent ++ "type: choice"])

/-- the entry of this parameter in the form -/
def field (p : Spec) : String := String.intercalate "\n" p.fieldLines

end Spec

/-- the arguments of the command that the filled-in form runs -/
def runArguments (params : List Spec) : String := String.intercalate " " (params.map Spec.token)

/-- the entries of the form -/
def formFields (params : List Spec) : List String := params.map Spec.field

end Trialbook
