/-
VALUES: the kinds of value a parameter may take, the values themselves, and conversion between kinds.

A text becomes a value of another kind by that kind's reader (`Kind.read?`); any value becomes a text by being shown;
numbers and truth values convert into each other where the meaning is exact, and a float becomes an integer only when
it is a whole number of magnitude below `2 ^ 63`. `Value.same` is equality of values as a reader of them sees it:
kinds must agree, the two float zeros are the same, and what is no number is the same as nothing.
-/
import Trialbook.Json

namespace Trialbook

/-- the kinds of parameter -/
inductive Kind where
  | str
  | int
  | float
  | bool
  deriving DecidableEq, Repr

/-- a value of one of the kinds -/
inductive Value where
  | str (s : String)
  | int (i : Int64)
  | float (x : Binary64)
  | bool (b : Bool)
  deriving DecidableEq, Repr

/-! ## Kinds -/

namespace Kind

/-- the word for a kind in a declaration -/
def word : Kind → String
  | str => "str"
  | int => "int"
  | float => "float"
  | bool => "bool"

/-- the kind that a word names -/
def ofWord? (s : String) : Option Kind :=
  if s = "str" then some str
  else if s = "int" then some int
  else if s = "float" then some float
  else if s = "bool" then some bool
  else none

/-- reads a raw text as a value of the kind: a text as it is, a truth value from `true` and `false` only -/
def read? (k : Kind) (raw : String) : Option Value :=
  match k with
  | str => some (.str raw)
  | int => (Integer.readInt64? raw.toList).map .int
  | float => (FloatText.read? raw.toList).map .float
  | bool => if raw = "true" then some (.bool true) else if raw = "false" then some (.bool false) else none

end Kind

/-! ## Values -/

namespace Value

def kind : Value → Kind
  | str _ => .str
  | int _ => .int
  | float _ => .float
  | bool _ => .bool

/-- a value as it is shown in messages and in option lists -/
def shown : Value → String
  | str s => s
  | int i => Integer.text i.toInt
  | float x => FloatLayout.plain.write x
  | bool b => Json.truth b

/-- a value with its kind, for diagnosis -/
def diagnostic : Value → String
  | str s => "Str(" ++ Text.quoted s ++ ")"
  | int i => "Int(" ++ Integer.text i.toInt ++ ")"
  | float x => "Float(" ++ FloatLayout.diagnostic.write x ++ ")"
  | bool b => "Bool(" ++ Json.truth b ++ ")"

def toJson : Value → Json
  | str s => .str s
  | int i => .int i.toInt
  | float x => .float x
  | bool b => .bool b

/-- equality of values as values -/
def same : Value → Value → Bool
  | str s, str t => s == t
  | int i, int j => i == j
  | float x, float y => x.equal y
  | bool b, bool c => b == c
  | _, _ => false

/-- whether a list of values has one that is the same as `v` -/
def isIn (v : Value) (vs : List Value) : Bool := vs.any v.same

/-- the integer a float denotes, of magnitude below `2 ^ 63` -/
def floatToInt? (x : Binary64) : Option Int64 :=
  x.whole?.bind fun n => if n.natAbs < Nat.pow 2 63 then some (Int64.ofInt n) else none

/-- the value of kind `target` that this value becomes -/
def convert? (v : Value) (target : Kind) : Option Value :=
  match v, target with
  | str s, k => k.read? s
  | v, .str => some (str v.shown)
  | int i, .int => some (int i)
  | bool b, .int => some (int (if b then 1 else 0))
  | float x, .int => (floatToInt? x).map int
  | float x, .float => some (float x)
  | int i, .float => some (float (.ofInt i.toInt))
  | bool b, .float => some (float (if b then .one else .zero))
  | bool b, .bool => some (bool b)
  | int i, .bool => some (bool (i != 0))
  | float x, .bool => some (bool (!x.isZero))

end Value

end Trialbook
