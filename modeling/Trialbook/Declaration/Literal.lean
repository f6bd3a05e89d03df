/-
LITERALS: the values that expressions denote without running anything.

A scalar is a string, an integer, a float, a truth value or nothing; a literal is a scalar, the name of a kind, or a
flat list or tuple of scalars. Every other expression denotes no literal, so nothing is ever run to learn a value. The
value of a string follows from its prefix, its quotes and the escapes in its body; the value of a number is exact or
there is none.
-/
import Trialbook.Param.Value
import Trialbook.Source.Tree

namespace Trialbook

/-- a value, or the absence of one -/
inductive Scalar where
  | value (v : Value)
  | absent
  deriving DecidableEq, Repr

/-- what an expression denotes -/
inductive Literal where
  | scalar (s : Scalar)
  | kind (k : Kind)
  | sequence (items : List Scalar)
  deriving DecidableEq, Repr

namespace Literal

/-- what a literal is called in messages -/
def description : Literal → String
  | scalar (.value v) => v.kind.word
  | scalar .absent => "NoneType"
  | kind _ => "type"
  | sequence _ => "tuple"

/-- the value of a literal that is one -/
def value? : Literal → Option Value
  | scalar (.value v) => some v
  | _ => none

end Literal

/-! ## Strings -/

namespace StringLiteral

/-- the character with a code point given by digits of a base -/
def charOf? (base : Nat) (ds : List Char) : Option Char := do
  let n ← Integer.natural? base ds
  if n.isValidChar then some (Char.ofNat n) else none

/-- exactly `n` hexadecimal digits: the character they name, and how many they are -/
def hexEscape? (n : Nat) (cs : List Char) : Option (List Char × Nat) :=
  if (cs.take n).length = n then (charOf? 16 (cs.take n)).map fun c => ([c], n) else none

def isOctal (c : Char) : Bool := '0' ≤ c && c ≤ '7'

/-- meaning of the escape that `c` and what follows it make after a backslash, and how much of what follows it takes -/
def escape? (c : Char) (cs : List Char) : Option (List Char × Nat) :=
  if c = '\n' then some ([], 0)
  else if c = '\r' then some ([], if cs.head? = some '\n' then 1 else 0)
  else if c = '\\' ∨ c = '\'' ∨ c = '"' then some ([c], 0)
  else if c = 'a' then some (['\x07'], 0)
  else if c = 'b' then some (['\x08'], 0)
  else if c = 'f' then some (['\x0c'], 0)
  else if c = 'n' then some (['\n'], 0)
  else if c = 'r' then some (['\r'], 0)
  else if c = 't' then some (['\t'], 0)
  else if c = 'v' then some (['\x0b'], 0)
  else if isOctal c then
    let more := (cs.take 2).takeWhile isOctal
    (charOf? 8 (c :: more)).map fun k => ([k], more.length)
  else if c = 'x' then hexEscape? 2 cs
  else if c = 'u' then hexEscape? 4 cs
  else if c = 'U' then hexEscape? 8 cs
  else if c = 'N' then none
  else some (['\\', c], 0)

/-- a body with its escapes replaced by their meanings -/
def unescape? : List Char → Option (List Char)
  | [] => some []
  | ['\\'] => some ['\\']
  | '\\' :: c :: cs =>
    match escape? c cs with
    | some (meaning, n) => (unescape? (cs.drop n)).map (meaning ++ ·)
    | none => none
  | c :: cs => (unescape? cs).map (c :: ·)
termination_by cs => cs.length
decreasing_by all_goals (simp only [List.length_cons, List.length_drop]; omega)

def isQuote (c : Char) : Bool := c == '"' || c == '\''

/-- number of quotes on either side of a body -/
def quoteWidth (quoted : List Char) : Nat :=
  if ['"', '"', '"'].isPrefixOf quoted || ['\'', '\'', '\''].isPrefixOf quoted then 3 else 1

/-- the value of a string, given with its prefix and its quotes; a string of bytes or with embedded expressions has
none -/
def value? (token : String) : Option String :=
  let cs := token.toList
  let letters := cs.takeWhile fun c => !isQuote c
  let quoted := cs.drop letters.length
  let width := quoteWidth quoted
  if quoted.length < 2 * width then none
  else if letters.any fun c => !"rRuU".toList.contains c then none
  else
    let body := (quoted.drop width).take (quoted.length - 2 * width)
    if letters.any fun c => c == 'r' || c == 'R' then some (String.ofList body)
    else (unescape? body).map String.ofList

/-- the value of strings written one after the other -/
def joined? (tokens : List String) : Option String :=
  (tokens.mapM value?).map String.join

end StringLiteral

/-! ## Numbers -/

namespace NumberLiteral

/-- a token without the underscores that separate its digits -/
def digitsOf (token : String) : List Char := token.toList.filter (· != '_')

/-- the value of an integer; out of range there is none -/
def integer? (token : String) : Option Int64 :=
  let read (base : Nat) (ds : List Char) : Option Int64 :=
    (Integer.natural? base ds).bind fun n => Integer.int64? n
  match (digitsOf token).map FloatText.lower with
  | '0' :: 'x' :: ds => read 16 ds
  | '0' :: 'o' :: ds => read 8 ds
  | '0' :: 'b' :: ds => read 2 ds
  | ds => read 10 ds

/-- the value of a float -/
def float? (token : String) : Option Binary64 := FloatText.read? (digitsOf token)

end NumberLiteral

/-! ## Expressions -/

/-- a signed scalar: only numbers have signs -/
def Scalar.signed? (operator : Char) : Scalar → Option Scalar
  | .value (.int i) =>
    if operator = '-' then (if i = Int64.minValue then none else some (.value (.int (-i))))
    else if operator = '+' then some (.value (.int i))
    else none
  | .value (.float x) =>
    if operator = '-' then some (.value (.float x.neg))
    else if operator = '+' then some (.value (.float x))
    else none
  | _ => none

namespace Source.Expr

/-- the scalar that an expression denotes -/
def scalar? : Expr → Option Scalar
  | string token => (StringLiteral.value? token).map fun s => .value (.str s)
  | strings tokens => (StringLiteral.joined? tokens).map fun s => .value (.str s)
  | integer token => (NumberLiteral.integer? token).map fun i => .value (.int i)
  | float token => (NumberLiteral.float? token).map fun x => .value (.float x)
  | truth b => some (.value (.bool b))
  | absent => some .absent
  | unary operator operand => operand.scalar?.bind (Scalar.signed? operator)
  | grouped inner => inner.scalar?
  | _ => none

/-- the literal that an expression denotes -/
def literal? : Expr → Option Literal
  | name word => (Kind.ofWord? word).map .kind
  | list items => (items.mapM scalar?).map .sequence
  | tuple items => (items.mapM scalar?).map .sequence
  | grouped inner => inner.literal?
  | e => e.scalar?.map .scalar

end Source.Expr

end Trialbook
