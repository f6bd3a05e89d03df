/-
SCALARS in TOML that are no texts: truth values, numbers, and points in time.

They are only recognised, since nothing depends on their values beyond what makes them valid: an integer must fit into
sixty-four bits, a float must not be too large, and dates and times must exist.
-/
import Trialbook.Number.FloatText

namespace Trialbook.Toml

/-! ## Numbers -/

/-- digits with single underscores between them -/
def isDigits (isDigit : Char → Bool) : List Char → Bool
  | [] => false
  | [c] => isDigit c
  | c :: '_' :: rest => isDigit c && isDigits isDigit rest
  | c :: rest => isDigit c && isDigits isDigit rest

/-- text without the sign at its start -/
def unsigned : List Char → List Char
  | '+' :: cs => cs
  | '-' :: cs => cs
  | cs => cs

/-- decimal digits without a leading zero -/
def isDecimal (cs : List Char) : Bool :=
  isDigits Char.isDigit cs && (cs.length == 1 || cs.head? != some '0')

def withoutUnderscores (cs : List Char) : List Char := cs.filter (· != '_')

/-- digits of a base that denote a number of sixty-four bits -/
def isBased (base : Nat) (cs : List Char) : Bool :=
  isDigits (fun c => (Integer.digit? base c).isSome) cs &&
    ((Integer.natural? base (withoutUnderscores cs)).bind fun n => Integer.int64? n).isSome

def isInteger (cs : List Char) : Bool :=
  match cs with
  | '0' :: 'x' :: ds => isBased 16 ds
  | '0' :: 'o' :: ds => isBased 8 ds
  | '0' :: 'b' :: ds => isBased 2 ds
  | _ => isDecimal (unsigned cs) && (Integer.readInt64? (withoutUnderscores cs)).isSome

/-- an exponent, or nothing -/
def isExponent : List Char → Bool
  | [] => true
  | c :: cs => (c == 'e' || c == 'E') && isDigits Char.isDigit (unsigned cs)

/-- whole part, fraction and exponent, at least one of the last two -/
def isFloatForm (cs : List Char) : Bool :=
  let digit (c : Char) : Bool := c.isDigit || c == '_'
  let whole := cs.takeWhile digit
  match cs.drop whole.length with
  | '.' :: rest =>
    let fraction := rest.takeWhile digit
    isDecimal whole && isDigits Char.isDigit fraction && isExponent (rest.drop fraction.length)
  | rest => isDecimal whole && !rest.isEmpty && isExponent rest

def isFloat (cs : List Char) : Bool :=
  let bare := String.ofList (unsigned cs)
  bare == "inf" || bare == "nan" ||
    (isFloatForm (unsigned cs) &&
      match FloatText.read? (withoutUnderscores cs) with
      | some x => x.isFinite || x.negative
      | none => false)

/-! ## Points in time -/

/-- a fixed number of decimal digits, at most `most` -/
def clock? (width most : Nat) (cs : List Char) : Option (Nat × List Char) :=
  let digits := cs.take width
  if digits.length = width && digits.all Char.isDigit then
    let n := Integer.ofDigits 10 (digits.map Integer.digitValue)
    if n ≤ most then some (n, cs.drop width) else none
  else none

def isLeap (year : Nat) : Bool := year % 4 == 0 && (year % 100 != 0 || year % 400 == 0)

def daysIn (year month : Nat) : Nat :=
  if month == 2 then (if isLeap year then 29 else 28)
  else if month == 4 || month == 6 || month == 9 || month == 11 then 30
  else 31

/-- the character that must come next -/
def expect (c : Char) : List Char → Option (List Char)
  | d :: cs => if d = c then some cs else none
  | [] => none

/-- a date, and what follows it -/
def date? (cs : List Char) : Option (List Char) := do
  let (year, cs) ← clock? 4 9999 cs
  let cs ← expect '-' cs
  let (month, cs) ← clock? 2 12 cs
  let cs ← expect '-' cs
  let (day, cs) ← clock? 2 31 cs
  if month = 0 ∨ day = 0 ∨ daysIn year month < day then none else return cs

/-- what follows a fraction of a second -/
def afterFraction : List Char → Option (List Char)
  | '.' :: cs =>
    let digits := cs.takeWhile Char.isDigit
    if digits.isEmpty then none else some (cs.drop digits.length)
  | cs => some cs

/-- a time of day, and what follows it -/
def time? (cs : List Char) : Option (List Char) := do
  let (_, cs) ← clock? 2 23 cs
  let cs ← expect ':' cs
  let (_, cs) ← clock? 2 59 cs
  let cs ← expect ':' cs
  let (_, cs) ← clock? 2 60 cs
  afterFraction cs

/-- nothing, or how far a clock is off -/
def isOffset : List Char → Bool
  | [] => true
  | ['Z'] => true
  | ['z'] => true
  | c :: cs =>
    (c == '+' || c == '-') &&
      (do
        let (_, cs) ← clock? 2 23 cs
        let cs ← expect ':' cs
        let (_, cs) ← clock? 2 59 cs
        return cs.isEmpty : Option Bool).getD false

/-- a date, a time of day, or both with or without an offset -/
def isMoment (cs : List Char) : Bool :=
  match date? cs with
  | some [] => true
  | some (c :: rest) =>
    (c == 'T' || c == 't' || c == ' ') &&
      match time? rest with
      | some rest => isOffset rest
      | none => false
  | none => (time? cs).any List.isEmpty

/-! ## Scalars -/

def isScalar (cs : List Char) : Bool :=
  let word := String.ofList cs
  word == "true" || word == "false" || isMoment cs || isFloat cs || isInteger cs

/-- a character of a scalar -/
def isScalarChar (c : Char) : Bool := c.isAlphanum || c == '+' || c == '-' || c == '.' || c == ':' || c == '_'

/-- the characters of the scalar at the start; a date and a time may have a space between them -/
def scalarRun (cs : List Char) : List Char :=
  let run := cs.takeWhile isScalarChar
  match cs.drop run.length with
  | ' ' :: rest =>
    if date? run == some [] && (rest.head?.map Char.isDigit).getD false then run ++ ' ' :: rest.takeWhile isScalarChar
    else run
  | _ => run

/-- what follows the scalar at the start -/
def afterScalar? (cs : List Char) : Option (List Char) :=
  let run := scalarRun cs
  if isScalar run then some (cs.drop run.length) else none

end Trialbook.Toml
