/-
INTEGERS: reading and writing integers of a fixed width.

`ofDigits` is the number that a list of digits denotes in a base, `digits?` reads characters as digits of a base, and
`Int64.read?` reads an optional sign and decimal digits, refusing what does not fit. Numbers outside the range are
refused, never wrapped.
-/
namespace Trialbook.Integer

/-! ## Digits -/

/-- value of a character as a digit, letters of either case counting from ten -/
def digitValue (c : Char) : Nat :=
  if '0' ≤ c ∧ c ≤ '9' then c.toNat - '0'.toNat
  else if 'a' ≤ c ∧ c ≤ 'z' then c.toNat - 'a'.toNat + 10
  else if 'A' ≤ c ∧ c ≤ 'Z' then c.toNat - 'A'.toNat + 10
  else 36

/-- `c` as a digit of `base` -/
def digit? (base : Nat) (c : Char) : Option Nat :=
  if digitValue c < base then some (digitValue c) else none

/-- the number that digits, most significant first, denote in `base` -/
def ofDigits (base : Nat) (ds : List Nat) : Nat :=
  ds.foldl (fun n d => n * base + d) 0

/-- one or more digits of `base`, as the number they denote -/
def natural? (base : Nat) (cs : List Char) : Option Nat :=
  if cs.isEmpty then none else (cs.mapM (digit? base)).map (ofDigits base)

/-! ## Bounded integers -/

/-- an integer that lies in the range of sixty-four bits -/
def int64? (n : Int) : Option Int64 :=
  if Int64.minValue.toInt ≤ n ∧ n ≤ Int64.maxValue.toInt then some (Int64.ofInt n) else none

/-- an optional sign and one or more digits of `base` -/
def signed? (base : Nat) : List Char → Option Int
  | '-' :: cs => (natural? base cs).map fun n => -(n : Int)
  | '+' :: cs => (natural? base cs).map fun n => (n : Int)
  | cs => (natural? base cs).map fun n => (n : Int)

/-- decimal text of a signed integer of sixty-four bits -/
def readInt64? (cs : List Char) : Option Int64 :=
  (signed? 10 cs).bind int64?

/-- decimal text of an unsigned integer of `bits` bits, a plus sign allowed -/
def readUnsigned? (bits : Nat) (cs : List Char) : Option Nat :=
  let digits := match cs with
    | '+' :: rest => rest
    | _ => cs
  (natural? 10 digits).filter (· < Nat.pow 2 bits)

/-- decimal text of an integer, with a minus sign when it is negative -/
def text (n : Int) : String :=
  if n < 0 then "-" ++ Nat.repr n.natAbs else Nat.repr n.natAbs

end Trialbook.Integer
