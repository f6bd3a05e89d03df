/-
STRINGS of a declaration file.

A string has prefix letters, one quote or three, a body and the same quotes again. A backslash takes the escape after it
along, in a raw string the quote or backslash after it. A string between single quotes ends with its line, except that a
line break may come first thing or right after an escape. In a formatted string a brace opens an embedded expression,
with a conversion and a format after it, and a doubled brace stands for itself.
-/
import Trialbook.Source.Token

namespace Trialbook.Source

/-- how a string is delimited and read -/
structure StringStyle where
  quote : Char
  triple : Bool
  raw : Bool
  bytes : Bool
  formatted : Bool

namespace StringStyle

/-- style and length of the opening of a string -/
def opening? (cs : List Char) : Option (StringStyle × Nat) :=
  let letters := cs.takeWhile isStringPrefix
  let has (l u : Char) := letters.contains l || letters.contains u
  match cs.drop letters.length with
  | q :: rest =>
    if isQuote q then
      let triple := q != '\x60' && [q, q].isPrefixOf rest
      some (⟨q, triple, has 'r' 'R', has 'b' 'B', has 'f' 'F'⟩, letters.length + if triple then 3 else 1)
    else none
  | [] => none

end StringStyle

/-- length of the escape after a backslash, nought if it is none -/
def escapeLength : List Char → Nat
  | '\r' :: '\n' :: _ => 2
  | 'N' :: '\x7b' :: cs =>
    let n := (cs.takeWhile fun c => c != '\x7d' && c != '\x00').length
    if n = 0 ∨ (cs.drop n).head? ≠ some '\x7d' then 0 else n + 3
  | c :: cs =>
    let digits (n : Nat) := if (cs.take n).length = n ∧ (cs.take n).all isHexadecimal then n + 1 else 0
    if c = 'u' then digits 4
    else if c = 'U' then digits 8
    else if c = 'x' then digits 2
    else if isDecimal c then 1 + ((cs.take 2).takeWhile isDecimal).length
    else if "'\"abfrntv\\\n".toList.contains c then 1
    else 0
  | [] => 0

/-- length of what a backslash takes along in a raw string -/
def rawEscapeLength (quote : Char) (cs : List Char) : Nat :=
  let n := if (cs.head?.map fun c => c == quote || c == '\\').getD false then 1 else 0
  match cs.drop n with
  | '\r' :: '\n' :: _ => n + 2
  | '\r' :: _ => n + 1
  | '\n' :: _ => n + 1
  | _ => n

namespace Reads

/-- one step through the body of a string; the result says whether the string goes on, and if so whether a line break
may come next -/
def stringStep (style : StringStyle) (embedded : Reads Unit) (fresh : Bool) : Reads (Option Bool) := do
  match (← get).rest with
  | [] => failure
  | ch :: cs =>
    if ch = '\x00' then failure
    else if style.formatted && (ch == '\x7b' || ch == '\x7d') then
      if cs.head? = some ch then
        skip 2
        return some true
      else if ch = '\x7b' then
        skip 1
        embedded
        return some true
      else failure
    else if ch = '\\' then
      if style.raw then
        skip (1 + rawEscapeLength style.quote cs)
        return some fresh
      else if style.bytes && (cs.head?.map "NuU".toList.contains).getD false then
        skip 3
        return some false
      else
        skip (1 + escapeLength cs)
        return some true
    else if ch = style.quote then
      if !style.triple then
        skip 1
        return none
      else if [ch, ch].isPrefixOf cs then
        skip 3
        return none
      else
        skip 1
        return some false
    else if ch = '\n' && !fresh && !style.triple then failure
    else
      skip 1
      return some false

/-- goes through the body of a string to the end of it -/
def stringBody (style : StringStyle) (embedded : Reads Unit) : Nat → Bool → Reads Unit
  | 0, _ => failure
  | n + 1, fresh => do
    match ← stringStep style embedded fresh with
    | some fresh => stringBody style embedded n fresh
    | none => return ()

/-- reads a string at the cursor -/
def stringToken (embedded : Reads Unit) : Reads String := do
  let start ← get
  match StringStyle.opening? start.rest with
  | none => failure
  | some (style, n) =>
    skip n
    modify fun c => { c with inFormatted := style.formatted }
    stringBody style embedded start.bound true
    modify fun c => { c with inFormatted := false }
    return start.upTo (← get)

end Reads

end Trialbook.Source
