/-
LAYOUT: what comes next in a declaration file, line breaks and indentation included.

Line breaks and indentation count only where the grammar has a place for them: an `Expected` says which layout tokens
may come at a point. `upcoming` passes over blanks, comments and joined lines and finds the next thing: the end of a
line, a deeper block, the end of a block, a string, or the first character of any other token. Where no layout token
may come, line breaks are blanks like any other, except that a line indented less than the open block ends that block
even inside an expression, unless a closing bracket may come.
-/
import Trialbook.Source.Cursor

namespace Trialbook.Source

/-- what may come at a point, apart from ordinary tokens -/
structure Expected where
  /-- the end of a statement -/
  newline : Bool
  /-- the first line of a deeper block -/
  indent : Bool
  /-- the end of a block -/
  dedent : Bool
  /-- a string -/
  string : Bool
  /-- a closing bracket -/
  closer : Bool
  /-- an exception handler -/
  handler : Bool

namespace Expected

/-- an ordinary token -/
def plain : Expected := ⟨false, false, false, false, false, false⟩

/-- an operand -/
def operand : Expected := { plain with string := true }

/-- a statement, or the end of the block it would stand in -/
def statement : Expected := { plain with string := true, dedent := true }

/-- the body of a compound statement -/
def body : Expected := { plain with string := true, indent := true, newline := true }

/-- the end of a statement -/
def lineEnd : Expected := { plain with newline := true }

/-- an ordinary token or a closing bracket -/
def closing : Expected := { plain with closer := true }

/-- an operand or a closing bracket -/
def element : Expected := { operand with closer := true }

/-- comments count towards the layout -/
def countsComments (e : Expected) : Bool := e.indent || e.dedent || e.newline || e.handler

end Expected

/-- what comes next; the layout tokens take no characters -/
inductive Upcoming where
  | newline
  | indent (there : Cursor)
  | dedent (there : Cursor)
  | string (there : Cursor)
  | token (there : Cursor)

/-! ## Blanks between tokens -/

/-- the blanks before a token, as far as layout is concerned -/
structure Gap where
  rest : List Char
  width : Nat
  /-- a line break, or the end of the file, was met -/
  broken : Bool
  indent : Nat
  /-- indentation of the first line that holds only a comment -/
  comment : Option Nat

/-- measures blanks; a comment after a token, and a backslash that joins no lines, leave the layout as it is -/
def measure (counts : Bool) : Bool → Gap → List Char → Option Gap
  | _, g, [] => some { g with rest := [], broken := true, indent := 0 }
  | true, g, c :: cs =>
    measure counts (c != '\n' && c != '\x00') { g with width := g.width + 1, indent := 0 } cs
  | false, g, '\\' :: cs =>
    let g := { g with width := g.width + 1 }
    match cs with
    | '\r' :: '\n' :: cs => measure counts false { g with width := g.width + 2 } cs
    | '\n' :: cs => measure counts false { g with width := g.width + 1 } cs
    | ['\r'] | [] => some { g with rest := [], broken := true, indent := 0 }
    | _ => none
  | false, g, c :: cs =>
    let next := { g with width := g.width + 1 }
    if c = '\n' then measure counts false { next with broken := true, indent := 0 } cs
    else if c = ' ' then measure counts false { next with indent := g.indent + 1 } cs
    else if c = '\t' then measure counts false { next with indent := g.indent + 8 } cs
    else if c = '\r' ∨ c = '\x0c' then measure counts false { next with indent := 0 } cs
    else if c = '#' ∧ counts then
      if g.broken then measure counts true { next with comment := g.comment.or (some g.indent) } cs else none
    else some { g with rest := c :: cs }

/-! ## Layout tokens and strings -/

def isQuote (c : Char) : Bool := c == '"' || c == '\'' || c == '\x60'

/-- letters that may stand before the quote of a string -/
def isStringPrefix (c : Char) : Bool := "fFrRbBuU".toList.contains c

/-- a quote after any number of prefix letters -/
def startsString (cs : List Char) : Bool :=
  ((cs.dropWhile isStringPrefix).head?.map isQuote).getD false

/-- the layout token or string that comes next -/
def layout (e : Expected) (c : Cursor) : Option Upcoming := do
  let g ← measure e.countsComments false ⟨c.rest, 0, false, 0, none⟩ c.rest
  let current := c.blocks.headD 0
  let stringNext := e.string && (g.rest.head?.map isQuote).getD false
  if g.broken && e.indent && decide (current < g.indent) then
    return .indent { c with blocks := g.indent :: c.blocks }
  else if g.broken && (e.dedent || !(e.newline || stringNext || e.closer)) && decide (g.indent < current)
      && !c.inFormatted && (g.comment.map fun n => decide (n < current)).getD true then
    return .dedent { c with blocks := c.blocks.tail }
  else if g.broken && e.newline then return .newline
  else if g.comment.isNone && e.string && startsString g.rest then return .string (c.skip g.width)
  else none

/-! ## The next token -/

/-- characters that separate tokens and mean nothing else -/
def isSeparator (c : Char) : Bool :=
  ('\t' ≤ c && c ≤ '\r') || c == ' ' || c == '\uFEFF' || c == '\u2060' || c == '\u200B'

/-- what comes next, given a bound on the number of comments and joined lines before it -/
def upcomingWithin (e : Expected) : Nat → Cursor → Upcoming
  | 0, c => .token c
  | n + 1, c =>
    match layout e c with
    | some u => u
    | none =>
      let c := c.skip (c.rest.takeWhile isSeparator).length
      match c.rest with
      | '#' :: cs => upcomingWithin e n (c.skip (1 + (cs.takeWhile fun k => k != '\n' && k != '\x00').length))
      | '\\' :: '\r' :: '\n' :: _ => upcomingWithin e n (c.skip 3)
      | '\\' :: '\n' :: _ => upcomingWithin e n (c.skip 2)
      | '\\' :: '\x00' :: _ => upcomingWithin e n (c.skip 2)
      | _ => .token c

/-- what comes next -/
def upcoming (e : Expected) (c : Cursor) : Upcoming := upcomingWithin e c.bound c

/-- the cursor at the next string or token -/
def Upcoming.cursor? : Upcoming → Option Cursor
  | .string there => some there
  | .token there => some there
  | _ => none

end Trialbook.Source
