/-
CURSORS: how far a declaration file has been read.

A cursor holds the characters still to be read, how many were read and how many line breaks were among them, and the
layout: the indentations of the open blocks and whether a formatted string is open. A reader (`Reads`) moves the cursor
or refuses. `Reads.repeatFrom` repeats a step until it declines; all steps that go on but the last read at least one
character, so two more rounds than there are characters left are enough.
-/
namespace Trialbook.Source

/-- a position in a file, and its layout -/
structure Cursor where
  /-- characters still to be read -/
  rest : List Char
  /-- number of characters in the file -/
  size : Nat
  /-- number of characters read -/
  offset : Nat
  /-- number of line breaks read -/
  row : Nat
  /-- indentations of the open blocks, innermost first -/
  blocks : List Nat
  /-- the string that was opened last is a formatted one and still open -/
  inFormatted : Bool
  deriving Repr

/-- the start of a file; a byte-order mark there is passed over -/
def Cursor.start (text : List Char) : Cursor :=
  match text with
  | '\uFEFF' :: rest => ⟨rest, text.length, 1, 0, [], false⟩
  | _ => ⟨text, text.length, 0, 0, [], false⟩

/-- rounds that are enough for the characters still to be read -/
def Cursor.bound (c : Cursor) : Nat := c.size + 2 - c.offset

/-- moves past `n` characters -/
def Cursor.skip (c : Cursor) (n : Nat) : Cursor :=
  { c with rest := c.rest.drop n, offset := c.offset + n, row := c.row + (c.rest.take n).count '\n' }

/-- the characters from a cursor to a later one -/
def Cursor.upTo (c later : Cursor) : String :=
  String.ofList (c.rest.take (later.offset - c.offset))

/-- moves the cursor and yields a result, or refuses -/
abbrev Reads := StateT Cursor Option

namespace Reads

variable {α β : Type}

/-- moves past `n` characters -/
def skip (n : Nat) : Reads Unit := modify (·.skip n)

/-- repeats a step that threads a value until it declines, at most `n` times -/
def iterate (step : α → Reads (Option α)) : Nat → α → Reads α
  | 0, _ => failure
  | n + 1, a => do
    match ← step a with
    | some b => iterate step n b
    | none => return a

/-- repeats a step that threads a value until it declines -/
def repeatFrom (a : α) (step : α → Reads (Option α)) : Reads α := do
  iterate step (← get).bound a

/-- goes back to where it started when the reader refuses -/
def orBack (p : Reads α) (q : Reads α) : Reads α := fun c =>
  match p c with
  | some r => some r
  | none => q c

end Reads

end Trialbook.Source
