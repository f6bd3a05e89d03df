/-
DOCUMENTS in TOML: reading a file as a table.

A document is a list of lines: blank ones, `key = value`, and headers of tables. `Document.read?` reads one or refuses
it. Values, and the parts of a key, must not be nested deeper than `depthLimit`.
-/
import Trialbook.Toml.Item
import Trialbook.Toml.Scalar
import Trialbook.Toml.Text

namespace Trialbook.Toml

/-- values and keys are nested less deep than this -/
def depthLimit : Nat := 80

/-! ## Blanks -/

def afterBlanks (cs : List Char) : List Char := cs.dropWhile fun c => c == ' ' || c == '\t'

/-- what follows a comment, if there is one -/
def afterComment : List Char → List Char
  | '#' :: cs => cs.dropWhile isPlain
  | cs => cs

/-- what follows the end of a line, blanks and a comment before it allowed -/
def afterLine? (cs : List Char) : Option (List Char) :=
  match afterComment (afterBlanks cs) with
  | [] => some []
  | '\n' :: rest => some rest
  | '\r' :: '\n' :: rest => some rest
  | _ => none

/-- what follows blanks, comments and line breaks -/
def afterGap : Nat → List Char → List Char
  | 0, cs => cs
  | n + 1, cs =>
    match afterComment (afterBlanks cs) with
    | '\n' :: rest => afterGap n rest
    | '\r' :: '\n' :: rest => afterGap n rest
    | rest => rest

/-! ## Keys -/

def isKeyChar (c : Char) : Bool := c.isAlphanum || c == '_' || c == '-'

/-- one part of a key, and what follows it -/
def keyPart? : List Char → Option (String × List Char)
  | '"' :: cs => (line? '"' (basicPiece false) cs).map fun r => (String.ofList r.1, r.2)
  | '\'' :: cs => (line? '\'' (literalPiece false) cs).map fun r => (String.ofList r.1, r.2)
  | cs =>
    let word := cs.takeWhile isKeyChar
    if word.isEmpty then none else some (String.ofList word, cs.drop word.length)

/-- the parts of a key and what follows it; at most `n` parts -/
def keyParts? : Nat → List Char → Option (List String × List Char)
  | 0, _ => none
  | n + 1, cs => do
    let (part, rest) ← keyPart? (afterBlanks cs)
    match afterBlanks rest with
    | '.' :: rest =>
      let (parts, rest) ← keyParts? n rest
      return (part :: parts, rest)
    | rest => return ([part], rest)

/-- a key as the way to its last part and the last part, and what follows it -/
def key? (cs : List Char) : Option (List String × String × List Char) := do
  let (parts, rest) ← keyParts? (depthLimit - 1) cs
  match parts.getLast? with
  | some last => return (parts.dropLast, last, rest)
  | none => none

/-! ## Values -/

mutual

/-- a value, and what follows it -/
def value? (n depth : Nat) (cs : List Char) : Option (Item × List Char) :=
  match n with
  | 0 => none
  | n + 1 =>
    match cs with
    | '"' :: _ | '\'' :: _ => (text? cs).map fun r => (.text (String.ofList r.1), r.2)
    | '[' :: rest => if depth + 1 < depthLimit then (array? n (depth + 1) rest).map fun r => (.other, r) else none
    | '\x7b' :: rest =>
      if depth + 1 < depthLimit then
        match afterBlanks rest with
        | '\x7d' :: rest => some (.other, rest)
        | rest => (inlineTable? n (depth + 1) [] rest).map fun r => (.other, r)
      else none
    | cs => (afterScalar? cs).map fun r => (.other, r)

/-- what follows the items of an array -/
def array? (n depth : Nat) (cs : List Char) : Option (List Char) :=
  match n with
  | 0 => none
  | n + 1 =>
    match afterGap cs.length cs with
    | ']' :: rest => some rest
    | cs =>
      (value? n depth cs).bind fun r =>
        match afterGap r.2.length r.2 with
        | ',' :: rest => array? n depth rest
        | ']' :: rest => some rest
        | _ => none

/-- what follows the entries of a table in braces -/
def inlineTable? (n depth : Nat) (entries : Entries) (cs : List Char) : Option (List Char) :=
  match n with
  | 0 => none
  | n + 1 =>
    (key? cs).bind fun (way, last, rest) =>
      match rest with
      | '=' :: rest =>
        (value? n depth (afterBlanks rest)).bind fun (item, rest) =>
          (entries.put item last way).bind fun entries =>
            match afterBlanks rest with
            | ',' :: rest => inlineTable? n depth entries rest
            | '\x7d' :: rest => some rest
            | _ => none
      | _ => none

end

/-! ## Lines -/

/-- a document being read: its table, and the header under which lines stand -/
structure Document where
  entries : Entries
  header : List String

namespace Document

/-- a line with a key and a value, and what follows it -/
def entry? (d : Document) (cs : List Char) : Option (Document × List Char) := do
  let (way, last, rest) ← key? cs
  let rest ← expect '=' rest
  let (item, rest) ← value? (2 * rest.length + 2) 0 (afterBlanks rest)
  let rest ← afterLine? rest
  let entries ← Entries.within (Entries.put item last way) d.header d.entries
  return ({ d with entries }, rest)

/-- a header, after its opening brackets -/
def header? (d : Document) (closing : List Char) (make : String → Entries → Option Entries) (cs : List Char) :
    Option (Document × List Char) := do
  let (way, last, rest) ← key? cs
  let rest ← if closing.isPrefixOf rest then some (rest.drop closing.length) else none
  let rest ← afterLine? rest
  let entries ← Entries.within (make last) way d.entries
  return (⟨entries, way ++ [last]⟩, rest)

/-- reads lines, at most `n` -/
def lines? : Nat → Document → List Char → Option Document
  | 0, _, _ => none
  | n + 1, d, cs =>
    match afterBlanks cs with
    | [] => some d
    | '#' :: rest => (afterLine? ('#' :: rest)).bind (lines? n d)
    | '\n' :: rest => lines? n d rest
    | '\r' :: '\n' :: rest => lines? n d rest
    | '[' :: '[' :: rest => (d.header? [']', ']'] Entries.openNext rest).bind fun r => lines? n r.1 r.2
    | '[' :: rest => (d.header? [']'] Entries.openTable rest).bind fun r => lines? n r.1 r.2
    | rest => (d.entry? rest).bind fun r => lines? n r.1 r.2

/-- the table of a document; a byte-order mark at its start is passed over -/
def read? (text : String) : Option Entries :=
  let cs := match text.toList with
    | '\uFEFF' :: cs => cs
    | cs => cs
  (lines? (cs.length + 1) ⟨[], []⟩ cs).map Document.entries

end Document

end Trialbook.Toml
