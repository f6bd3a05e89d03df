/-
JSON TEXT: data with ordered fields, written on one line or indented by two spaces a level.

Fields keep the order they are given in. A number that is not finite is written as null, since the format has no word
for it. Only the characters that must be escaped are.
-/
import Trialbook.Number.FloatText
import Trialbook.Text.Quoted

namespace Trialbook

inductive Json where
  | null
  | bool (b : Bool)
  | int (n : Int)
  | float (x : Binary64)
  | str (s : String)
  | arr (items : List Json)
  | obj (fields : List (String × Json))

namespace Json

/-! ## Leaves -/

/-- one character inside a string -/
def escape (c : Char) : List Char :=
  match c with
  | '"' => ['\\', '"']
  | '\\' => ['\\', '\\']
  | '\x08' => ['\\', 'b']
  | '\x0c' => ['\\', 'f']
  | '\n' => ['\\', 'n']
  | '\r' => ['\\', 'r']
  | '\t' => ['\\', 't']
  | c =>
    if c.toNat < 32 then
      ['\\', 'u', '0', '0'] ++ (if c.toNat < 16 then ['0'] else []) ++ Text.hex c.toNat
    else [c]

def string (s : String) : String :=
  String.ofList ('"' :: s.toList.flatMap escape ++ ['"'])

def number (x : Binary64) : String :=
  if x.isFinite then FloatLayout.data.write x else "null"

def truth (b : Bool) : String := if b then "true" else "false"

/-! ## One line -/

mutual

/-- without any space -/
def compact : Json → String
  | null => "null"
  | bool b => truth b
  | int n => Integer.text n
  | float x => number x
  | str s => string s
  | arr items => "[" ++ String.intercalate "," (compactItems items) ++ "]"
  | obj fields => "\x7b" ++ String.intercalate "," (compactFields fields) ++ "\x7d"

def compactItems : List Json → List String
  | [] => []
  | j :: js => compact j :: compactItems js

def compactFields : List (String × Json) → List String
  | [] => []
  | (k, j) :: fs => (string k ++ ":" ++ compact j) :: compactFields fs

end

/-! ## Indented -/

/-- lines of a bracketed list, one item a line -/
def block (opening closing : String) (depth : Nat) (items : List String) : String :=
  let indent (n : Nat) := String.ofList (List.replicate (2 * n) ' ')
  if items.isEmpty then opening ++ closing
  else
    opening ++ "\n" ++ String.intercalate ",\n" (items.map fun s => indent (depth + 1) ++ s) ++ "\n" ++ indent depth
      ++ closing

mutual

/-- one item a line, indented two spaces a level -/
def pretty (depth : Nat) : Json → String
  | null => "null"
  | bool b => truth b
  | int n => Integer.text n
  | float x => number x
  | str s => string s
  | arr items => block "[" "]" depth (prettyItems (depth + 1) items)
  | obj fields => block "\x7b" "\x7d" depth (prettyFields (depth + 1) fields)

def prettyItems (depth : Nat) : List Json → List String
  | [] => []
  | j :: js => pretty depth j :: prettyItems depth js

def prettyFields (depth : Nat) : List (String × Json) → List String
  | [] => []
  | (k, j) :: fs => (string k ++ ": " ++ pretty depth j) :: prettyFields depth fs

end

end Json

end Trialbook
