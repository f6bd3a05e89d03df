/-
SETTINGS: what a layer of configuration says about a key.

Only texts can be used; that a layer gives something else is kept, so that it can be refused where it counts.
`Setting.ofVariable` reads the text of an environment variable: a text or character between quotes, a list, or entries
between braces is read as such when that is all there is, a number or truth value is no text, and all else is the text
itself without blanks around it.
-/
import Trialbook.Text.Blank
import Trialbook.Toml.Document

namespace Trialbook

/-- what stands under a key -/
inductive Setting where
  | text (s : String)
  /-- something that is no text -/
  | other
  deriving DecidableEq, Repr

namespace Setting

def ofItem : Toml.Item → Setting
  | .text s => .text s
  | _ => .other

/-! ## Variables -/

def afterSpace (cs : List Char) : List Char :=
  cs.dropWhile fun c => c == ' ' || c == '\t' || c == '\n' || c == '\x0c' || c == '\r'

/-- a truth value, a number with a point, or an integer of sixty-four bits with or without a sign -/
def isDatum (cs : List Char) : Bool :=
  String.ofList cs == "true" || String.ofList cs == "false" ||
    (cs.contains '.' && (FloatText.read? cs).isSome) || (Integer.readUnsigned? 64 cs).isSome ||
    (Integer.readInt64? cs).isSome

/-- a character that ends a bare value -/
def isSeparator (c : Char) : Bool := c == ',' || c == '\x7b' || c == '\x7d' || c == '[' || c == ']'

/-- what follows the key of an entry -/
def afterKey? : List Char → Option (List Char)
  | '"' :: cs => (Toml.line? '"' (Toml.basicPiece false) cs).map Prod.snd
  | cs =>
    let word := cs.takeWhile Toml.isKeyChar
    if word.isEmpty then none else some (cs.drop word.length)

mutual

/-- a value, and what follows it and blanks -/
def value? (n : Nat) (cs : List Char) : Option (Setting × List Char) :=
  match n with
  | 0 => none
  | n + 1 =>
    match afterSpace cs with
    | '"' :: rest =>
      (Toml.line? '"' (Toml.basicPiece false) rest).map fun r => (.text (String.ofList r.1), afterSpace r.2)
    | '\'' :: c :: '\'' :: rest => some (.text (String.singleton c), afterSpace rest)
    | '\'' :: _ => none
    | '[' :: rest => (items? n rest).map fun rest => (.other, afterSpace rest)
    | '\x7b' :: rest => (entries? n rest).map fun rest => (.other, afterSpace rest)
    | cs =>
      let run := cs.takeWhile fun c => !isSeparator c
      let bare := Text.trim run
      some (if isDatum bare then .other else .text (String.ofList bare), cs.drop run.length)

/-- what follows the items of a list -/
def items? (n : Nat) (cs : List Char) : Option (List Char) :=
  match n with
  | 0 => none
  | n + 1 =>
    match cs with
    | ']' :: rest => some rest
    | cs =>
      (value? n cs).bind fun r =>
        match r.2 with
        | ',' :: rest => items? n rest
        | ']' :: rest => some rest
        | _ => none

/-- what follows entries between braces -/
def entries? (n : Nat) (cs : List Char) : Option (List Char) :=
  match n with
  | 0 => none
  | n + 1 =>
    match cs with
    | '\x7d' :: rest => some rest
    | cs =>
      (afterKey? (afterSpace cs)).bind fun rest =>
        match afterSpace rest with
        | '=' :: rest =>
          (value? n rest).bind fun r =>
            match r.2 with
            | ',' :: rest => entries? n rest
            | '\x7d' :: rest => some rest
            | _ => none
        | _ => none

end

/-- what the text of a variable says -/
def ofVariable (text : String) : Setting :=
  match value? (2 * text.length + 2) text.toList with
  | some (s, []) => s
  | _ => .text text

end Setting

end Trialbook
