/-
ENVIRONMENT FILES: variables that a file provides, a line each.

A line is `KEY=value`, perhaps after the word `export`, and may end in a comment; blank lines and comments are passed
over. A value may be quoted and may refer to variables as `$NAME` or `${NAME}`: between single quotes everything
stands for itself, elsewhere a backslash escapes a character. A quoted value may go over several lines. Reading stops at
the first line that is none of this, and what was read before stays. Variables that are set already keep their texts.
-/
import Trialbook.Environment.Variables
import Trialbook.Text.Blank
import Trialbook.Text.NameLetter

namespace Trialbook.EnvironmentFile

/-! ## Lines -/

/-- the pieces of a text up to and with each line feed -/
def pieces : List Char → List (List Char)
  | [] => []
  | c :: cs =>
    if c = '\n' then [c] :: pieces cs
    else match pieces cs with
      | [] => [[c]]
      | piece :: rest => (c :: piece) :: rest

/-- where a character of a line stands -/
inductive Inside where
  | plain
  | blank
  | comment
  | escape
  | single
  | singleEscape
  | double
  | doubleEscape
  deriving DecidableEq, Repr

/-- where the next character stands -/
def Inside.next (s : Inside) (c : Char) : Inside :=
  let outside (otherwise : Inside) : Inside :=
    if c = '\\' then .escape else if c = '"' then .double else if c = '\'' then .single else otherwise
  match s with
  | plain => outside (if Text.isBlank c && c != '\n' && c != '\r' then .blank else .plain)
  | blank => if c = '#' then .comment else outside .plain
  | comment => .comment
  | escape => .plain
  | single => if c = '\\' then .singleEscape else if c = '\'' then .plain else .single
  | singleEscape => .single
  | double => if c = '\\' then .doubleEscape else if c = '"' then .plain else .double
  | doubleEscape => .double

/-- goes through a piece up to a comment: where it ends, and the characters before the comment -/
def scan : Inside → List Char → Inside × List Char
  | s, [] => (s, [])
  | s, c :: cs =>
    match s.next c with
    | .comment => (.comment, [])
    | next => let r := scan next cs; (r.1, c :: r.2)

/-- text without a line break at its end -/
def withoutBreak (cs : List Char) : List Char :=
  if cs.getLast? = some '\n' then
    let rest := cs.dropLast
    if rest.getLast? = some '\r' then rest.dropLast else rest
  else cs

/-- the lines of a file, and none where one is not ended -/
def lines : Inside → List Char → List (List Char) → List (Option (List Char))
  | s, _, [] => if s = .plain then [] else [none]
  | s, before, piece :: rest =>
    if ((before ++ piece).dropWhile Text.isBlank).head? = some '#' then some [] :: lines .plain [] rest
    else match scan s piece with
      | (.plain, _) => some (withoutBreak (before ++ piece)) :: lines .plain [] rest
      | (.comment, kept) => some (before ++ kept) :: lines .plain [] rest
      | (s, _) => lines s (before ++ piece) rest

/-! ## Values -/

/-- what was read of a file: the environment with its variables, and their texts in the file -/
structure Reading where
  environment : Environment
  texts : List (String × String)

/-- the text that a reference stands for -/
def Reading.refer (r : Reading) (name : List Char) : List Char :=
  let name := String.ofList name
  (((r.environment.get? name).or (r.texts.lookup name)).getD "").toList

/-- how the next character of a value is to be read -/
inductive Mode where
  | plain
  /-- after a backslash -/
  | escape
  /-- between single quotes -/
  | single
  /-- in the name of a reference -/
  | name (name : List Char)
  /-- in the name of a reference, between braces -/
  | braced (name : List Char)
  /-- after the value -/
  | ended
  deriving DecidableEq, Repr

/-- part of a value that has been read -/
structure Partial where
  mode : Mode
  /-- between double quotes -/
  double : Bool
  value : List Char

/-- reads a value to its end -/
def value? (r : Reading) : Partial → List Char → Option (List Char)
  | p, [] =>
    match p.mode with
    | .braced _ | .single => none
    | .name name => if p.double then none else some (p.value ++ r.refer name)
    | _ => if p.double then none else some p.value
  | p, c :: cs =>
    match p.mode with
    | .ended => if c = ' ' || c = '\t' then value? r p cs else if c = '#' then some p.value else none
    | .escape =>
      if ['\\', '\'', '"', '$', ' '].contains c then
        value? r { p with mode := .plain, value := p.value ++ [c] } cs
      else if c = 'n' then value? r { p with mode := .plain, value := p.value ++ ['\n'] } cs
      else none
    | .single =>
      if c = '\'' then value? r { p with mode := .plain } cs
      else value? r { p with value := p.value ++ [c] } cs
    | .name name =>
      if c.isAlphanum || (128 ≤ c.toNat && Text.isNameLetter c) then
        value? r { p with mode := .name (name ++ [c]) } cs
      else if c = '\x7b' && name.isEmpty then value? r { p with mode := .braced [] } cs
      else if c = '$' then value? r { p with mode := .name [], value := p.value ++ r.refer name } cs
      else value? r { p with mode := .plain, value := p.value ++ r.refer name ++ [c] } cs
    | .braced name =>
      if c = '\x7d' then value? r { p with mode := .plain, value := p.value ++ r.refer name } cs
      else value? r { p with mode := .braced (name ++ [c]) } cs
    | .plain =>
      if c = '$' then value? r { p with mode := .name [] } cs
      else if c = '\\' then value? r { p with mode := .escape } cs
      else if c = '"' then value? r { p with double := !p.double } cs
      else if p.double then value? r { p with value := p.value ++ [c] } cs
      else if c = '\'' then value? r { p with mode := .single } cs
      else if c = ' ' || c = '\t' then value? r { p with mode := .ended } cs
      else value? r { p with value := p.value ++ [c] } cs

/-! ## Variables -/

/-- a key, and what follows it and blanks -/
def key? (cs : List Char) : Option (String × List Char) :=
  if (cs.head?.map fun c => c.isAlpha || c == '_').getD false then
    let key := cs.takeWhile fun c => c.isAlphanum || c == '_' || c == '.'
    some (String.ofList key, (cs.drop key.length).dropWhile Text.isBlank)
  else none

/-- the key of a line and what follows the equals sign -/
def split? (cs : List Char) : Option (String × List Char) := do
  match ← key? cs with
  | (key, '=' :: rest) => return (key, rest)
  | (key, rest) =>
    if key = "export" then
      match ← key? rest with
      | (key, '=' :: rest) => return (key, rest)
      | _ => none
    else none

def isNothing (cs : List Char) : Bool := cs.isEmpty || cs.head? == some '#'

/-- goes on with one line -/
def addLine (r : Reading) (line : List Char) : Option Reading := do
  let line := Text.trim line
  if isNothing line then return r
  let (key, rest) ← split? line
  let rest := rest.dropWhile Text.isBlank
  if isNothing rest then
    return { environment := r.environment.provide key "", texts := (key, "") :: r.texts }
  else
    let value := String.ofList (← value? r ⟨.plain, false, []⟩ rest)
    return { environment := r.environment.provide key value, texts := (key, value) :: r.texts }

/-- goes on with lines, up to the first that cannot be read -/
def addLines (r : Reading) : List (Option (List Char)) → Reading
  | [] => r
  | none :: _ => r
  | some line :: rest =>
    match addLine r line with
    | some r => addLines r rest
    | none => r

/-- an environment with the variables of a file -/
def read (text : String) (e : Environment) : Environment :=
  let cs := match text.toList with
    | '\uFEFF' :: cs => cs
    | cs => cs
  (addLines ⟨e, []⟩ (lines .plain [] (pieces cs))).environment

end Trialbook.EnvironmentFile
