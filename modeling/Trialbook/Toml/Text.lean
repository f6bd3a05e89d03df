/-
TEXTS in TOML: how they are written and read.

A text is written in the plainest of four styles that can hold it: between double quotes, between single quotes, and
between three of either over several lines. Only when none of them can hold it as it stands are characters escaped.
`text?` reads any style; a line feed right after three opening quotes does not count, and a backslash at the end of a
line joins it to the next character that is not blank.
-/
import Trialbook.Number.Integer
import Trialbook.Text.Hex

namespace Trialbook.Toml

/-! ## Characters -/

/-- a control character other than tab and line feed -/
def isControl (c : Char) : Bool := (c.toNat < 32 && c != '\t' && c != '\n') || c.toNat == 127

/-- a character that may stand as it is inside a text of one line -/
def isPlain (c : Char) : Bool := c == '\t' || (32 ≤ c.toNat && c.toNat != 127)

/-- whether a character occurs three times in a row -/
def hasTriple (q : Char) : List Char → Bool
  | a :: b :: c :: rest => (a == q && b == q && c == q) || hasTriple q (b :: c :: rest)
  | _ => false

/-! ## Writing -/

/-- how a text is written -/
inductive Style where
  | basic
  | literal
  | basicLines
  | literalLines
  deriving DecidableEq, Repr

/-- the style for a text -/
def style (cs : List Char) : Style :=
  let control := cs.any isControl
  let escape := cs.contains '\\'
  let broken := cs.contains '\n'
  if !control && !escape && !cs.contains '"' && !broken then .basic
  else if !control && !cs.contains '\'' && !broken then .literal
  else if !control && !escape && !hasTriple '"' cs then .basicLines
  else if !control && !hasTriple '\'' cs then .literalLines
  else if broken then .basicLines
  else .basic

/-- the escape of a character, if it needs one; line feeds need none in a text of several lines -/
def escape? (lines : Bool) (c : Char) : Option (List Char) :=
  match c with
  | '\x08' => some ['\\', 'b']
  | '\t' => some ['\\', 't']
  | '\n' => if lines then none else some ['\\', 'n']
  | '\x0c' => some ['\\', 'f']
  | '\r' => some ['\\', 'r']
  | '\\' => some ['\\', '\\']
  | c => if isControl c then some ('\\' :: 'u' :: Text.hexDigits 4 c.toNat) else none

/-- a text with escapes; `quotes` double quotes stand right before it, and no more than `most` may stand in a row -/
def escaped (lines : Bool) (most : Nat) : Nat → List Char → List Char
  | _, [] => []
  | quotes, '"' :: rest =>
    if quotes < most then '"' :: escaped lines most (quotes + 1) rest
    else '\\' :: '"' :: escaped lines most 0 rest
  | _, c :: rest => (escape? lines c).getD [c] ++ escaped lines most 0 rest

/-- a line feed after the opening quotes of a text of several lines -/
def firstBreak (cs : List Char) : List Char := if cs.contains '\n' then ['\n'] else []

/-- a text as it is written -/
def written (cs : List Char) : List Char :=
  match style cs with
  | .basic => '"' :: escaped false 0 0 cs ++ ['"']
  | .literal => '\'' :: cs ++ ['\'']
  | .basicLines => ['"', '"', '"'] ++ firstBreak cs ++ escaped true 2 0 cs ++ ['"', '"', '"']
  | .literalLines => ['\'', '\'', '\''] ++ firstBreak cs ++ cs ++ ['\'', '\'', '\'']

/-! ## Reading -/

/-- what the next characters stand for, and how many there are -/
abbrev Piece := List Char × Nat

/-- the character with a code point of a fixed number of hexadecimal digits -/
def coded? (width : Nat) (cs : List Char) : Option Char :=
  let digits := cs.take width
  if digits.length = width then
    (Integer.natural? 16 digits).bind fun n => if n.isValidChar then some (Char.ofNat n) else none
  else none

/-- an escape, after its backslash -/
def escapePiece : List Char → Option Piece
  | 'b' :: _ => some (['\x08'], 1)
  | 't' :: _ => some (['\t'], 1)
  | 'n' :: _ => some (['\n'], 1)
  | 'f' :: _ => some (['\x0c'], 1)
  | 'r' :: _ => some (['\r'], 1)
  | '"' :: _ => some (['"'], 1)
  | '\\' :: _ => some (['\\'], 1)
  | 'u' :: cs => (coded? 4 cs).map fun c => ([c], 5)
  | 'U' :: cs => (coded? 8 cs).map fun c => ([c], 9)
  | _ => none

/-- number of blanks and line breaks at the start -/
def blankLines : List Char → Nat
  | '\r' :: '\n' :: cs => blankLines cs + 2
  | '\n' :: cs => blankLines cs + 1
  | ' ' :: cs => blankLines cs + 1
  | '\t' :: cs => blankLines cs + 1
  | _ => 0

/-- blanks up to a line break and all blanks after it, behind a backslash -/
def joinPiece (cs : List Char) : Option Piece :=
  let blanks := (cs.takeWhile fun c => c == ' ' || c == '\t').length
  match cs.drop blanks with
  | '\n' :: _ | '\r' :: '\n' :: _ => some ([], blankLines cs)
  | _ => none

/-- a line break -/
def breakPiece : List Char → Option Piece
  | '\n' :: _ => some (['\n'], 1)
  | '\r' :: '\n' :: _ => some (['\n'], 2)
  | _ => none

/-- a character that stands for itself -/
def plainPiece : List Char → Option Piece
  | c :: _ => if isPlain c then some ([c], 1) else none
  | [] => none

/-- the next piece of a text with escapes -/
def basicPiece (lines : Bool) : List Char → Option Piece
  | '\\' :: cs =>
    let piece := if lines then (joinPiece cs).or (escapePiece cs) else escapePiece cs
    piece.map fun p => (p.1, p.2 + 1)
  | cs => if lines then (breakPiece cs).or (plainPiece cs) else plainPiece cs

/-- the next piece of a text without escapes -/
def literalPiece (lines : Bool) (cs : List Char) : Option Piece :=
  if lines then (breakPiece cs).or (plainPiece cs) else plainPiece cs

/-- reads a text of one line up to its closing quote -/
def line? (quote : Char) (piece : List Char → Option Piece) : List Char → Option (List Char × List Char)
  | [] => none
  | c :: cs =>
    if c = quote then some ([], cs)
    else
      (piece (c :: cs)).bind fun p =>
        (line? quote piece (cs.drop (p.2 - 1))).map fun r => (p.1 ++ r.1, r.2)
termination_by cs => cs.length
decreasing_by simp only [List.length_cons, List.length_drop]; omega

/-- reads a text of several lines up to its three closing quotes, before which two more may stand -/
def lines? (quote : Char) (piece : List Char → Option Piece) : List Char → Option (List Char × List Char)
  | [] => none
  | c :: cs =>
    if c = quote then
      let n := (cs.takeWhile (· == quote)).length
      if n < 2 then (lines? quote piece (cs.drop n)).map fun r => (List.replicate (n + 1) quote ++ r.1, r.2)
      else if n < 5 then some (List.replicate (n - 2) quote, cs.drop n)
      else none
    else
      (piece (c :: cs)).bind fun p =>
        (lines? quote piece (cs.drop (p.2 - 1))).map fun r => (p.1 ++ r.1, r.2)
termination_by cs => cs.length
decreasing_by all_goals simp only [List.length_cons, List.length_drop]; omega

/-- what follows a line break, if there is one -/
def afterBreak : List Char → List Char
  | '\n' :: cs => cs
  | '\r' :: '\n' :: cs => cs
  | cs => cs

/-- reads a text of any style, and what follows it -/
def text? : List Char → Option (List Char × List Char)
  | '"' :: '"' :: '"' :: cs => lines? '"' (basicPiece true) (afterBreak cs)
  | '"' :: cs => line? '"' (basicPiece false) cs
  | '\'' :: '\'' :: '\'' :: cs => lines? '\'' (literalPiece true) (afterBreak cs)
  | '\'' :: cs => line? '\'' (literalPiece false) cs
  | _ => none

end Trialbook.Toml
