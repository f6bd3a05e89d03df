/-
TOKENS: words, symbols and numbers of a declaration file.

A word is a keyword only where the grammar has a place for that keyword; anywhere else it is a name. A symbol is the
longest that fits. A number is the longest run of characters that one of the spellings of integers and floats allows:
digits may be separated by single underscores, integers may be in base sixteen, eight or two or end in `L`, and either
may end in `j`.
-/
import Trialbook.Source.Layout
import Trialbook.Text.NameLetter

namespace Trialbook.Source

/-! ## Words and symbols -/

/-- the word at the start of the characters, empty if there is none -/
def wordOf (cs : List Char) : List Char :=
  match cs with
  | c :: _ => if Text.isNameStart c then cs.takeWhile Text.isNameLetter else []
  | [] => []

/-- symbols, longer ones before those they start with -/
def symbols : List String :=
  ["**=", "//=", ">>=", "<<=", "!=", "<>", "<=", ">=", "==", "->", ":=", "+=", "-=", "*=", "/=", "@=", "%=", "&=",
   "^=", "|=", "**", "//", "<<", ">>", "+", "-", "*", "@", "/", "%", "|", "&", "^", "<", ">", "=", ":", ",", ";", "(",
   ")", "[", "]", "\x7b", "\x7d", ".", "~"]

/-- the symbol at the start of the characters, empty if there is none -/
def symbolOf (cs : List Char) : String :=
  (symbols.find? fun s => s.toList.isPrefixOf cs).getD ""

/-! ## Numbers -/

def isDecimal (c : Char) : Bool := '0' ≤ c && c ≤ '9'

def isHexadecimal (c : Char) : Bool := isDecimal c || ('a' ≤ c && c ≤ 'f') || ('A' ≤ c && c ≤ 'F')

def isOctal (c : Char) : Bool := '0' ≤ c && c ≤ '7'

def isBinary (c : Char) : Bool := c == '0' || c == '1'

/-- length of the digits at the start, an underscore allowed after each run of them -/
def decimalRun : List Char → Nat
  | c :: '_' :: cs => if isDecimal c then 2 + decimalRun cs else 0
  | c :: cs => if isDecimal c then 1 + decimalRun cs else 0
  | [] => 0

/-- length of the digits of a base at the start, an underscore allowed before each run of them -/
def basedRun (isDigit : Char → Bool) : List Char → Nat
  | '_' :: c :: cs => if isDigit c then 2 + basedRun isDigit cs else 0
  | c :: cs => if isDigit c then 1 + basedRun isDigit cs else 0
  | [] => 0

/-- one if the first character is one of those given -/
def suffix (letters : List Char) (cs : List Char) : Nat :=
  if (cs.head?.map letters.contains).getD false then 1 else 0

/-- adds to a length the length of what follows, measured by `f` -/
def andThen (cs : List Char) (n : Nat) (f : List Char → Nat) : Nat := n + f (cs.drop n)

/-- length of an integer in a base other than ten -/
def basedLength (cs : List Char) : Nat :=
  let body (isDigit : Char → Bool) (rest : List Char) : Nat :=
    let n := basedRun isDigit rest
    if n = 0 then 0 else 2 + andThen rest n (suffix ['L', 'l'])
  match cs with
  | '0' :: 'x' :: rest | '0' :: 'X' :: rest => body isHexadecimal rest
  | '0' :: 'o' :: rest | '0' :: 'O' :: rest => body isOctal rest
  | '0' :: 'b' :: rest | '0' :: 'B' :: rest => body isBinary rest
  | _ => 0

/-- length of the integer at the start -/
def integerLength (cs : List Char) : Nat :=
  let n := decimalRun cs
  if n = 0 then 0 else max (basedLength cs) (andThen cs n (suffix ['L', 'l', 'J', 'j']))

/-- length of an exponent part at the start -/
def exponentLength (cs : List Char) : Nat :=
  match cs with
  | c :: rest =>
    if c = 'e' ∨ c = 'E' then
      let s := suffix ['+', '-'] rest
      let n := decimalRun (rest.drop s)
      if n = 0 then 0 else 1 + s + n
    else 0
  | [] => 0

/-- length of the float at the start -/
def floatLength (cs : List Char) : Nat :=
  let whole := decimalRun cs
  let mantissa := match cs.drop whole with
    | '.' :: rest =>
      let frac := decimalRun rest
      if whole = 0 ∧ frac = 0 then 0 else whole + 1 + frac
    | _ => 0
  if mantissa = 0 then
    let e := exponentLength (cs.drop whole)
    if whole = 0 ∨ e = 0 then 0 else andThen cs (whole + e) (suffix ['j', 'J'])
  else andThen cs (andThen cs mantissa exponentLength) (suffix ['j', 'J'])

/-! ## Readers -/

namespace Reads

/-- what comes next -/
def peek (e : Expected) : Reads Upcoming := do return upcoming e (← get)

/-- the characters of the next ordinary token, none if a layout token or a string comes -/
def ahead (e : Expected) : Reads (List Char) := do
  match ← peek e with
  | .token there => return there.rest
  | _ => return []

/-- moves to the next ordinary token -/
def toToken (e : Expected) : Reads Unit := do
  match ← peek e with
  | .token there => set there
  | _ => failure

/-- reads a symbol, if it comes next -/
def trySymbol (e : Expected) (s : String) : Reads Bool := do
  match ← peek e with
  | .token there =>
    if symbolOf there.rest = s then
      set (there.skip s.length)
      return true
    else return false
  | _ => return false

/-- reads a symbol that must come next -/
def symbol (e : Expected) (s : String) : Reads Unit := do
  if ← trySymbol e s then return () else failure

/-- reads a closing symbol, if it comes next, and moves to what comes next if it does not -/
def tryClosing (e : Expected) (s : String) : Reads Bool := do
  match ← peek e with
  | .token there =>
    if symbolOf there.rest = s then
      set (there.skip s.length)
      return true
    else
      set there
      return false
  | .string there =>
    set there
    return false
  | _ => failure

/-- the word that comes next, empty if none does -/
def aheadWord (e : Expected) : Reads String := do
  return String.ofList (wordOf (← ahead e))

/-- reads any word -/
def word (e : Expected) : Reads String := do
  toToken e
  let w := wordOf (← get).rest
  if w.isEmpty then failure
  skip w.length
  return String.ofList w

/-- reads a keyword, if it comes next -/
def tryWord (e : Expected) (k : String) : Reads Bool := do
  if (← aheadWord e) = k then
    let _ ← word e
    return true
  else return false

/-- reads a keyword that must come next -/
def keyword (e : Expected) (k : String) : Reads Unit := do
  if ← tryWord e k then return () else failure

/-- reads the end of a statement -/
def lineEnd : Reads Unit := do
  match ← peek .lineEnd with
  | .newline => return ()
  | _ => failure

end Reads

end Trialbook.Source
