/-
SPLIT TEXTS: the pieces of a text between separators, and its lines.
-/
namespace Trialbook.Text

/-- the pieces between occurrences of a separator, one more than there are occurrences -/
def split (separator : Char) : List Char → List (List Char)
  | [] => [[]]
  | c :: cs =>
    if c = separator then [] :: split separator cs
    else match split separator cs with
      | piece :: pieces => (c :: piece) :: pieces
      | [] => [[c]]

/-- a line without the carriage return at its end -/
def withoutReturn (line : List Char) : List Char :=
  if line.getLast? = some '\r' then line.dropLast else line

/-- the lines of a text, each ended by a line feed, with or without a carriage return before it -/
def lines (cs : List Char) : List (List Char) :=
  let pieces := split '\n' cs
  match pieces.getLast? with
  | some [] => pieces.dropLast.map withoutReturn
  | some last => pieces.dropLast.map withoutReturn ++ [last]
  | none => []

end Trialbook.Text
