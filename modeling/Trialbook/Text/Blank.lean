/-
BLANK CHARACTERS: spaces, tabs and line breaks of every script, and texts without them at either end.
-/
import Trialbook.Text.CodeRange

namespace Trialbook.Text

/-- white space in the sense of the character standard -/
def blankRanges : List (Nat × Nat) :=
  [(9, 13), (32, 32), (133, 133), (160, 160), (5760, 5760), (8192, 8202), (8232, 8233), (8239, 8239), (8287, 8287),
   (12288, 12288)]

def isBlank (c : Char) : Bool := inRanges blankRanges c.toNat

/-- a text without the blanks at its ends -/
def trim (cs : List Char) : List Char :=
  ((cs.dropWhile isBlank).reverse.dropWhile isBlank).reverse

end Trialbook.Text
