/-
NAMES of experiments and parameters: one to twenty characters, a letter or underscore followed by letters, digits and
underscores, all of seven bits.
-/
namespace Trialbook.Name

/-- the longest name -/
def maxLength : Nat := 20

/-- a letter of seven bits or an underscore -/
def isStart (c : Char) : Bool := c.isAlpha || c == '_'

/-- a letter or digit of seven bits or an underscore -/
def isLetter (c : Char) : Bool := c.isAlphanum || c == '_'

/-- a letter or underscore, then letters, digits and underscores -/
def isWord : List Char → Bool
  | [] => false
  | c :: cs => isStart c && cs.all isLetter

/-- what is wrong with a name -/
inductive Fault where
  | length
  | letters
  deriving DecidableEq, Repr

/-- the first thing that is wrong with a name; the length counts characters -/
def fault? (name : String) : Option Fault :=
  if name.length < 1 ∨ maxLength < name.length then some .length
  else if isWord name.toList then none
  else some .letters

end Trialbook.Name
