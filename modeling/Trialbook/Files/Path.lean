/-
PATHS: texts that name files, parts between slashes.

Paths stay as they are given: joining adds at most one slash, and an absolute path joined to another replaces it.
-/
import Trialbook.Text.Split

namespace Trialbook.Path

/-- the parts of a path between slashes -/
def parts (path : String) : List String := (Text.split '/' path.toList).map String.ofList

def isAbsolute (path : String) : Bool := path.toList.head? == some '/'

/-- the path of `name` in the directory `base` -/
def join (base name : String) : String :=
  if isAbsolute name then name
  else if base.isEmpty || base.toList.getLast? == some '/' then base ++ name
  else base ++ "/" ++ name

/-- the part of a file name after its last dot, if anything stands before that dot -/
def extension? (name : String) : Option String :=
  let reversed := name.toList.reverse
  let after := reversed.takeWhile (· != '.')
  match reversed.drop after.length with
  | _ :: before => if before.isEmpty then none else some (String.ofList after.reverse)
  | [] => none

/-- whether a part only stays where it is -/
def isStay (part : String) : Bool := part == "" || part == "."

/-- the names that an absolute path leads through, each way up taking back the name before it -/
def names (path : String) : List String :=
  ((parts path).foldl (fun way part =>
    if isStay part then way else if part = ".." then way.tail else part :: way) []).reverse

/-- the last name on a path -/
def name? (path : String) : Option String :=
  match ((parts path).filter fun part => !isStay part).getLast? with
  | some ".." => none
  | last => last

/-- the rest of parts that begin with given names -/
def strip? : List String → List String → Option (List String)
  | names, [] => if names.isEmpty then some [] else none
  | names, part :: parts =>
    if isStay part then strip? names parts
    else match names with
      | [] => some (part :: parts)
      | name :: names => if name = part then strip? names parts else none

/-- a path as seen from a directory that it leads through, else the path itself -/
def relativeTo (base path : String) : String :=
  match strip? ((parts base).filter fun part => !isStay part) (parts path) with
  | some rest => String.intercalate "/" rest
  | none => path

end Trialbook.Path
