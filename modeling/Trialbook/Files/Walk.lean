/-
WALKS: the declaration files at or below a directory.

`declarationFiles` lists the files with an extension. Below its start a walk passes over every name that begins with a
dot or is the name of a cache directory, and all that stands under it. The list is in the order of the paths, part by
part, so the order in which directories hold their entries has no bearing on it.
-/
import Trialbook.Files.Tree

namespace Trialbook

/-- names that a walk passes over -/
def isPassedOver (name : String) : Bool := name.toList.head? == some '.' || name == "__pycache__"

namespace Node

mutual

/-- names on the way to each file at or below a node -/
def walk : Node → List (List String)
  | .file _ => [[]]
  | .directory entries => walkEntries entries

def walkEntries : List (String × Node) → List (List String)
  | [] => []
  | (name, n) :: rest => (if isPassedOver name then [] else n.walk.map (name :: ·)) ++ walkEntries rest

end

end Node

/-- the declaration files at or below `start`, in the order of their paths -/
def Files.declarationFiles (files : Files) (start extension : String) : List String :=
  match files.find start with
  | .error _ => []
  | .ok place =>
    let hasExtension (way : List String) : Bool :=
      (way.getLast?.or (Path.name? start)).bind Path.extension? == some extension
    let ways := (place.node.walk.filter hasExtension).mergeSort fun a b => !decide (b < a)
    ways.map fun way => way.foldl Path.join start

end Trialbook
