/-
FILE TREES: directories and files, and where paths lead in them.

A path is followed part by part, from the top if it is absolute, else from the directory of the process; every part can
only be followed from a directory. `Files.readText` reads a file as a text, `Files.write` puts a file where plain names
lead from the top and makes the directories on the way.
-/
import Trialbook.Files.Path

namespace Trialbook

/-- what a file holds -/
inductive Content where
  | text (s : String)
  /-- bytes that encode no text -/
  | bytes
  deriving DecidableEq, Repr

/-- a file, or a directory with what it holds by name -/
inductive Node where
  | file (content : Content)
  | directory (entries : List (String × Node))

/-- why a file cannot be read or written -/
inductive FileError where
  | notFound
  | notADirectory
  | isADirectory
  | alreadyExists
  | notText
  deriving DecidableEq, Repr

def FileError.message : FileError → String
  | notFound => "No such file or directory (os error 2)"
  | alreadyExists => "File exists (os error 17)"
  | notADirectory => "Not a directory (os error 20)"
  | isADirectory => "Is a directory (os error 21)"
  | notText => "stream did not contain valid UTF-8"

def Node.isDirectory : Node → Bool
  | .directory _ => true
  | .file _ => false

/-! ## Following paths -/

/-- a node and the nodes above it -/
structure Place where
  top : Node
  /-- names on the way from the top, the last first, each with the node it leads to -/
  trail : List (String × Node)

namespace Place

def node (p : Place) : Node :=
  match p.trail with
  | (_, n) :: _ => n
  | [] => p.top

/-- names on the way from the top -/
def names (p : Place) : List String := (p.trail.map Prod.fst).reverse

/-- the path from the top, without detours -/
def path (p : Place) : String :=
  if p.trail.isEmpty then "/" else String.join (p.names.map fun name => "/" ++ name)

/-- the name in the directory above -/
def name? (p : Place) : Option String := p.trail.head?.map Prod.fst

/-- follows one part of a path -/
def follow (p : Place) (part : String) : Except FileError Place :=
  match p.node with
  | .file _ => .error .notADirectory
  | .directory entries =>
    if Path.isStay part then .ok p
    else if part = ".." then .ok { p with trail := p.trail.tail }
    else match entries.lookup part with
      | some n => .ok { p with trail := (part, n) :: p.trail }
      | none => .error .notFound

end Place

/-- files, as a process sees them -/
structure Files where
  top : Node
  /-- the directory that paths start from, as a path from the top -/
  here : String

namespace Files

/-- where a path leads -/
def find (files : Files) (path : String) : Except FileError Place :=
  if path.isEmpty then .error .notFound
  else (Path.parts (Path.join files.here path)).foldlM Place.follow ⟨files.top, []⟩

def isThere (files : Files) (path : String) : Bool := (files.find path).isOk

/-- whether a path leads to a directory -/
def isDirectory (files : Files) (path : String) : Bool :=
  match files.find path with
  | .ok p => p.node.isDirectory
  | .error _ => false

/-- whether a path leads to a file -/
def isFile (files : Files) (path : String) : Bool :=
  match files.find path with
  | .ok p => !p.node.isDirectory
  | .error _ => false

/-- the text in the file at a path -/
def readText (files : Files) (path : String) : Except FileError String := do
  match (← files.find path).node with
  | .file (.text s) => return s
  | .file .bytes => throw .notText
  | .directory _ => throw .isADirectory

end Files

/-! ## Writing -/

namespace Node

/-- puts a node under a name, in the place of one that is there -/
def putEntry (name : String) (n : Node) : List (String × Node) → List (String × Node)
  | [] => [(name, n)]
  | (k, m) :: rest => if k = name then (k, n) :: rest else (k, m) :: putEntry name n rest

/-- makes the directories that names lead through, and changes what the last of them holds -/
def within (change : List (String × Node) → Except FileError (List (String × Node))) :
    List String → Node → Except FileError Node
  | [], .file _ => .error .alreadyExists
  | _ :: _, .file _ => .error .notADirectory
  | [], .directory entries => directory <$> change entries
  | name :: names, .directory entries => do
    let inner ← within change names ((entries.lookup name).getD (.directory []))
    return .directory (putEntry name inner entries)

end Node

namespace Files

/-- makes the directory at a path from the top, and those above it -/
def makeDirectory (files : Files) (names : List String) : Except FileError Files := do
  return { files with top := ← Node.within .ok names files.top }

/-- makes the directory of a name, unless there is one -/
def makeEntry (name : String) (entries : List (String × Node)) : Except FileError (List (String × Node)) :=
  match entries.lookup name with
  | some (.file _) => .error .notADirectory
  | some (.directory _) => .ok entries
  | none => .ok (Node.putEntry name (.directory []) entries)

/-- goes on with one part of a path, given the names so far, and makes the directory that it leads to -/
def enter (reached : Files × List String) (part : String) : Except FileError (Files × List String) :=
  let (files, names) := reached
  if Path.isStay part then .ok reached
  else if part = ".." then .ok (files, names.dropLast)
  else do return ({ files with top := ← Node.within (makeEntry part) names files.top }, names ++ [part])

/-- makes the directory at a path and those that the path leads through, and gives its names from the top -/
def makePath (files : Files) (path : String) : Except FileError (Files × List String) :=
  (Path.parts (Path.join files.here path)).foldlM enter (files, [])

/-- puts a file under a name, in the place of one that is there -/
def putFile (name : String) (content : Content) (entries : List (String × Node)) :
    Except FileError (List (String × Node)) :=
  match entries.lookup name with
  | some (.directory _) => .error .isADirectory
  | _ => .ok (Node.putEntry name (.file content) entries)

/-- puts a file into the directory at a path from the top, which is made if need be -/
def write (files : Files) (names : List String) (name : String) (content : Content) : Except FileError Files := do
  return { files with top := ← Node.within (putFile name content) names files.top }

end Files

end Trialbook
