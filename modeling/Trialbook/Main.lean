/-
MAIN: the program in its surroundings.

Reads the variables of the process, the home of its account and those files that a command can depend on, carries the
command out on them, and writes, prints and ends as its report says.
-/
import Trialbook.CommandLine.Program

namespace Trialbook.Surroundings

/-- what a file holds -/
def content (path : String) : IO Content := do
  match String.fromUTF8? (← IO.FS.readBinFile path) with
  | some text => return .text text
  | none => return .bytes

/-- files with a file, or what a directory holds, put where it is -/
def put (files : Files) (path : String) (node : Node) : Files :=
  let names := Path.names (Path.join files.here path)
  let changed := match node with
    | .directory entries =>
      let add (there : List (String × Node)) : List (String × Node) :=
        entries.foldl (fun held (name, node) => Node.putEntry name node held) there
      (Node.within (fun there => .ok (add there)) names files.top).map fun top => { files with top }
    | .file content => files.write names.dropLast (names.getLast?.getD "") content
  changed.toOption.getD files

/-- what stands at a path; of the files in directories those with an extension -/
partial def node? (extension : String) (path : String) : IO (Option Node) := do
  let place := (← IO.currentDir) / path
  if ← place.isDir then
    let mut entries := []
    for entry in ← place.readDir do
      if !isPassedOver entry.fileName then
        let inner := Path.join path entry.fileName
        if (← entry.path.isDir) || Path.extension? entry.fileName == some extension then
          if let some node ← node? extension inner then
            entries := (entry.fileName, node) :: entries
    return some (.directory entries)
  else if ← place.pathExists then
    return some (.file (← content path))
  else
    return none

/-- adds a file, or an empty directory, where there is one -/
def addOne (files : Files) (path : String) : IO Files := do
  let place := (← IO.currentDir) / path
  if ← place.isDir then return put files path (.directory [])
  else if ← place.pathExists then return put files path (.file (← content path))
  else return files

/-- the variables of the process -/
def environment : IO Environment := do
  let bytes ← IO.FS.readBinFile "/proc/self/environ"
  let pieces := Text.split '\x00' ((String.fromUTF8? bytes).getD "").toList
  return ⟨pieces.filterMap fun piece =>
    let key := piece.takeWhile (· != '=')
    match piece.drop key.length with
    | _ :: value => some (String.ofList key, String.ofList value)
    | [] => none⟩

/-- the home of the account with a number, as the lines of the accounts say -/
def accountHome? (accounts number : String) : Option String :=
  (Text.lines accounts.toList).findSome? fun line =>
    match (Text.split ':' line).map String.ofList with
    | _ :: _ :: own :: _ :: _ :: home :: _ => if own = number && !home.isEmpty then some home else none
    | _ => none

/-- the number of the account that the process runs for, as its status says -/
def accountNumber (status : String) : String :=
  ((Text.lines status.toList).findSome? fun line =>
    match (Text.split '\t' line).map String.ofList with
    | "Uid:" :: number :: _ => some number
    | _ => none).getD ""

/-- the text of a file, and no text if it cannot be read -/
def textOrNone (path : String) : IO String := do
  try IO.FS.readFile path catch _ => return ""

/-- what the process is started with -/
def session : IO Session := do
  let number := accountNumber (← textOrNone "/proc/self/status")
  return { environment := ← environment, accountHome := accountHome? (← textOrNone "/etc/passwd") number }

/-- the files that a command can depend on -/
def files (s : Session) (args : List String) : IO Files := do
  let here := toString (← IO.currentDir)
  let mut files ← addOne ⟨.directory [], here⟩ here
  let mut above := here
  for _ in Path.names here do
    files ← addOne files (Path.join above ".env")
    above := Path.join above ".."
  match Usage.read args with
  | .error _ => return files
  | .ok request =>
    let workspace := Path.join here request.workspace
    files ← addOne files workspace
    if let .inspect path := request.command then
      files ← addOne files path
    for path in Config.paths (Program.session files s) (some workspace) do
      files ← addOne files path
    match Config.load files (Program.session files s) (some workspace) .empty with
    | .error _ => return files
    | .ok config =>
      let root := config.root workspace
      match ← node? config.fileExtension root with
      | some node => return put files root node
      | none => return files

end Trialbook.Surroundings

open Trialbook in
def main (args : List String) : IO UInt32 := do
  let session ← Surroundings.session
  let report := Program.invoke (← Surroundings.files session args) session args
  if let some (path, text) := report.saved then
    if let some parent := ((← IO.currentDir) / path).parent then
      IO.FS.createDirAll parent
    IO.FS.writeFile path text
  IO.print report.output
  IO.eprint report.notice
  return report.code.toUInt32
