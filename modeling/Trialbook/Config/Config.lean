/-
CONFIGURATION of a project: its name, and which files hold its declarations.

`Config.load` lays what is said one over the other: the standard settings, the user's file, the project's file, the
environment, and what the caller gives. Each setting comes from the highest layer that has it, and must be a text.
`Config.check` then refuses an empty directory or extension, takes leading dots from the extension, and takes an empty
name for none. `Config.written` is the text of the project's file.
-/
import Trialbook.Config.Layer
import Trialbook.Files.Tree

namespace Trialbook

/-- settings of a project -/
structure Config where
  projectName : Option String
  /-- where declaration files are, from the project's directory unless absolute -/
  declarationsDir : String
  fileExtension : String
  deriving DecidableEq, Repr

/-- why there is no configuration -/
inductive ConfigError where
  | unreadable
  | missingField (field : String)
  deriving DecidableEq, Repr

def ConfigError.message : ConfigError → String
  | unreadable => "Configuration parse error"
  | missingField field => s!"Missing required field: {field}"

namespace Config

def standard : Config := ⟨none, "src", "py"⟩

/-- refuses empty settings and normalises the others -/
def check (c : Config) : Except ConfigError Config :=
  let extension := String.ofList (c.fileExtension.toList.dropWhile (· == '.'))
  if c.declarationsDir.isEmpty then .error (.missingField "declarations_dir")
  else if extension.isEmpty then .error (.missingField "file_extension")
  else .ok { c with fileExtension := extension, projectName := c.projectName.filter fun s => !s.isEmpty }

/-! ## Places -/

/-- the directory of the declaration files -/
def root (workspace : String) (c : Config) : String := Path.join workspace c.declarationsDir

/-- the name of the project, else of its directory -/
def resolvedName (files : Files) (workspace : String) (c : Config) : Option String :=
  match c.projectName with
  | some name => some name
  | none =>
    match files.find workspace with
    | .ok place => place.name?
    | .error _ => Path.name? workspace

/-- the project's file -/
def path (workspace : String) : String := Path.join (Path.join workspace ".expkit") "config.toml"

/-- the directory of users' files, for a user with that home -/
def userDirectory (e : Environment) (home : String) : String :=
  match e.get? "XDG_CONFIG_HOME" with
  | some dir => if Path.isAbsolute dir then dir else Path.join home ".config"
  | none => Path.join home ".config"

/-- the user's file; none without a home, wherever users' files are -/
def userPath? (s : Session) : Option String :=
  s.home?.map fun home => Path.join (Path.join (userDirectory s.environment home) "expkit") "config.toml"

/-- the files that count, the user's first -/
def paths (s : Session) (workspace : Option String) : List String :=
  (userPath? s).toList ++ (workspace.map path).toList

/-- whether there is a file that counts -/
def isThere (files : Files) (s : Session) (workspace : Option String) : Bool :=
  (paths s workspace).any files.isThere

/-! ## Loading -/

/-- the layer of a file; what is no file says nothing -/
def fileLayer (files : Files) (path : String) : Except ConfigError Layer :=
  if files.isFile path then
    match files.readText path with
    | .error _ => .error .unreadable
    | .ok text =>
      match Toml.Document.read? text with
      | some entries => .ok (Layer.ofEntries entries)
      | none => .error .unreadable
  else .ok .empty

/-- the text of a setting -/
def text : Setting → Except ConfigError String
  | .text s => .ok s
  | .other => .error .unreadable

/-- the configuration of all layers together, which must have all that is required -/
def ofLayer (l : Layer) : Except ConfigError Config := do
  let projectName ← l.projectName.mapM text
  let declarationsDir ← text (l.declarationsDir.getD .other)
  let fileExtension ← text (l.fileExtension.getD .other)
  return { projectName, declarationsDir, fileExtension }

/-- the configuration that all places give together -/
def load (files : Files) (s : Session) (workspace : Option String) (overrides : Layer) :
    Except ConfigError Config := do
  let layers ← (paths s workspace).mapM (fileLayer files)
  let lower := layers.foldl (fun lower upper => upper.above lower) Layer.standard
  check (← ofLayer (overrides.above ((Layer.ofEnvironment s.environment).above lower)))

/-! ## Writing -/

/-- a line of the project's file -/
def line (key value : String) : List Char := key.toList ++ " = ".toList ++ Toml.written value.toList ++ ['\n']

/-- the text of the project's file -/
def written (c : Config) : String :=
  String.ofList <|
    ((c.projectName.map (line "project_name")).getD []) ++ line "declarations_dir" c.declarationsDir
      ++ line "file_extension" c.fileExtension

/-- writes the project's file, and makes its directory and those above it -/
def save (files : Files) (workspace : String) (c : Config) : Except FileError Files := do
  let (files, names) ← files.makePath workspace
  files.write (names ++ [".expkit"]) "config.toml" (.text c.written)

end Config

end Trialbook
