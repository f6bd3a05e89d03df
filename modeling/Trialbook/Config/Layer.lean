/-
LAYERS of configuration: what one place says about the settings.

A layer is laid over another key by key. The variables of an environment whose names begin with the program's prefix
form a layer: letter case and blanks at either end of a name do not count, and two underscores or a dot lead into a
table, which is no text.
-/
import Trialbook.Config.Setting
import Trialbook.Environment.Variables
import Trialbook.Text.Blank
import Trialbook.Text.Split

namespace Trialbook

/-- what one place says -/
structure Layer where
  projectName : Option Setting
  declarationsDir : Option Setting
  fileExtension : Option Setting
  deriving DecidableEq, Repr

namespace Layer

/-- says nothing -/
def empty : Layer := ⟨none, none, none⟩

/-- a layer laid over another -/
def above (upper lower : Layer) : Layer :=
  { projectName := upper.projectName.or lower.projectName,
    declarationsDir := upper.declarationsDir.or lower.declarationsDir,
    fileExtension := upper.fileExtension.or lower.fileExtension }

/-- the layer of what stands under each key -/
def ofLookup (lookup : String → Option Setting) : Layer :=
  { projectName := lookup "project_name", declarationsDir := lookup "declarations_dir",
    fileExtension := lookup "file_extension" }

/-- what the program does when nothing is said -/
def standard : Layer := { empty with declarationsDir := some (.text "src"), fileExtension := some (.text "py") }

/-- the layer of a document -/
def ofEntries (entries : Toml.Entries) : Layer := ofLookup fun key => (entries.lookup key).map Setting.ofItem

/-! ## Environments -/

/-- names of the variables that count begin with this, in any letter case -/
def variablePrefix : String := "expkit_"

/-- two underscores as a dot -/
def dotted : List Char → List Char
  | '_' :: '_' :: cs => '.' :: dotted cs
  | c :: cs => c :: dotted cs
  | [] => []

/-- the parts of the key that a variable stands for -/
def keyOf? (name : String) : Option (List String) :=
  let lower := (Text.trim name.toList).map Char.toLower
  if variablePrefix.toList.isPrefixOf lower then
    let parts := Text.split '.' (dotted (lower.drop variablePrefix.length))
    if parts.any List.isEmpty then none else some (parts.map String.ofList)
  else none

/-- what a variable says -/
def ofVariable (name text : String) : Layer :=
  match keyOf? name with
  | some [key] => ofLookup fun k => if k = key then some (Setting.ofVariable text) else none
  | some (key :: _) => ofLookup fun k => if k = key then some .other else none
  | _ => empty

/-- the layer of an environment, later variables over earlier ones -/
def ofEnvironment (e : Environment) : Layer :=
  e.entries.foldl (fun lower v => (ofVariable v.1 v.2).above lower) empty

end Layer

end Trialbook
