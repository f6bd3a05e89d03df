/-
REPORTS: what a run of the program leaves behind, and how it tells of errors.

An error is told with its causes, each indented, and numbered when there are several.
-/
import Trialbook.Config.Config
import Trialbook.Failure
import Trialbook.Text.Split

namespace Trialbook

/-- an error, and what it came from, the nearest cause first -/
structure Complaint where
  message : String
  causes : List String
  deriving DecidableEq, Repr

namespace Complaint

def ofFailure (f : Failure) : Complaint :=
  match f with
  | .dispatch (.entryFailed _ e) => ⟨f.message, f.detail :: e.message :: e.causes⟩
  | _ => ⟨f.message, [f.detail]⟩

def ofConfig (e : ConfigError) : Complaint := ⟨s!"Failed to load config: {e.message}", []⟩

/-- a text behind a label, further lines indented -/
def indented (label indent text : String) : String :=
  label ++ String.intercalate ("\n" ++ indent) ((Text.split '\n' text.toList).map String.ofList)

/-- a number on five places -/
def place (n : Nat) : String :=
  let digits := Nat.repr n
  String.ofList (List.replicate (5 - digits.length) ' ') ++ digits ++ ": "

/-- causes, each on lines of its own -/
def causeLines : List String → List String
  | [] => []
  | [cause] => [indented "    " "    " cause]
  | causes => causes.mapIdx fun i cause => indented (place i) "       " cause

def text (c : Complaint) : String :=
  "Error: " ++ c.message ++
    (if c.causes.isEmpty then "" else "\n\nCaused by:\n" ++ String.intercalate "\n" (causeLines c.causes)) ++ "\n"

end Complaint

/-- what a run of the program leaves behind -/
structure Report where
  /-- zero for success, one for an error, two for misuse -/
  code : Nat
  output : String
  /-- what is told apart from the output -/
  notice : String
  files : Files
  /-- the file that was written: its path and its text -/
  saved : Option (String × String)

end Trialbook
