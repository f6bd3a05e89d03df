/-
FAILURES: everything that can go wrong, by the part of the work that it goes wrong in.

`detail` says what went wrong, `message` also says in which part.
-/
import Trialbook.Declaration.Extraction
import Trialbook.Files.Tree
import Trialbook.Launch.Error
import Trialbook.Registry.Error

namespace Trialbook

/-- what went wrong -/
inductive Failure where
  | spec (e : SpecError)
  | declaration (e : DeclarationError)
  | extraction (e : ExtractError)
  | dispatch (e : DispatchError)
  | file (e : FileError)
  deriving DecidableEq, Repr

namespace Failure

def detail : Failure → String
  | spec e => e.message
  | declaration e => e.message
  | extraction e => e.message
  | dispatch e => e.message
  | file e => e.message

/-- the part of the work -/
def part : Failure → String
  | spec _ => "Invalid spec"
  | declaration _ => "Declaration error"
  | extraction _ => "Extraction error"
  | dispatch _ => "Dispatch error"
  | file _ => "IO error"

def message (f : Failure) : String := f.part ++ ": " ++ f.detail

end Failure

end Trialbook
