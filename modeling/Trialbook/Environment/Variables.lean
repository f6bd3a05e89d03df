/-
ENVIRONMENTS: the variables that a process is started with, in order, and those that are set later.

A session is an environment and the account that the process runs for, whose home directory counts where no variable
names one.
-/
namespace Trialbook

/-- variables by their names, in order -/
structure Environment where
  entries : List (String × String)
  deriving DecidableEq, Repr

namespace Environment

/-- the text of a variable -/
def get? (e : Environment) (key : String) : Option String := e.entries.lookup key

/-- sets a variable unless it is set -/
def provide (e : Environment) (key value : String) : Environment :=
  if (e.get? key).isSome then e else ⟨e.entries ++ [(key, value)]⟩

end Environment

/-- what a process is started with -/
structure Session where
  environment : Environment
  /-- the home directory of the account, if it has one -/
  accountHome : Option String
  deriving DecidableEq, Repr

/-- variables alone, of an account that has no home directory -/
instance : Coe Environment Session := ⟨fun e => ⟨e, none⟩⟩

/-- the home directory: what the variable says, if anything, else that of the account -/
def Session.home? (s : Session) : Option String :=
  match s.environment.get? "HOME" with
  | some home => if home.isEmpty then s.accountHome else some home
  | none => s.accountHome

end Trialbook
