/-
DISPATCH ERRORS: why a request did not lead to a run that succeeded.
-/
import Trialbook.Param.Spec

namespace Trialbook

/-- how an entry failed: what it reports, and what that came from, the nearest cause first -/
structure EntryFailure where
  message : String
  causes : List String
  deriving DecidableEq, Repr

/-- an entry's failure with all its causes -/
def EntryFailure.fullMessage (e : EntryFailure) : String := String.intercalate ": " (e.message :: e.causes)

/-- why a dispatch failed -/
inductive DispatchError where
  | emptyField (field : String)
  | tooFewRepeats (n : Int64)
  | badVariable (key raw : String)
  | experimentNotFound (name : String)
  | missingRequired (name : String)
  | invalidValue (name : String) (fault : InputFault)
  | entryFailed (name : String) (failure : EntryFailure)
  deriving DecidableEq, Repr

def DispatchError.message : DispatchError → String
  | emptyField field => s!"invalid arguments: {field} must not be empty"
  | tooFewRepeats n => s!"invalid arguments: max_repeats must be -1 or greater, got {Integer.text n.toInt}"
  | badVariable key raw => s!"invalid arguments: {key}={Text.quoted raw} is not a non-negative integer"
  | experimentNotFound name => s!"experiment '{name}' not found"
  | missingRequired name => s!"required argument '{name}' not provided"
  | invalidValue name fault => s!"invalid value for '{name}': {fault.reason}"
  | entryFailed name failure => s!"experiment '{name}' failed: {failure.message}"

end Trialbook
