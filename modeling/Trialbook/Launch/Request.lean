/-
REQUESTS: which experiment to run, under which names, how often, and with what.
-/
import Trialbook.Launch.Error

namespace Trialbook

/-- a request to run an experiment -/
structure Request where
  project : String
  experiment : String
  run : String
  /-- `-1` repeats without limit -/
  maxRepeats : Int64
  arguments : List String
  deriving DecidableEq, Repr

/-- refuses a request in which a name is empty or the number of repeats is below `-1` -/
def Request.check (r : Request) : Except DispatchError Unit :=
  if r.experiment.isEmpty then .error (.emptyField "experiment_name")
  else if r.project.isEmpty then .error (.emptyField "project_name")
  else if r.run.isEmpty then .error (.emptyField "run_name")
  else if r.maxRepeats.toInt < -1 then .error (.tooFewRepeats r.maxRepeats)
  else .ok ()

end Trialbook
