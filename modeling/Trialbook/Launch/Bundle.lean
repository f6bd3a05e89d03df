/-
BUNDLES: what an experiment's entry is given.
-/
import Trialbook.Launch.Cluster
import Trialbook.Table

namespace Trialbook

/-- the run that a bundle is for -/
structure RunContext where
  experiment : String
  project : String
  run : String
  cluster : Cluster
  deriving DecidableEq, Repr

/-- the values of an experiment's parameters in one run -/
structure Bundle where
  context : RunContext
  values : Table Value
  deriving DecidableEq, Repr

namespace Value

def str? : Value → Option String
  | str s => some s
  | _ => none

def int? : Value → Option Int64
  | int i => some i
  | _ => none

def float? : Value → Option Binary64
  | float x => some x
  | _ => none

def bool? : Value → Option Bool
  | bool b => some b
  | _ => none

end Value

namespace Bundle

def get? (b : Bundle) (name : String) : Option Value := b.values.get? name

def size (b : Bundle) : Nat := b.values.entries.length

def isEmpty (b : Bundle) : Bool := b.values.entries.isEmpty

def toJson (b : Bundle) : Json :=
  .obj
    [("context", .obj
      [("experiment_name", .str b.context.experiment), ("project_name", .str b.context.project),
       ("run_name", .str b.context.run), ("rank", .int b.context.cluster.rank),
       ("world_size", .int b.context.cluster.worldSize), ("local_rank", .int b.context.cluster.localRank)]),
     ("params", .obj (b.values.entries.map fun e => (e.1, e.2.toJson)))]

end Bundle

end Trialbook
