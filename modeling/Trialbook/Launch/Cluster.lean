/-
CLUSTERS: where a process stands among those that run an experiment together.
-/
import Trialbook.Launch.Error
import Trialbook.Text.Blank

namespace Trialbook

/-- the place of a process in a run -/
structure Cluster where
  rank : Nat
  worldSize : Nat
  localRank : Nat
  deriving DecidableEq, Repr

namespace Cluster

/-- a process that runs alone -/
def single : Cluster := ⟨0, 1, 0⟩

/-- a number of 32 bits in a variable, blanks around it allowed -/
def number (lookup : String → Option String) (key : String) (absent : Nat) : Except DispatchError Nat :=
  match lookup key with
  | none => .ok absent
  | some raw =>
    match Integer.readUnsigned? 32 (Text.trim raw.toList) with
    | some n => .ok n
    | none => .error (.badVariable key raw)

/-- the place that environment variables tell -/
def ofVariables (lookup : String → Option String) : Except DispatchError Cluster := do
  let rank ← number lookup "RANK" single.rank
  let worldSize ← number lookup "WORLD_SIZE" single.worldSize
  let localRank ← number lookup "LOCAL_RANK" single.localRank
  return { rank, worldSize, localRank }

end Cluster

end Trialbook
