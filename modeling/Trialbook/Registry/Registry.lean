/-
REGISTRIES: experiments under unique names, in the order they were registered.

Experiments are only ever added. An index finds the position of a name; a registry carries the proof that it holds the
positions of exactly the registered names, so no position is out of range and no name stands twice. Registering a chain
binds its entry under a name, puts the seed parameter first unless the chain declares one, and leaves the registry as it
was when the entry or the name is refused.
-/
import Trialbook.Registry.Chain
import Trialbook.Table

namespace Trialbook

/-- a registered experiment -/
structure Experiment where
  name : String
  parameters : List Spec
  /-- what runs it; none for one that is only data -/
  entry : Option Entry

namespace Experiment

/-- an experiment that is only data -/
def ofDeclared (d : Declared) : Experiment := ⟨d.name, d.parameters, none⟩

def isBound (e : Experiment) : Bool := e.entry.isSome

def param? (e : Experiment) (name : String) : Option Spec := e.parameters.find? fun p => p.name == name

def diagnostic (e : Experiment) : String :=
  diagnosticRecord "Experiment"
    [("name", Text.quoted e.name), ("parameters", diagnosticList (e.parameters.map Spec.diagnostic)),
     ("bound", Json.truth e.isBound)]

end Experiment

/-- experiments in the order of their registration, and where each name stands among them -/
structure Registry where
  experiments : List Experiment
  index : Table Nat
  /-- the index has the position of every name, and nothing else -/
  indexed (name : String) (i : Nat) :
    index.get? name = some i ↔ (experiments.map Experiment.name)[i]? = some name

namespace Registry

def empty : Registry := ⟨[], .empty, by simp⟩

def names (r : Registry) : List String := r.experiments.map Experiment.name

/-- position of the experiment with a name -/
def position? (r : Registry) (name : String) : Option Nat := r.index.get? name

/-- the experiment with a name -/
def get? (r : Registry) (name : String) : Option Experiment :=
  (r.position? name).bind fun i => r.experiments[i]?

def contains (r : Registry) (name : String) : Bool := (r.position? name).isSome

def size (r : Registry) : Nat := r.experiments.length

def isEmpty (r : Registry) : Bool := r.experiments.isEmpty

theorem position?_eq_some_iff {r : Registry} {name : String} {i : Nat} :
    r.position? name = some i ↔ r.names[i]? = some name :=
  r.indexed name i

theorem contains_iff {r : Registry} {name : String} : r.contains name = true ↔ name ∈ r.names := by
  rw [contains, Option.isSome_iff_exists, List.mem_iff_getElem?]
  exact exists_congr fun i => position?_eq_some_iff

/-- a new experiment takes the position after all others -/
theorem indexed_push (r : Registry) {e : Experiment} (fresh : e.name ∉ r.names) (name : String) (i : Nat) :
    (r.index.insert e.name r.experiments.length).get? name = some i ↔
      ((r.experiments ++ [e]).map Experiment.name)[i]? = some name := by
  rw [Table.get?_insert, List.map_append, List.getElem?_append, List.length_map]
  by_cases own : name = e.name
  · subst own
    have unused (j : Nat) : (r.experiments.map Experiment.name)[j]? ≠ some e.name := fun at_j =>
      fresh (List.mem_iff_getElem?.2 ⟨j, at_j⟩)
    by_cases before : i < r.experiments.length
    · simp only [if_true, if_pos before, unused, iff_false, Option.some.injEq]
      omega
    · simp only [if_true, if_neg before, Option.some.injEq, List.map_cons, List.map_nil, List.getElem?_singleton]
      by_cases last : i = r.experiments.length
      · simp [last]
      · rw [if_neg (by omega)]
        simpa using Ne.symm last
  · rw [if_neg own, r.indexed]
    by_cases before : i < r.experiments.length
    · rw [if_pos before]
    · have beyond : (r.experiments.map Experiment.name)[i]? = none :=
        List.getElem?_eq_none (by rw [List.length_map]; omega)
      rw [beyond, if_neg before, List.map_cons, List.map_nil, List.getElem?_singleton]
      split
      · simp [Ne.symm own]
      · rfl

/-- puts an experiment under a new name after all others -/
def push (r : Registry) (e : Experiment) (fresh : e.name ∉ r.names) : Registry :=
  ⟨r.experiments ++ [e], r.index.insert e.name r.experiments.length, r.indexed_push fresh⟩

/-- adds an experiment under a name that is free -/
def insert (r : Registry) (e : Experiment) : Except DeclarationError Registry :=
  if taken : r.contains e.name = true then .error (.duplicateExperiment e.name)
  else .ok (r.push e (mt contains_iff.2 taken))

/-- registers a chain under a name -/
def register (r : Registry) (name : String) (seed : Option Int64) (c : Chain) : Except DeclarationError Registry := do
  c.entry.checkArity .experiment
  r.insert ⟨name, withSeed seed c.declared, some c.entry⟩

end Registry

end Trialbook
