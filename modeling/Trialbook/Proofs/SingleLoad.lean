/-
SINGLE LOADS: over the whole life of a launcher its declarations are carried out at most once.

An execution is one carrying out of one of the declarations (`Execution`); `Launcher.executions` lists those of a run.
`InTurn` says how declarations are carried out in order: each on the registry that those before it left, up to the first
that fails.

Results:
- `Loading.inTurn`: going through declarations carries them out in turn.
- `Launcher.frozen_of_loaded`: a launcher that has loaded never changes, carries nothing out, and answers a request in
  one way only.
- `sources_run_once`: a fresh launcher stays as it is up to the first step that loads, which carries the declarations out
  in turn; from then on it is frozen.
-/
import Trialbook.Proofs.Launches
import Trialbook.Proofs.Stacks

namespace Trialbook

/-! ## Executions -/

/-- one carrying out of declarations: the registry they were given, and what they made of it -/
structure Execution where
  source : Declarations
  before : Registry
  after : Loading

/-- declarations carried out one after the other from a registry on, and what that comes to: each goes on from what the
one before it left, and the first that fails is the last -/
inductive InTurn (files : Files) : Registry → List Declarations → List Execution → Loading → Prop where
  | done (r : Registry) : InTurn files r [] [] (.start r)
  | fails {r : Registry} {d : Declarations} (ds : List Declarations) {x : Loading} :
    (Loading.start r).add files d = x → x.failure ≠ none → InTurn files r (d :: ds) [⟨d, r, x⟩] x
  | goesOn {r s : Registry} {d : Declarations} {ds : List Declarations} {log : List Execution} {x : Loading} :
    (Loading.start r).add files d = .start s → InTurn files s ds log x →
    InTurn files r (d :: ds) (⟨d, r, .start s⟩ :: log) x

namespace InTurn

variable {files : Files} {r : Registry} {ds : List Declarations} {log : List Execution} {x : Loading}

theorem order (h : InTurn files r ds log x) : log.map Execution.source <+: ds := by
  induction h with
  | done r => exact List.prefix_refl _
  | fails ds _ _ => exact ⟨ds, rfl⟩
  | goesOn _ _ ih => exact List.cons_prefix_cons.2 ⟨rfl, ih⟩

theorem stops (h : InTurn files r ds log x) {before after : List Execution} {a : Execution}
    (split : log = before ++ a :: after) (failed : a.after.failure ≠ none) : after = [] := by
  induction h generalizing before with
  | done r => cases before <;> cases split
  | fails ds _ _ =>
    cases before with
    | nil => cases split; rfl
    | cons b before => cases before <;> cases split
  | goesOn _ _ ih =>
    cases before with
    | nil => cases split; exact absurd rfl failed
    | cons b before =>
      cases split
      exact ih rfl

end InTurn

namespace Loading

/-- the executions by which a loading goes through declarations -/
def executions (files : Files) (x : Loading) : List Declarations → List Execution
  | [] => []
  | d :: ds =>
    if x.failure.isSome then [] else ⟨d, x.registry, x.add files d⟩ :: executions files (x.add files d) ds

/-- going through declarations carries them out in turn -/
theorem inTurn (files : Files) (r : Registry) (ds : List Declarations) :
    InTurn files r ds ((start r).executions files ds) (ds.foldl (add files) (start r)) := by
  induction ds generalizing r with
  | nil => exact .done r
  | cons d ds ih =>
    rw [List.foldl_cons, executions, if_neg (by simp [start])]
    by_cases failed : ((start r).add files d).failure = none
    · have next : (start r).add files d = start ((start r).add files d).registry := eq_start failed
      rw [next]
      exact .goesOn next (ih _)
    · have fixed : ds.foldl (add files) ((start r).add files d) = (start r).add files d :=
        List.foldl_fixed' (add_of_failure failed) ds
      have none : ((start r).add files d).executions files ds = [] := by
        cases ds with
        | nil => rfl
        | cons e ds => rw [executions, if_pos (Option.isSome_iff_ne_none.2 failed)]
      rw [fixed, none]
      exact .fails ds rfl failed

end Loading

/-! ## Steps -/

namespace Launcher

/-- the executions of a step -/
def stepExecutions (l : Launcher) (s : Step) : List Execution :=
  if s.Loads ∧ l.loaded = false then (Loading.start l.registry).executions s.files l.sources else []

/-- the executions of a run -/
def executions (l : Launcher) : List Step → List Execution
  | [] => []
  | s :: steps => l.stepExecutions s ++ executions (l.step s) steps

theorem executions_append (l : Launcher) (steps more : List Step) :
    l.executions (steps ++ more) = l.executions steps ++ (l.run steps).executions more := by
  induction steps generalizing l with
  | nil => rfl
  | cons s steps ih =>
    rw [List.cons_append, executions, executions, ih, List.append_assoc]
    rfl

/-- steps that are refused leave a launcher as it is -/
theorem of_refused {l : Launcher} {steps : List Step} (refused : ∀ s ∈ steps, ¬ s.Loads) :
    l.run steps = l ∧ l.executions steps = [] := by
  induction steps with
  | nil => exact ⟨rfl, rfl⟩
  | cons s steps ih =>
    have here : ¬ s.Loads := refused s List.mem_cons_self
    have same : l.step s = l := by rw [step_eq, if_neg here]
    obtain ⟨run, executions⟩ := ih fun t ht => refused t (List.mem_cons_of_mem s ht)
    refine ⟨?_, ?_⟩
    · change (l.step s).run steps = l
      rw [same, run]
    · rw [Launcher.executions, same, executions, stepExecutions, if_neg fun h => here h.1]
      rfl

/-! ## After the load -/

/-- never changes, carries nothing out, and answers a request in one way only -/
structure Frozen (l : Launcher) : Prop where
  run : ∀ steps, l.run steps = l
  executions : ∀ steps, l.executions steps = []
  load : ∀ files, l.load files = (l, .ok ())
  /-- whatever was asked before, and whatever the files are -/
  dispatch : ∀ one other files files' r,
    ((l.run one).dispatch files r).2 = ((l.run other).dispatch files' r).2

theorem load_of_loaded {l : Launcher} (h : l.loaded = true) (files : Files) : l.load files = (l, .ok ()) := by
  rw [load, if_pos h]

theorem step_of_loaded {l : Launcher} (h : l.loaded = true) (s : Step) : l.step s = l := by
  rw [step_eq, load_of_loaded h, ite_self]

theorem frozen_of_loaded {l : Launcher} (h : l.loaded = true) : l.Frozen := by
  have run (steps : List Step) : l.run steps = l := List.foldl_fixed' (step_of_loaded h) steps
  refine ⟨run, fun steps => ?_, load_of_loaded h, fun one other files files' r => ?_⟩
  · induction steps with
    | nil => rfl
    | cons s steps ih =>
      rw [executions, step_of_loaded h, ih, stepExecutions, if_neg (by simp [h])]
      rfl
  · rw [run, run, dispatch, dispatch, load_of_loaded h, load_of_loaded h]

/-- the first step that loads carries the declarations out in turn, from the empty registry on, and no other step of a
run carries anything out -/
theorem first_load (cluster : Cluster) (sources : List Declarations) {idle : List Step} {s : Step} (later : List Step)
    (refused : ∀ i ∈ idle, ¬ i.Loads) (first : s.Loads) :
    let fresh := start cluster sources
    let log := fresh.executions (idle ++ s :: later)
    (fresh.run idle).stepExecutions s = log ∧ ∃ loading, InTurn s.files .empty sources log loading ∧
      (fresh.run idle).load s.files = (fresh.run (idle ++ [s]), loading.result) ∧
      fresh.run (idle ++ [s]) = ⟨sources, cluster, loading.registry, true⟩ := by
  intro fresh log
  obtain ⟨same, none⟩ := of_refused (l := fresh) refused
  have turn := Loading.inTurn s.files .empty sources
  set loading := sources.foldl (Loading.add s.files) (.start .empty)
  have loaded : fresh.load s.files = (⟨sources, cluster, loading.registry, true⟩, loading.result) := rfl
  have launched : fresh.run (idle ++ [s]) = ⟨sources, cluster, loading.registry, true⟩ := by
    rw [run_append, same]
    change fresh.step s = _
    rw [step_eq, if_pos first, loaded]
  have here : fresh.stepExecutions s = (Loading.start .empty).executions s.files sources := if_pos ⟨first, rfl⟩
  have all : log = fresh.stepExecutions s := by
    have nothing : (fresh.run (idle ++ [s])).executions later = [] :=
      (frozen_of_loaded (by rw [launched])).executions later
    change fresh.executions (idle ++ s :: later) = _
    rw [List.append_cons, executions_append, nothing, executions_append, none, same, List.append_nil, List.nil_append]
    exact List.append_nil _
  exact ⟨by rw [same, all], loading, by rw [all, here]; exact turn, by rw [same, launched]; exact loaded, launched⟩

/-- steps none of which loads, or a first one that does -/
theorem first_step_that_loads (steps : List Step) : (∀ s ∈ steps, ¬ s.Loads) ∨
    ∃ idle s later, steps = idle ++ s :: later ∧ (∀ i ∈ idle, ¬ i.Loads) ∧ s.Loads := by
  cases found : steps.find? fun s => decide s.Loads with
  | none => exact .inl fun s hs => by simpa using List.find?_eq_none.1 found s hs
  | some s =>
    obtain ⟨loads, idle, later, split, refused⟩ := List.find?_eq_some_iff_append.1 found
    exact .inr ⟨idle, s, later, split, fun i hi => by simpa using refused i hi, by simpa using loads⟩

end Launcher

/-! ## Main result -/

open Launcher in
/-- **The declarations are carried out once, and the registry is then frozen.** Take a fresh launcher over any
declarations, and any steps, the files rewritten in between or not. What is carried out over all steps are the first of
the declarations, in order, and nothing after one that fails. A request that is refused changes nothing. As long as no
step loads, the launcher is as it was, with an empty registry and everything still to be carried out. The first step that
loads makes all the executions, in turn, from the empty registry on; whether it succeeds or fails, the launcher is frozen
from then on: nothing changes its registry, every load succeeds, and what comes of a dispatch depends on nothing that was
asked before. -/
theorem sources_run_once (cluster : Cluster) (sources : List Declarations) (steps : List Step) :
    let fresh := start cluster sources
    let log := fresh.executions steps
    (log.map Execution.source <+: sources ∧
      ∀ before x after, log = before ++ x :: after → x.after.failure ≠ none → after = []) ∧
    (∀ files r e, r.check = .error e →
      (fresh.run steps).dispatch files r = (fresh.run steps, ⟨[], .error (.dispatch e)⟩)) ∧
    ((∀ s ∈ steps, ¬ s.Loads) → fresh.run steps = fresh ∧ log = []) ∧
    ∀ idle s later, steps = idle ++ s :: later → (∀ i ∈ idle, ¬ i.Loads) → s.Loads →
      let launched := fresh.run (idle ++ [s])
      fresh.run idle = fresh ∧ (fresh.run idle).registry = .empty ∧ (fresh.run idle).stepExecutions s = log ∧
      (∃ loading, InTurn s.files .empty sources log loading ∧
        (fresh.run idle).load s.files = (launched, loading.result) ∧ launched.registry = loading.registry) ∧
      launched.Frozen := by
  intro fresh log
  refine ⟨?_, fun files r e unsound => dispatch_of_unsound unsound, of_refused, ?_⟩
  · rcases first_step_that_loads steps with refused | ⟨idle, s, later, split, refused, first⟩
    · have none : log = [] := (of_refused refused).2
      rw [none]
      exact ⟨List.nil_prefix, fun before x after split => by cases before <;> cases split⟩
    · obtain ⟨-, loading, turn, -, -⟩ := first_load cluster sources later refused first
      rw [← split] at turn
      exact ⟨turn.order, fun before x after split failed => turn.stops split failed⟩
  · rintro idle s later split refused first launched
    obtain ⟨here, loading, turn, loaded, after⟩ := first_load cluster sources later refused first
    rw [← split] at here turn
    change launched = _ at after
    have same : fresh.run idle = fresh := (of_refused refused).1
    have frozen : launched.Frozen := frozen_of_loaded (by rw [after])
    exact ⟨same, by rw [same]; rfl, here, ⟨loading, turn, loaded, by rw [after]⟩, frozen⟩

/-- the host registers one experiment, and then a file is missing -/
def interrupted : List Declarations :=
  let host : Declarations := .native "host" [⟨"train", none, 1, ⟨"main", fun _ => .ok ()⟩, []⟩]
  [host, .file "/gone.py" ⟨.empty, none⟩, host]

def noFiles : Files := ⟨.directory [], "/"⟩

def trainRequest (run : String) : Request := ⟨"lab", "train", run, 1, []⟩

open Launcher in
/-- a request without a name for its run is refused; the next one loads, which fails at the missing file; then the
experiment of the host can be run -/
theorem sources_run_once_interrupted :
    let fresh := start .single interrupted
    let steps := [Step.dispatch noFiles (trainRequest ""), .dispatch noFiles (trainRequest "first"), .load noFiles]
    (fresh.executions steps).map (fun x => x.source.origin) = ["host", "/gone.py"] ∧
      (fresh.run (steps.take 2)).Frozen ∧
      ((fresh.run (steps.take 2)).dispatch noFiles (trainRequest "second")).2.result = .ok () := by
  intro fresh steps
  obtain ⟨-, -, -, first⟩ := sources_run_once .single interrupted steps
  obtain ⟨-, -, -, -, frozen⟩ := first [.dispatch noFiles (trainRequest "")]
    (.dispatch noFiles (trainRequest "first")) [.load noFiles] rfl (by decide +kernel) (by decide +kernel)
  exact ⟨by decide +kernel, frozen, by decide +kernel⟩

end Trialbook
