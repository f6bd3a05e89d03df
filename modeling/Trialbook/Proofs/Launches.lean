/-
LAUNCHES: the history of a launcher, step by step.

A step loads or serves a request, each with the files as they are then, so files may be rewritten between steps. A step
loads (`Step.Loads`) when it is a load, or the dispatch of a sound request; any other step is refused.

Results:
- `Launcher.step_eq`: all that a step does to a launcher is to load, if it is one that loads.
- `Launcher.run_grows`: whatever the steps, the registry of a launcher is the empty one with made chains registered.
- `Launcher.load_discover`: what the first load over the declaration files of a directory does.
- `Launcher.of_mem_calls`: what a call that a dispatch makes comes from: the experiment that the request names, in the
  registry as it is after the dispatch, and the values that its parameters resolve to.
-/
import Trialbook.Launch.Launcher
import Trialbook.Proofs.Registrations

namespace Trialbook.Launcher

/-- what may be asked of a launcher, with the files at that time -/
inductive Step where
  | load (files : Files)
  | dispatch (files : Files) (r : Request)

def step (l : Launcher) : Step → Launcher
  | .load files => (l.load files).1
  | .dispatch files r => (l.dispatch files r).1

def run (l : Launcher) (steps : List Step) : Launcher := steps.foldl step l

/-- a load, or the dispatch of a sound request -/
def Step.Loads : Step → Prop
  | .load _ => True
  | .dispatch _ r => r.check = .ok ()

instance : DecidablePred Step.Loads := fun s =>
  match s with
  | .load _ => .isTrue trivial
  | .dispatch _ r => decEq r.check (.ok ())

/-- the files at the time of a step -/
def Step.files : Step → Files
  | .load files => files
  | .dispatch files _ => files

theorem dispatch_of_unsound {files : Files} {l : Launcher} {r : Request} {e : DispatchError} (h : r.check = .error e) :
    l.dispatch files r = (l, ⟨[], .error (.dispatch e)⟩) := by
  rw [dispatch, h]

theorem dispatch_of_sound {files : Files} {l : Launcher} {r : Request} (h : r.check = .ok ()) :
    (l.dispatch files r).1 = (l.load files).1 := by
  rw [dispatch, h]
  cases loaded : l.load files with
  | mk launched result => cases result <;> rfl

theorem step_eq (l : Launcher) (s : Step) : l.step s = if s.Loads then (l.load s.files).1 else l := by
  cases s with
  | load files => rfl
  | dispatch files r =>
    split_ifs with sound
    · exact dispatch_of_sound sound
    · cases check : r.check with
      | ok u => exact absurd check sound
      | error e => rw [step, dispatch_of_unsound check]

theorem run_append (l : Launcher) (steps more : List Step) : l.run (steps ++ more) = (l.run steps).run more :=
  List.foldl_append

/-! ## The registry -/

theorem load_grows (files : Files) (l : Launcher) : l.registry.Grows (l.load files).1.registry := by
  unfold load
  split_ifs
  · exact .refl
  · exact Loading.foldl_grows (Loading.add_grows files) (.start l.registry) l.sources

theorem step_grows (l : Launcher) (s : Step) : l.registry.Grows (l.step s).registry := by
  rw [step_eq]
  split_ifs
  · exact load_grows s.files l
  · exact .refl

theorem run_grows (l : Launcher) (steps : List Step) : l.registry.Grows (l.run steps).registry := by
  induction steps generalizing l with
  | nil => exact .refl
  | cons s steps ih => exact (step_grows l s).trans (ih (l.step s))

/-! ## Declaration files -/

/-- a fresh launcher carries out the declaration files of a directory one after the other -/
theorem load_discover (cluster : Cluster) (files : Files) (root extension : String) (entries : EntryTable) :
    let loading := (files.declarationFiles root extension).foldl (fun y path => y.add files (.file path entries))
      (Loading.start .empty)
    let launched := (start cluster (Declarations.discover files root extension entries)).load files
    launched.1.registry = loading.registry ∧ launched.2 = loading.result := by
  intro loading launched
  have same : (Declarations.discover files root extension entries).foldl (Loading.add files) (.start .empty) =
      loading := List.foldl_map
  rw [← same]
  exact ⟨rfl, rfl⟩

/-! ## Calls -/

theorem bundle_of_mem_run {e : Entry} {b : Bundle} {c : Call} (h : c ∈ (e.run b).calls) : c.bundle = b := by
  unfold Entry.run at h
  split at h
  · rw [List.mem_singleton.1 h]
  · rw [List.mem_singleton.1 h]
  · cases h

theorem of_mem_serve {registry : Registry} {cluster : Cluster} {r : Request} {c : Call}
    (h : c ∈ (registry.serve cluster r).calls) : ∃ e values, registry.get? r.experiment = some e ∧
      Arguments.resolve e.parameters (Arguments.read r.arguments) = .ok values ∧
      c.bundle = r.bundle cluster values := by
  unfold Registry.serve at h
  split at h
  · cases h
  · rename_i e found
    split at h
    · cases h
    · rename_i values resolved
      split at h
      · cases h
      · exact ⟨e, values, found, resolved, bundle_of_mem_run h⟩

theorem of_mem_calls {files : Files} {l : Launcher} {r : Request} {c : Call}
    (h : c ∈ (l.dispatch files r).2.calls) : ∃ e values, (l.dispatch files r).1.registry.get? r.experiment = some e ∧
      Arguments.resolve e.parameters (Arguments.read r.arguments) = .ok values ∧
      c.bundle = r.bundle (l.dispatch files r).1.cluster values := by
  unfold dispatch at h ⊢
  split at h
  · cases h
  · rename_i valid
    simp only
    split at h
    · cases h
    · rename_i loaded served
      exact of_mem_serve h

end Trialbook.Launcher
