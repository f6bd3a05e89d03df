/-
LAUNCHERS: dispatching requests to the experiments of a registry.

A launcher loads its declarations once, at the first load or at the first request that is sound, and never again,
whether that succeeds or fails. A dispatch checks the request, loads, finds the experiment, resolves its parameters and
runs its entry, and fails at the first of these that fails.
-/
import Trialbook.Launch.Arguments
import Trialbook.Launch.Request
import Trialbook.Registry.Loading

namespace Trialbook

/-- declarations, and the registry they fill -/
structure Launcher where
  sources : List Declarations
  cluster : Cluster
  registry : Registry
  /-- whether the declarations have been carried out -/
  loaded : Bool

/-- the bundle of a request -/
def Request.bundle (r : Request) (c : Cluster) (values : Table Value) : Bundle :=
  ⟨⟨r.experiment, r.project, r.run, c⟩, values⟩

namespace Registry

/-- runs the experiment that a request asks for -/
def serve (registry : Registry) (c : Cluster) (r : Request) : Outcome DispatchError :=
  match registry.get? r.experiment with
  | none => ⟨[], .error (.experimentNotFound r.experiment)⟩
  | some e =>
    match Arguments.resolve e.parameters (Arguments.read r.arguments) with
    | .error err => ⟨[], .error err⟩
    | .ok values =>
      match e.entry with
      | none => ⟨[], .error (.entryFailed r.experiment ⟨"experiment has no bound entry", []⟩)⟩
      | some entry =>
        let run := entry.run (r.bundle c values)
        ⟨run.calls, match run.result with
          | .ok () => .ok ()
          | .error failure => .error (.entryFailed r.experiment failure)⟩

end Registry

namespace Launcher

/-- a launcher that has loaded nothing yet -/
def start (cluster : Cluster) (sources : List Declarations) : Launcher := ⟨sources, cluster, .empty, false⟩

/-- carries out the declarations, the first time only -/
def load (files : Files) (l : Launcher) : Launcher × Except Failure Unit :=
  if l.loaded then (l, .ok ())
  else
    let x := l.sources.foldl (Loading.add files) (.start l.registry)
    ({ l with registry := x.registry, loaded := true }, x.result)

/-- serves a request -/
def dispatch (files : Files) (l : Launcher) (r : Request) : Launcher × Outcome Failure :=
  match r.check with
  | .error e => (l, ⟨[], .error (.dispatch e)⟩)
  | .ok () =>
    match l.load files with
    | (l, .error e) => (l, ⟨[], .error e⟩)
    | (l, .ok ()) =>
      let served := l.registry.serve l.cluster r
      (l, ⟨served.calls, match served.result with
        | .ok () => .ok ()
        | .error e => .error (.dispatch e)⟩)

end Launcher

/-- serves one request with the declaration files at or below a directory -/
def dispatchOnce (files : Files) (lookup : String → Option String) (root extension : String) (entries : EntryTable)
    (r : Request) : Outcome Failure :=
  match r.check with
  | .error e => ⟨[], .error (.dispatch e)⟩
  | .ok () =>
    match Cluster.ofVariables lookup with
    | .error e => ⟨[], .error (.dispatch e)⟩
    | .ok cluster => ((Launcher.start cluster (Declarations.discover files root extension entries)).dispatch files r).2

end Trialbook
