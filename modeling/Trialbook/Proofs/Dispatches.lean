/-
DISPATCHES: what comes of a request.

Five things stand between a request and an entry: the request is sound, the declarations are loaded, the experiment is
registered, its parameters resolve, and it is bound. A dispatch that all of them let through reaches the entry
(`Launcher.Reaches`); else the first of them that does not is its obstacle (`Launcher.Obstacle`).

Results:
- `Launcher.obstacle_iff_not_reaches`: a dispatch has an obstacle or reaches an entry, and never both.
- `Launcher.dispatch_of_obstacle`, `Launcher.dispatch_of_reaches`: with an obstacle nothing is called and the obstacle
  is reported; without one, what comes of the dispatch is what comes of running the entry, once.
- `dispatch_runs_once`: both, for every launcher, with the origin of the entry that is run.
-/
import Trialbook.Proofs.Origins

namespace Trialbook

/-- what is reported of a run: a failure goes under the name of the experiment -/
def Request.report (r : Request) (o : Outcome EntryFailure) : Outcome Failure :=
  ⟨o.calls, match o.result with
    | .ok () => .ok ()
    | .error failure => .error (.dispatch (.entryFailed r.experiment failure))⟩

theorem Request.report_eq_ok_iff {r : Request} {o : Outcome EntryFailure} :
    (r.report o).result = .ok () ↔ o.result = .ok () := by
  unfold report
  cases o.result <;> simp

/-- an entry calls one handler or none -/
theorem Entry.length_calls_le (e : Entry) (b : Bundle) : (e.run b).calls.length ≤ 1 := by
  unfold run
  split <;> simp

namespace Launcher

variable {files : Files} {l : Launcher} {r : Request}

/-! ## Obstacles -/

/-- the first thing that keeps a dispatch from an entry -/
inductive Obstacle (files : Files) (l : Launcher) (r : Request) : Failure → Prop where
  | unsound {err : DispatchError} : r.check = .error err → Obstacle files l r (.dispatch err)
  | unloaded {err : Failure} : r.check = .ok () → (l.load files).2 = .error err → Obstacle files l r err
  | unknown : r.check = .ok () → (l.load files).2 = .ok () → r.experiment ∉ (l.load files).1.registry.names →
    Obstacle files l r (.dispatch (.experimentNotFound r.experiment))
  | unresolved {e : Experiment} {err : DispatchError} : r.check = .ok () → (l.load files).2 = .ok () →
    (l.load files).1.registry.get? r.experiment = some e →
    Arguments.resolve e.parameters (Arguments.read r.arguments) = .error err → Obstacle files l r (.dispatch err)
  | unbound {e : Experiment} {values : Table Value} : r.check = .ok () → (l.load files).2 = .ok () →
    (l.load files).1.registry.get? r.experiment = some e →
    Arguments.resolve e.parameters (Arguments.read r.arguments) = .ok values → e.entry = none →
    Obstacle files l r (.dispatch (.entryFailed r.experiment ⟨"experiment has no bound entry", []⟩))

/-- nothing keeps a dispatch from the entry of the experiment that it asks for -/
structure Reaches (files : Files) (l : Launcher) (r : Request) (e : Experiment) (values : Table Value)
    (entry : Entry) : Prop where
  sound : r.check = .ok ()
  loads : (l.load files).2 = .ok ()
  registered : (l.load files).1.registry.get? r.experiment = some e
  resolved : Arguments.resolve e.parameters (Arguments.read r.arguments) = .ok values
  bound : e.entry = some entry

theorem obstacle_or_reaches (files : Files) (l : Launcher) (r : Request) :
    (∃ err, Obstacle files l r err) ∨ ∃ e values entry, Reaches files l r e values entry := by
  cases sound : r.check with
  | error err => exact .inl ⟨_, .unsound sound⟩
  | ok _ =>
    cases loads : (l.load files).2 with
    | error err => exact .inl ⟨_, .unloaded sound loads⟩
    | ok _ =>
      cases registered : (l.load files).1.registry.get? r.experiment with
      | none => exact .inl ⟨_, .unknown sound loads (Registry.get?_eq_none_iff.1 registered)⟩
      | some e =>
        cases resolved : Arguments.resolve e.parameters (Arguments.read r.arguments) with
        | error err => exact .inl ⟨_, .unresolved sound loads registered resolved⟩
        | ok values =>
          cases bound : e.entry with
          | none => exact .inl ⟨_, .unbound sound loads registered resolved bound⟩
          | some entry => exact .inr ⟨e, values, entry, sound, loads, registered, resolved, bound⟩

theorem Obstacle.not_reaches {err : Failure} (h : Obstacle files l r err) {e : Experiment} {values : Table Value}
    {entry : Entry} (reaches : Reaches files l r e values entry) : False := by
  obtain ⟨sound, loads, registered, resolved, bound⟩ := reaches
  cases h with
  | unsound failed => simp [sound] at failed
  | unloaded _ failed => simp [loads] at failed
  | unknown _ _ failed => simp [Registry.get?_eq_none_iff.2 failed] at registered
  | unresolved _ _ found failed => simp_all
  | unbound _ _ found _ failed => simp_all

theorem obstacle_iff_not_reaches (files : Files) (l : Launcher) (r : Request) :
    (∃ err, Obstacle files l r err) ↔ ¬ ∃ e values entry, Reaches files l r e values entry := by
  constructor
  · rintro ⟨err, h⟩ ⟨e, values, entry, reaches⟩
    exact h.not_reaches reaches
  · intro unreached
    exact (obstacle_or_reaches files l r).resolve_right unreached

/-! ## Outcomes -/

/-- once the declarations are loaded, the registry serves a sound request -/
theorem dispatch_of_loads (sound : r.check = .ok ()) (loads : (l.load files).2 = .ok ()) :
    let served := (l.load files).1.registry.serve l.cluster r
    (l.dispatch files r).2 = ⟨served.calls, match served.result with
      | .ok () => .ok ()
      | .error err => .error (.dispatch err)⟩ := by
  intro served
  have cluster : (l.load files).1.cluster = l.cluster := (step_fixed l (.load files)).2
  have pair : l.load files = ((l.load files).1, .ok ()) := Prod.ext rfl loads
  simp only [dispatch, sound]
  rw [pair]
  simp only [cluster]
  rfl

/-- with an obstacle nothing is called, and the obstacle is reported -/
theorem dispatch_of_obstacle {err : Failure} (h : Obstacle files l r err) :
    (l.dispatch files r).2 = ⟨[], .error err⟩ := by
  cases h with
  | unsound unsound => rw [dispatch_of_unsound unsound]
  | unloaded sound failed =>
    have pair : l.load files = ((l.load files).1, .error err) := Prod.ext rfl failed
    simp only [dispatch, sound]
    rw [pair]
  | unknown sound loads absent =>
    have registered := Registry.get?_eq_none_iff.2 absent
    simp only [dispatch_of_loads sound loads, Registry.serve, registered]
  | unresolved sound loads registered resolved =>
    simp only [dispatch_of_loads sound loads, Registry.serve, registered, resolved]
  | unbound sound loads registered resolved bound =>
    simp only [dispatch_of_loads sound loads, Registry.serve, registered, resolved, bound]

/-- without one, the entry is run once, on the bundle of the request -/
theorem dispatch_of_reaches {e : Experiment} {values : Table Value} {entry : Entry}
    (h : Reaches files l r e values entry) :
    (l.dispatch files r).2 = r.report (entry.run (r.bundle l.cluster values)) := by
  obtain ⟨sound, loads, registered, resolved, bound⟩ := h
  simp only [dispatch_of_loads sound loads, Registry.serve, registered, resolved, bound, Request.report]
  cases (entry.run (r.bundle l.cluster values)).result <;> rfl

theorem length_calls_dispatch_le (files : Files) (l : Launcher) (r : Request) :
    (l.dispatch files r).2.calls.length ≤ 1 := by
  rcases obstacle_or_reaches files l r with ⟨err, h⟩ | ⟨e, values, entry, h⟩
  · rw [dispatch_of_obstacle h]
    exact Nat.zero_le 1
  · rw [dispatch_of_reaches h]
    exact entry.length_calls_le _

/-- the entry that a launcher reaches is that of the only experiment under the name, and one of the declarations
registers it, with the files at a step that loads -/
theorem Reaches.origin {cluster : Cluster} {sources : List Declarations} {steps : List Step} {e : Experiment}
    {values : Table Value} {entry : Entry}
    (h : Reaches files ((start cluster sources).run steps) r e values entry) :
    (∀ x, x ∈ (((start cluster sources).run steps).load files).1.registry.experiments ∧ x.name = r.experiment ↔
      x = e) ∧
    ∃ s ∈ steps ++ [.dispatch files r], s.Loads ∧ ∃ d ∈ sources, d.Registers s.files r.experiment entry := by
  -- after the dispatch, the registry is the one that the request is served from
  have last : (start cluster sources).run (steps ++ [.dispatch files r]) =
      (((start cluster sources).run steps).load files).1 := by
    rw [run_append]
    exact dispatch_of_sound h.sound
  have found := Registry.get?_eq_some_iff.1 h.registered
  constructor
  · intro x
    rw [← Registry.get?_eq_some_iff, h.registered]
    exact ⟨fun same => (Option.some.inj same).symm, fun same => same ▸ rfl⟩
  · obtain ⟨s, hs, loads, d, hd, entry', bound, registers⟩ :=
      origin_of_run cluster sources (steps ++ [.dispatch files r]) e (last ▸ found.1)
    rw [h.bound] at bound
    cases bound
    exact ⟨s, hs, loads, d, hd, found.2 ▸ registers⟩

end Launcher

/-! ## Main result -/

open Launcher in
/-- **A dispatch runs the right entry once, or none.** Of any launcher and request: either there is a first obstacle,
then nothing is called and that obstacle is reported; or the entry of the experiment is reached, then the dispatch comes
to one run of it, with the names in the request, the place of the launcher and the resolved values, and succeeds when
the entry does. A handler of the host is called, and what it returns is reported. A function of a declaration file is
run by the handler bound to its name, else by the fallback, and fails without either. If the launcher has come about by
steps from declarations, then the experiment is the only one of its name, and its entry is one that the declarations
register under that name, with the files at a step that loads. -/
theorem dispatch_runs_once :
    (∀ (l : Launcher) (files : Files) (r : Request),
      let served := (l.dispatch files r).2
      served.calls.length ≤ 1 ∧
      ((∃ err, Obstacle files l r err) ↔ ¬ ∃ e values entry, Reaches files l r e values entry) ∧
      (∀ err, Obstacle files l r err → served = ⟨[], .error err⟩) ∧
      ∀ e values entry, Reaches files l r e values entry →
        let bundle : Bundle := ⟨⟨r.experiment, r.project, r.run, l.cluster⟩, values⟩
        served = r.report (entry.run bundle) ∧
        (served.result = .ok () ↔ (entry.run bundle).result = .ok ()) ∧
        (∀ (arity : Nat) (h : Handler), entry = .native arity h →
          served = r.report ⟨[⟨h.label, bundle⟩], h.run bundle⟩) ∧
        ∀ (f : Source.Function) (entries : EntryTable), entry = f.entry entries →
          served = r.report (entries.outcome f.name bundle)) ∧
    ∀ (cluster : Cluster) (sources : List Declarations) (steps : List Step) (files : Files) (r : Request),
      let l := (start cluster sources).run steps
      l.cluster = cluster ∧ ∀ e values entry, Reaches files l r e values entry →
        (∀ x, x ∈ (l.load files).1.registry.experiments ∧ x.name = r.experiment ↔ x = e) ∧
        ∃ s ∈ steps ++ [.dispatch files r], s.Loads ∧ ∃ d ∈ sources, d.Registers s.files r.experiment entry := by
  constructor
  · intro l files r served
    refine ⟨length_calls_dispatch_le files l r, obstacle_iff_not_reaches files l r,
      fun err h => dispatch_of_obstacle h, fun e values entry h => ?_⟩
    intro bundle
    have once : served = r.report (entry.run bundle) := dispatch_of_reaches h
    refine ⟨once, by rw [once, Request.report_eq_ok_iff], ?_, ?_⟩
    · rintro arity h rfl
      exact once
    · rintro f entries rfl
      rw [once, f.run_entry]
  · intro cluster sources steps files r l
    exact ⟨(run_fixed (start cluster sources) steps).2, fun e values entry h => h.origin⟩

/-- two functions, the second of which has no handler of its own -/
def labText : String := "@experiment('train')\ndef main(b): pass\n\n@experiment('test')\ndef check(b): pass\n"

def labFiles : Files := ⟨.directory [("lab.py", .file (.text labText))], "/"⟩

/-- the handler of functions that have none of their own -/
def labFallback : Handler := ⟨"other", fun _ => .error ⟨"unknown function", []⟩⟩

def labEntries : EntryTable := ⟨.ofList [("main", ⟨"main", fun _ => .ok ()⟩)], some labFallback⟩

/-- a handler of the host -/
def labProbe : Handler := ⟨"probe", fun _ => .ok ()⟩

def labSources : List Declarations := [.file "/lab.py" labEntries, .native "host" [⟨"probe", some 7, 1, labProbe, []⟩]]

def testRequest : Request := ⟨"lab", "test", "first", 1, []⟩

def probeRequest : Request := ⟨"lab", "probe", "first", 1, ["hf_action_seed=9"]⟩

/-- the experiments there are functions of the file, and the handler of the host -/
theorem entry_of_lab {e : Experiment}
    (he : e ∈ ((Launcher.start .single labSources).load labFiles).1.registry.experiments) :
    (∃ f : Source.Function, e.entry = some (f.entry labEntries)) ∨ e.entry = some (.native 1 labProbe) := by
  obtain ⟨s, -, -, d, hd, entry, bound, registers⟩ := Launcher.origin_of_run .single labSources [.load labFiles] e he
  rw [bound]
  generalize e.name = named at registers
  cases registers with
  | @function path text entries m f links d content read hf linked link =>
    obtain ⟨-, rfl⟩ : path = "/lab.py" ∧ entries = labEntries := by simpa [labSources] using hd
    exact .inl ⟨f, rfl⟩
  | @native name registrations r hr =>
    obtain ⟨-, rfl⟩ : name = "host" ∧ registrations = [⟨"probe", some 7, 1, labProbe, []⟩] := by
      simpa [labSources] using hd
    obtain rfl := List.mem_singleton.1 hr
    exact .inr rfl

/-- the name and the number of arguments of a function -/
def Entry.function? : Entry → Option (String × Nat)
  | .native _ _ => none
  | .function name arity _ => some (name, arity)

/-- what is known of an experiment there tells its entry, and so the handler -/
theorem get?_lab {name : String} {ps : List Spec} (function : Option (String × Nat))
    (known : (((Launcher.start .single labSources).load labFiles).1.registry.get? name).map
      (fun e => (e.name, e.parameters, e.entry.bind Entry.function?)) = some (name, ps, function)) :
    ((Launcher.start .single labSources).load labFiles).1.registry.get? name =
      some ⟨name, ps, some (function.elim (.native 1 labProbe) fun f => .function f.1 f.2 (labEntries.find? f.1))⟩ := by
  obtain ⟨e, found, same⟩ := Option.map_eq_some_iff.1 known
  obtain ⟨own, parameters, entry⟩ := e
  cases same
  rw [found]
  rcases entry_of_lab (Registry.get?_eq_some_iff.1 found).1 with ⟨f, rfl⟩ | rfl
  · rfl
  · rfl

open Launcher in
theorem dispatch_runs_once_lab :
    let l := start .single labSources
    let check : Entry := .function "check" 1 (some labFallback)
    let probe : Entry := .native 1 labProbe
    (Reaches labFiles l testRequest ⟨"test", [.seed none], some check⟩ (.ofList [("seed", .int 42)]) check ∧
      (l.dispatch labFiles testRequest).2 =
        ⟨[⟨"other", ⟨⟨"test", "lab", "first", .single⟩, .ofList [("seed", .int 42)]⟩⟩],
          .error (.dispatch (.entryFailed "test" ⟨"unknown function", []⟩))⟩ ∧
      ∃ d ∈ labSources, d.Registers labFiles "test" check) ∧
    Reaches labFiles l probeRequest ⟨"probe", [.seed (some 7)], some probe⟩ (.ofList [("seed", .int 9)]) probe ∧
      (l.dispatch labFiles probeRequest).2 =
        ⟨[⟨"probe", ⟨⟨"probe", "lab", "first", .single⟩, .ofList [("seed", .int 9)]⟩⟩], .ok ()⟩ ∧
      ∃ d ∈ labSources, d.Registers labFiles "probe" probe := by
  intro l check probe
  have loads : (l.load labFiles).2 = .ok () := by decide +kernel
  have test : Reaches labFiles l testRequest ⟨"test", [.seed none], some check⟩ (.ofList [("seed", .int 42)]) check :=
    ⟨by decide +kernel, loads, get?_lab (some ("check", 1)) (by decide +kernel), by decide +kernel, rfl⟩
  have asked : Reaches labFiles l probeRequest ⟨"probe", [.seed (some 7)], some probe⟩ (.ofList [("seed", .int 9)])
      probe :=
    ⟨by decide +kernel, loads, get?_lab none (by decide +kernel), by decide +kernel, rfl⟩
  obtain ⟨-, -, -, tested⟩ := dispatch_runs_once.1 l labFiles testRequest
  obtain ⟨-, -, -, probed⟩ := dispatch_runs_once.1 l labFiles probeRequest
  obtain ⟨-, -, -, byFunction⟩ := tested _ _ _ test
  obtain ⟨-, -, byHandler, -⟩ := probed _ _ _ asked
  have origin {r : Request} {e : Experiment} {values : Table Value} {entry : Entry}
      (h : Reaches labFiles l r e values entry) : ∃ d ∈ labSources, d.Registers labFiles r.experiment entry := by
    obtain ⟨-, reached⟩ := dispatch_runs_once.2 .single labSources [] labFiles r
    obtain ⟨-, s, hs, -, registers⟩ := reached _ _ _ h
    obtain rfl := List.mem_singleton.1 hs
    exact registers
  exact ⟨⟨test, byFunction ⟨"check", 5, 1, false, []⟩ labEntries rfl, origin test⟩, asked, byHandler 1 labProbe rfl,
    origin asked⟩

end Trialbook
