/-
ORIGINS: where the experiments of a registry come from.

A registry adds experiments to another (`Registry.Adds`) when all that it has and the other does not are of some kind.
Declarations register an entry under a name (`Declarations.Registers`): a function of a file is registered under the name
in one of its experiment links, with the handler that the table has for the name of the function, and the host registers
its handlers as they are.

Results:
- `Registry.names_nodup`, `Registry.get?_eq_some_iff`: names differ, and look-up finds the experiment of a name.
- `Loading.add_adds`: carrying out declarations adds what they register, also when it fails.
- `Launcher.origin_of_run`: every experiment of a launcher is registered by one of its declarations, with the files at a
  step that loads.
-/
import Trialbook.Proofs.Launches

namespace Trialbook

/-! ## Names -/

namespace Registry

theorem names_nodup (r : Registry) : r.names.Nodup := by
  refine List.nodup_iff_getElem?_ne_getElem?.2 fun i j before inside same => ?_
  have at_j : r.names[j]? = some r.names[j] := List.getElem?_eq_getElem inside
  have position := position?_eq_some_iff.2 (same.trans at_j)
  rw [position?_eq_some_iff.2 at_j] at position
  cases position
  exact Nat.lt_irrefl i before

/-- the experiment of a name is the one that look-up finds -/
theorem get?_eq_some_iff {r : Registry} {name : String} {e : Experiment} :
    r.get? name = some e ↔ e ∈ r.experiments ∧ e.name = name := by
  refine ⟨of_get?, ?_⟩
  rintro ⟨he, rfl⟩
  obtain ⟨i, at_i⟩ := List.mem_iff_getElem?.1 he
  have position : r.position? e.name = some i := position?_eq_some_iff.2 (by rw [names, List.getElem?_map, at_i]; rfl)
  exact Option.bind_eq_some_iff.2 ⟨i, position, at_i⟩

theorem get?_eq_none_iff {r : Registry} {name : String} : r.get? name = none ↔ name ∉ r.names := by
  rw [Option.eq_none_iff_forall_ne_some, names, List.mem_map]
  simp only [ne_eq, get?_eq_some_iff, not_exists]

end Registry

/-! ## Additions -/

/-- every experiment that the second registry has and the first does not is of a kind -/
def Registry.Adds (P : Experiment → Prop) (r s : Registry) : Prop := ∀ e ∈ s.experiments, e ∈ r.experiments ∨ P e

namespace Registry.Adds

variable {P Q : Experiment → Prop} {r s t : Registry}

theorem refl : r.Adds P r := fun _ he => .inl he

theorem trans (h : r.Adds P s) (h' : s.Adds P t) : r.Adds P t := by
  intro e he
  rcases h' e he with he | own
  · exact h e he
  · exact .inr own

theorem mono (h : r.Adds P s) (imp : ∀ e, P e → Q e) : r.Adds Q s := fun e he => (h e he).imp_right (imp e)

theorem push {x : Experiment} (fresh : x.name ∉ r.names) (own : P x) : r.Adds P (r.push x fresh) := by
  intro e he
  rcases List.mem_append.1 he with he | he
  · exact .inl he
  · exact .inr (List.mem_singleton.1 he ▸ own)

theorem register {name : String} {seed : Option Int64} {c : Chain} (h : r.register name seed c = .ok s) :
    r.Adds (fun e => e.name = name ∧ e.entry = some c.entry) s := by
  obtain ⟨-, fresh, rfl⟩ := register_eq_ok_iff.1 h
  exact push fresh ⟨rfl, rfl⟩

/-- what each step adds, all of them add -/
theorem foldl {α : Type} {step : Loading → α → Loading} {as : List α}
    (adds : ∀ (x : Loading), ∀ a ∈ as, x.registry.Adds P (step x a).registry) (x : Loading) :
    x.registry.Adds P (as.foldl step x).registry := by
  induction as generalizing x with
  | nil => exact .refl
  | cons a as ih =>
    exact (adds x a List.mem_cons_self).trans (ih (fun y b hb => adds y b (List.mem_cons_of_mem a hb)) _)

end Registry.Adds

/-! ## Declarations -/

/-- what running a handler comes to -/
def Handler.outcome (h : Handler) (b : Bundle) : Outcome EntryFailure := ⟨[⟨h.label, b⟩], h.run b⟩

/-- what running a function of a declaration file comes to: the handler that is bound to its name runs, else the one for
every other function; without either, none runs -/
def EntryTable.outcome (t : EntryTable) (function : String) (b : Bundle) : Outcome EntryFailure :=
  match t.bound.get? function, t.fallback with
  | some h, _ => h.outcome b
  | none, some h => h.outcome b
  | none, none => ⟨[], .error ⟨s!"no handler is bound for function '{function}'", []⟩⟩

theorem Source.Function.run_entry (f : Source.Function) (entries : EntryTable) (b : Bundle) :
    (f.entry entries).run b = entries.outcome f.name b := by
  unfold Source.Function.entry EntryTable.find? EntryTable.outcome
  cases entries.bound.get? f.name <;> cases entries.fallback <;> rfl

/-- a name that declarations register, with the files as they are, and what it is bound to -/
inductive Declarations.Registers (files : Files) : Declarations → String → Entry → Prop where
  | function {path text : String} {entries : EntryTable} {m : Source.Module} {f : Source.Function} {links : List Link}
    {d : ExperimentDraft} : files.readText path = .ok text → Source.Module.read? text = some m → f ∈ m.functions →
    f.decorators.mapM Source.Decorator.link = .ok links → .experiment d ∈ links →
    Registers files (.file path entries) d.name (f.entry entries)
  | native {name : String} {registrations : List Registration} {r : Registration} : r ∈ registrations →
    Registers files (.native name registrations) r.name (.native r.arity r.handler)

/-- the declarations register the experiment -/
def Declarations.Origin (files : Files) (d : Declarations) (e : Experiment) : Prop :=
  ∃ entry, e.entry = some entry ∧ d.Registers files e.name entry

/-! ## Carrying out -/

/-- links applied to an entry register it, under the name in an experiment link -/
theorem Application.applyAll_adds {function : String} {entry : Entry} {a : Application}
    (target : ∀ c, a.target = some c → c.entry = entry) (ls : List Link) :
    a.registry.Adds (fun e => (∃ d, .experiment d ∈ ls ∧ e.name = d.name) ∧ e.entry = some entry)
      (a.applyAll function ls).registry := by
  induction ls generalizing a with
  | nil => exact .refl
  | cons l ls ih =>
    have widen (b : Registry) (s : Registry)
        (h : b.Adds (fun e => (∃ d, .experiment d ∈ ls ∧ e.name = d.name) ∧ e.entry = some entry) s) :
        b.Adds (fun e => (∃ d, .experiment d ∈ l :: ls ∧ e.name = d.name) ∧ e.entry = some entry) s :=
      h.mono fun e ⟨⟨d, hd, name⟩, bound⟩ => ⟨⟨d, List.mem_cons_of_mem l hd, name⟩, bound⟩
    unfold applyAll
    split
    · exact .refl
    · rename_i b applied
      obtain ⟨c, here, ⟨d, p, c', -, -, extended, rfl⟩ | ⟨d, s, rfl, -, registered, rfl⟩⟩ := apply_eq_ok_iff.1 applied
      · refine widen _ _ (ih (a := ⟨some c', a.registry⟩) fun k hk => ?_)
        cases hk
        exact (Chain.param_eq_ok extended).1.trans (target c here)
      · have first : a.registry.Adds
            (fun e => (∃ x, .experiment x ∈ .experiment d :: ls ∧ e.name = x.name) ∧ e.entry = some entry) s :=
          (Registry.Adds.register registered).mono fun e ⟨name, bound⟩ =>
            ⟨⟨d, List.mem_cons_self, name⟩, target c here ▸ bound⟩
        exact first.trans (widen _ _ (ih (a := ⟨none, s⟩) fun k hk => nomatch hk))

theorem Registration.entry_of_chain {r : Registration} {c : Chain} (h : r.chain = .ok c) :
    c.entry = .native r.arity r.handler := by
  refine foldlM_keeps (P := fun c : Chain => c.entry = .native r.arity r.handler) (fun b d b' kept here => ?_) rfl h
  split at here
  · cases here
  · exact (Chain.param_eq_ok here).1.trans kept

namespace Loading

theorem addFunction_adds (entries : EntryTable) (x : Loading) (f : Source.Function) :
    x.registry.Adds (fun e => (∃ links d, f.decorators.mapM Source.Decorator.link = .ok links ∧ .experiment d ∈ links ∧
      e.name = d.name) ∧ e.entry = some (f.entry entries)) (x.addFunction entries f).registry := by
  unfold addFunction
  split
  · exact .refl
  · split
    · exact .refl
    · rename_i links linked
      split
      · exact .refl
      · have added : x.registry.Adds _
            (Application.applyAll f.name ⟨some (.bare (f.entry entries)), x.registry⟩ links.reverse).registry :=
          Application.applyAll_adds (fun c hc => by cases hc; exact rfl) links.reverse
        exact added.mono fun e ⟨⟨d, hd, name⟩, bound⟩ => ⟨⟨links, d, linked, List.mem_reverse.1 hd, name⟩, bound⟩

theorem addRegistration_adds (x : Loading) (r : Registration) :
    x.registry.Adds (fun e => e.name = r.name ∧ e.entry = some (.native r.arity r.handler))
      (x.addRegistration r).registry := by
  unfold addRegistration
  split_ifs
  · exact .refl
  · split
    · exact .refl
    · rename_i c made
      split
      · exact .refl
      · split
        · exact .refl
        · rename_i registered
          exact Registration.entry_of_chain made ▸ Registry.Adds.register registered

theorem addText_adds {files : Files} {path text : String} (entries : EntryTable) (x : Loading)
    (content : files.readText path = .ok text) :
    x.registry.Adds ((Declarations.file path entries).Origin files) (x.addText entries path text).registry := by
  unfold addText
  split_ifs
  · exact .refl
  · cases read : Source.Module.read? text with
    | none => exact .refl
    | some m =>
      refine Registry.Adds.foldl (fun y f hf => (addFunction_adds entries y f).mono ?_) x
      rintro e ⟨⟨links, d, linked, hd, name⟩, bound⟩
      exact ⟨f.entry entries, bound, name ▸ .function content read hf linked hd⟩

/-- **Declarations add what they register**, whether they are carried out to their end or not. -/
theorem add_adds (files : Files) (x : Loading) (d : Declarations) :
    x.registry.Adds (d.Origin files) (x.add files d).registry := by
  cases d with
  | file path entries =>
    unfold add
    simp only
    split_ifs
    · exact .refl
    · split
      · exact .refl
      · rename_i text content
        exact addText_adds entries x content
  | native name registrations =>
    refine Registry.Adds.foldl (fun y r hr => (addRegistration_adds y r).mono ?_) x
    rintro e ⟨name, bound⟩
    exact ⟨_, bound, name ▸ .native hr⟩

end Loading

/-! ## Launchers -/

namespace Launcher

theorem load_adds (files : Files) (l : Launcher) :
    l.registry.Adds (fun e => ∃ d ∈ l.sources, d.Origin files e) (l.load files).1.registry := by
  unfold load
  split_ifs
  · exact .refl
  · exact Registry.Adds.foldl (fun x d hd => (Loading.add_adds files x d).mono fun e own => ⟨d, hd, own⟩)
      (.start l.registry)

theorem step_adds (l : Launcher) (s : Step) :
    l.registry.Adds (fun e => s.Loads ∧ ∃ d ∈ l.sources, d.Origin s.files e) (l.step s).registry := by
  rw [step_eq]
  split_ifs with loads
  · exact (load_adds s.files l).mono fun e own => ⟨loads, own⟩
  · exact .refl

/-- a step changes neither the declarations nor the place in the cluster -/
theorem step_fixed (l : Launcher) (s : Step) : (l.step s).sources = l.sources ∧ (l.step s).cluster = l.cluster := by
  rw [step_eq]
  unfold load
  split_ifs <;> exact ⟨rfl, rfl⟩

theorem run_fixed (l : Launcher) (steps : List Step) :
    (l.run steps).sources = l.sources ∧ (l.run steps).cluster = l.cluster := by
  induction steps generalizing l with
  | nil => exact ⟨rfl, rfl⟩
  | cons s steps ih =>
    obtain ⟨sources, cluster⟩ := ih (l.step s)
    exact ⟨sources.trans (step_fixed l s).1, cluster.trans (step_fixed l s).2⟩

theorem run_adds (l : Launcher) (steps : List Step) :
    l.registry.Adds (fun e => ∃ s ∈ steps, s.Loads ∧ ∃ d ∈ l.sources, d.Origin s.files e)
      (l.run steps).registry := by
  induction steps generalizing l with
  | nil => exact .refl
  | cons s steps ih =>
    refine ((step_adds l s).mono fun e own => ⟨s, List.mem_cons_self, own⟩).trans ((ih (l.step s)).mono ?_)
    rintro e ⟨t, ht, loads, d, hd, own⟩
    exact ⟨t, List.mem_cons_of_mem s ht, loads, d, (step_fixed l s).1 ▸ hd, own⟩

/-- **Every experiment has an origin**: one of the declarations registers it, with the files at a step that loads. -/
theorem origin_of_run (cluster : Cluster) (sources : List Declarations) (steps : List Step) :
    ∀ e ∈ ((start cluster sources).run steps).registry.experiments,
      ∃ s ∈ steps, s.Loads ∧ ∃ d ∈ sources, d.Origin s.files e := by
  intro e he
  rcases run_adds (start cluster sources) steps e he with none | own
  · cases none
  · exact own

end Launcher

end Trialbook
