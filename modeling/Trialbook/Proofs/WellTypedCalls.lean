/-
WELL-TYPED CALLS: what the entry of an experiment may rely on.

The bundle of a call is well typed (`WellTyped`) for the parameters of an experiment and the arguments of a request when
it holds values of parameters only, each of the kind of its parameter and one of its options if it has any; when every
required parameter has a value; and when one without value is not required, has no default and was not supplied.

Invariant (`sound_of_grows`): in every registry grown from the empty one, every experiment has sound parameters.
It is kept because drafts are checked before they are declared, a chain refuses a second spec of a name unless it is the
same, and the seed parameter is put first only where there is none.

Result, for a launcher over any declarations, after any steps: every call of any dispatch is well typed for the
experiment that the request names (`calls_wellTyped`).
-/
import Trialbook.Proofs.Launches
import Trialbook.Proofs.Resolution

namespace Trialbook

/-! ## Sound registries -/

theorem SoundParams.addSpec {ps qs : List Spec} {p : Spec} (h : SoundParams ps) (hp : p.Sound)
    (added : Chain.addSpec ps p = .ok qs) : SoundParams qs := by
  rcases Chain.addSpec_eq_ok_iff.1 added with ⟨fresh, rfl⟩ | ⟨-, -, -, rfl⟩
  · exact h.cons hp fresh
  · exact h

theorem Chain.Made.sound {c : Chain} (h : c.Made) : SoundParams c.declared := by
  induction h with
  | bare e => exact .nil
  | param _ checked extended ih => exact ih.addSpec (Draft.sound_of_spec checked) (Chain.param_eq_ok extended).2

/-- every experiment has sound parameters -/
theorem sound_of_grows {r : Registry} (h : Registry.empty.Grows r) : ∀ e ∈ r.experiments, SoundParams e.parameters := by
  induction h with
  | refl => intro e he; cases he
  | register _ made _ registered ih =>
    obtain ⟨-, -, rfl⟩ := Registry.register_eq_ok_iff.1 registered
    intro e he
    rcases List.mem_append.1 he with he | he
    · exact ih e he
    · rw [List.mem_singleton.1 he]
      exact made.sound.withSeed _

/-! ## Well-typed values -/

/-- some argument forwards a text to the input -/
def Supplied (arguments : List String) (name : String) : Prop :=
  ∃ argument ∈ arguments, ∃ text, Arguments.Forwards argument name text

structure WellTyped (params : List Spec) (arguments : List String) (values : Table Value) : Prop where
  keys : ∀ e ∈ values.entries, ∃ p ∈ params, p.name = e.1
  kind : ∀ p ∈ params, ∀ v, values.get? p.name = some v → v.kind = p.kind
  /-- one of the options, as a value or as it stands there -/
  option : ∀ p ∈ params, p.options ≠ [] → ∀ v, values.get? p.name = some v → v.isIn p.options = true ∨ v ∈ p.options
  required : ∀ p ∈ params, p.required = true → ∃ v, values.get? p.name = some v
  absent : ∀ p ∈ params, values.get? p.name = none →
    p.required = false ∧ p.default = none ∧ ¬ Supplied arguments p.name

namespace Arguments

theorem lastText?_eq_none_iff {arguments : List String} {name : String} :
    lastText? arguments name = none ↔ ¬ Supplied arguments name := by
  simp only [lastText?, List.findSome?_eq_none_iff, List.mem_reverse, Supplied, not_exists, not_and]
  refine forall₂_congr fun argument _ => ?_
  simp only [Option.eq_none_iff_forall_ne_some, ne_eq, text?_eq_some_iff]

/-- a value is an accepted text or the default -/
theorem given_eq_some {arguments : List String} {p : Spec} {v : Value} (h : given arguments p = .ok (some v)) :
    (∃ text, p.accept text = .ok v) ∨ p.default = some v := by
  unfold given at h
  split at h
  · split at h
    · rename_i accepted
      cases h
      exact .inl ⟨_, accepted⟩
    · cases h
  · rename_i default
    cases h
    exact .inr default
  · split_ifs at h
    cases h

/-- a parameter without value is not supplied, has no default and is not required -/
theorem given_eq_none {arguments : List String} {p : Spec} (h : given arguments p = .ok none) :
    p.required = false ∧ p.default = none ∧ ¬ Supplied arguments p.name := by
  unfold given at h
  split at h
  · split at h <;> cases h
  · cases h
  · rename_i missing default
    split_ifs at h with required
    exact ⟨by simpa using required, default, lastText?_eq_none_iff.1 missing⟩

/-- values that sound parameters resolve to are well typed -/
theorem wellTyped_of_resolve {params : List Spec} (sound : SoundParams params) {arguments : List String}
    {values : Table Value} (h : resolve params (read arguments) = .ok values) : WellTyped params arguments values := by
  obtain ⟨own, keys⟩ := given_of_resolve (fun p hp => (sound.sound p hp).name) sound.distinct h
  have origin (p : Spec) (hp : p ∈ params) (v : Value) (hv : values.get? p.name = some v) :
      (∃ text, p.accept text = .ok v) ∨ p.default = some v := given_eq_some (hv ▸ own p hp)
  refine ⟨keys, fun p hp v hv => ?_, fun p hp some v hv => ?_, fun p hp required => ?_, fun p hp none => ?_⟩
  · rcases origin p hp v hv with ⟨text, accepted⟩ | default
    · exact (Spec.accept_eq_ok accepted).1
    · exact (sound.sound p hp).default v default
  · rcases origin p hp v hv with ⟨text, accepted⟩ | default
    · exact .inl ((Spec.accept_eq_ok accepted).2 some)
    · obtain ⟨w, chosen, among⟩ := (sound.sound p hp).among some
      rw [default] at chosen
      cases chosen
      exact among
  · cases found : values.get? p.name with
    | some v => exact ⟨v, rfl⟩
    | none =>
      have optional := (given_eq_none (found ▸ own p hp)).1
      rw [required] at optional
      cases optional
  · exact given_eq_none (none ▸ own p hp)

end Arguments

/-! ## Main result -/

/-- **Every call is well typed.** Take a launcher over any declarations, from files or from the host, after any loads
and dispatches, the files rewritten in between or not. Whatever the next request, every call that its dispatch makes
gets a bundle that is well typed for the parameters of the experiment registered under the name in the request. -/
theorem calls_wellTyped (cluster : Cluster) (sources : List Declarations) (steps : List Launcher.Step) (files : Files)
    (r : Request) :
    let served := ((Launcher.start cluster sources).run steps).dispatch files r
    ∀ c ∈ served.2.calls, ∃ e, served.1.registry.get? r.experiment = some e ∧
      WellTyped e.parameters r.arguments c.bundle.values := by
  intro served c hc
  obtain ⟨e, values, found, resolved, bundle⟩ := Launcher.of_mem_calls hc
  have grown : Registry.empty.Grows served.1.registry :=
    (Launcher.run_grows (.start cluster sources) steps).trans (Launcher.step_grows _ (.dispatch files r))
  have sound : SoundParams e.parameters := sound_of_grows grown e (Registry.of_get? found).1
  refine ⟨e, found, ?_⟩
  rw [bundle]
  exact Arguments.wellTyped_of_resolve sound resolved

/-- an experiment of the host with two options -/
def sizeRegistration : Registration :=
  ⟨"train", some 7, 1, ⟨"main", fun _ => .ok ()⟩, [⟨"size", none, none, none, false, some [.str "7b", .str "13b"]⟩]⟩

def sizeRequest : Request := ⟨"lab", "train", "first", 1, ["hf_action_size=13b"]⟩

def sizeCall : Call := ⟨"main", sizeRequest.bundle .single (.ofList [("seed", .int 7), ("size", .str "13b")])⟩

/-- the second of two requests to a host that registers one experiment -/
theorem calls_wellTyped_size :
    let files : Files := ⟨.directory [], "/"⟩
    let served := ((Launcher.start .single [.native "host" [sizeRegistration]]).run
      [.dispatch files sizeRequest]).dispatch files sizeRequest
    sizeCall ∈ served.2.calls ∧ ∃ e, served.1.registry.get? "train" = some e ∧
      WellTyped e.parameters ["hf_action_size=13b"] sizeCall.bundle.values := by
  intro files served
  have made : sizeCall ∈ served.2.calls := by decide +kernel
  exact ⟨made, calls_wellTyped .single _ _ files sizeRequest sizeCall made⟩

end Trialbook
