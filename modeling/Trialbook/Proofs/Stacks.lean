/-
STACKS: what the functions of a declaration file do to a registry.

Drafts are stacked on a bare entry from the last one up (`Stacked`). A stack needs checked drafts only; where a name
comes back, the spec must be the same as the one below it, and is dropped.

Results:
- `Stacked.specs`: drafts under names that differ stack up to their specs in order, and nothing is dropped.
- `Stacked.repeated`: under a draft whose name comes back, there is one whose spec is the same.
- `stacked_of_specs`: checked drafts under names that differ stack on every entry of one argument.
- `Loading.addFunction_of_alone`, `Loading.addFunction_eq_start_iff`: a function is carried out without failure when it
  is left alone, and else just when its links are a stack, or an experiment on top of one (`Applied`).
- `Loading.first_failure`: a loading that fails does so at some function, and stays as it is then.
-/
import Trialbook.Proofs.Registrations
import Trialbook.Proofs.SoundSpecs

namespace Trialbook

/-! ## Stacking drafts -/

/-- the chain that drafts make of an entry, stacked from the last one up -/
inductive Stacked (e : Entry) : List Draft → Chain → Prop where
  | bare : Stacked e [] (.bare e)
  | param {d : Draft} {ds : List Draft} {p : Spec} {c c' : Chain} :
    Stacked e ds c → d.spec = .ok p → c.param p = .ok c' → Stacked e (d :: ds) c'

theorem Draft.name_of_spec {d : Draft} {p : Spec} (h : d.spec = .ok p) : p.name = d.name := by
  obtain ⟨-, -, -, -, -, -, -, rfl⟩ := Draft.spec_eq_ok_iff.1 h
  rfl

theorem Draft.names_of_specs {ds : List Draft} {ps : List Spec} (h : ds.mapM Draft.spec = .ok ps) :
    ps.map Spec.name = ds.map Draft.name := by
  have specs := mapM_eq_ok_iff.1 h
  induction specs with
  | nil => rfl
  | cons here rest ih => rw [List.map_cons, List.map_cons, name_of_spec here, ih (mapM_eq_ok_iff.2 rest)]

/-- an entry of one argument takes a parameter under a new name -/
theorem Chain.exists_param {c : Chain} {p : Spec} (one : c.entry.arity = 1)
    (fresh : p.name ∉ c.declared.map Spec.name) : ∃ c', c.param p = .ok c' ∧ c'.declared = p :: c.declared := by
  rw [param_eq one, addSpec_eq_ok_iff.2 (.inl ⟨fresh, rfl⟩)]
  exact ⟨.params c.entry (p :: c.declared), rfl, rfl⟩

namespace Stacked

variable {e : Entry} {d : Draft} {above ds : List Draft} {c : Chain}

theorem entry (h : Stacked e ds c) : c.entry = e := by
  induction h with
  | bare => rfl
  | param _ _ extended ih => exact (Chain.param_eq_ok extended).1.trans ih

theorem of_append (h : Stacked e (above ++ ds) c) : ∃ c', Stacked e ds c' := by
  induction above generalizing c with
  | nil => exact ⟨c, h⟩
  | cons d above ih =>
    cases h with
    | param rest _ _ => exact ih rest

/-- every declared spec is that of a draft -/
theorem mem_declared (h : Stacked e ds c) : ∀ p ∈ c.declared, ∃ d ∈ ds, d.spec = .ok p := by
  induction h with
  | bare => intro p hp; cases hp
  | @param d ds p c c' _ checked extended ih =>
    intro q hq
    rcases Chain.addSpec_eq_ok_iff.1 (Chain.param_eq_ok extended).2 with ⟨-, declared⟩ | ⟨-, -, -, declared⟩
    · rw [declared] at hq
      rcases List.mem_cons.1 hq with rfl | hq
      · exact ⟨d, List.mem_cons_self, checked⟩
      · obtain ⟨b, hb, own⟩ := ih q hq
        exact ⟨b, List.mem_cons_of_mem d hb, own⟩
    · obtain ⟨b, hb, own⟩ := ih q (declared ▸ hq)
      exact ⟨b, List.mem_cons_of_mem d hb, own⟩

/-- every draft is declared, be it by one of its name -/
theorem name_mem_declared (h : Stacked e ds c) : ∀ d ∈ ds, d.name ∈ c.declared.map Spec.name := by
  induction h with
  | bare => intro d hd; cases hd
  | @param d ds p c c' _ checked extended ih =>
    intro b hb
    rcases Chain.addSpec_eq_ok_iff.1 (Chain.param_eq_ok extended).2 with ⟨-, declared⟩ | ⟨q, found, -, declared⟩
    · rw [declared, List.map_cons, Draft.name_of_spec checked]
      rcases List.mem_cons.1 hb with rfl | hb
      · exact List.mem_cons_self
      · exact List.mem_cons_of_mem _ (ih b hb)
    · rw [declared]
      rcases List.mem_cons.1 hb with rfl | hb
      · refine List.mem_map.2 ⟨q, List.mem_of_find?_eq_some found, ?_⟩
        rw [← Draft.name_of_spec checked]
        simpa using List.find?_some found
      · exact ih b hb

/-- a draft whose name comes back below has the same spec as one below -/
theorem repeated (h : Stacked e (d :: ds) c) (again : d.name ∈ ds.map Draft.name) :
    ∃ lower ∈ ds, lower.name = d.name ∧ ∃ p q, d.spec = .ok p ∧ lower.spec = .ok q ∧ q.same p = true := by
  cases h with
  | @param _ _ p c₀ _ rest checked extended =>
    obtain ⟨b, hb, named⟩ := List.mem_map.1 again
    have used : p.name ∈ c₀.declared.map Spec.name := by
      rw [Draft.name_of_spec checked, ← named]
      exact rest.name_mem_declared b hb
    rcases Chain.addSpec_eq_ok_iff.1 (Chain.param_eq_ok extended).2 with ⟨fresh, -⟩ | ⟨q, found, same, -⟩
    · exact absurd used fresh
    · -- the draft of this spec is the last one of the name, not always the next one
      obtain ⟨lower, hl, own⟩ := rest.mem_declared q (List.mem_of_find?_eq_some found)
      have name : q.name = p.name := by simpa using List.find?_some found
      refine ⟨lower, hl, ?_, p, q, checked, own, same⟩
      rw [← Draft.name_of_spec own, name, Draft.name_of_spec checked]

/-- where no name comes back, nothing is dropped -/
theorem specs (h : Stacked e ds c) (distinct : (ds.map Draft.name).Nodup) : ds.mapM Draft.spec = .ok c.declared := by
  induction h with
  | bare => rfl
  | @param d ds p c c' rest checked extended ih =>
    obtain ⟨fresh, distinct⟩ := List.nodup_cons.1 distinct
    have below := ih distinct
    rcases Chain.addSpec_eq_ok_iff.1 (Chain.param_eq_ok extended).2 with ⟨-, declared⟩ | ⟨q, found, -, -⟩
    · rw [declared]
      exact mapM_eq_ok_iff.2 (.cons checked (mapM_eq_ok_iff.1 below))
    · refine absurd ?_ fresh
      rw [← Draft.names_of_specs below, ← Draft.name_of_spec checked]
      exact List.mem_map.2 ⟨q, List.mem_of_find?_eq_some found, by simpa using List.find?_some found⟩

end Stacked

theorem stacked_of_specs {e : Entry} (one : e.arity = 1) {ds : List Draft} {ps : List Spec}
    (distinct : (ds.map Draft.name).Nodup) (specs : ds.mapM Draft.spec = .ok ps) :
    ∃ c, Stacked e ds c ∧ c.declared = ps := by
  induction ds generalizing ps with
  | nil =>
    cases specs
    exact ⟨.bare e, .bare, rfl⟩
  | cons d ds ih =>
    obtain ⟨p, qs, checked, below, rfl⟩ := List.forall₂_cons_left_iff.1 (mapM_eq_ok_iff.1 specs)
    obtain ⟨fresh, distinct⟩ := List.nodup_cons.1 distinct
    obtain ⟨c, stacked, declared⟩ := ih distinct (mapM_eq_ok_iff.2 below)
    have new : p.name ∉ c.declared.map Spec.name := by
      rwa [declared, Draft.names_of_specs (mapM_eq_ok_iff.2 below), Draft.name_of_spec checked]
    obtain ⟨c', extended, grown⟩ := Chain.exists_param (stacked.entry.symm ▸ one) new
    exact ⟨c', .param stacked checked extended, declared ▸ grown⟩

/-! ## Applying links -/

/-- what links make of an entry and a registry, applied from the last one up: the links are a stack, or an experiment on
top of one -/
inductive Applied (e : Entry) (r : Registry) : List Link → Application → Prop where
  | stack {ds : List Draft} {c : Chain} : Stacked e ds c → Applied e r (ds.map .param) ⟨some c, r⟩
  | experiment {d : ExperimentDraft} {ds : List Draft} {c : Chain} {s : Registry} : Stacked e ds c →
    checkName d.name = .ok () → r.register d.name d.seed c = .ok s →
    Applied e r (.experiment d :: ds.map .param) ⟨none, s⟩

theorem applied_iff {function : String} {e : Entry} {r : Registry} {ls : List Link} {b : Application} :
    ls.reverse.foldlM (Application.apply function) ⟨some (.bare e), r⟩ = .ok b ↔ Applied e r ls b := by
  -- applied from the last link up, so the links below the first have been applied before it
  rw [List.foldlM_reverse]
  induction ls generalizing b with
  | nil =>
    constructor
    · intro h
      cases h
      exact Applied.stack (r := r) (Stacked.bare (e := e))
    · intro h
      generalize empty : ([] : List Link) = ls at h
      cases h with
      | @stack ds c stacked =>
        rw [List.nil_eq, List.map_eq_nil_iff] at empty
        subst empty
        cases stacked
        rfl
      | experiment => cases empty
  | cons l ls ih =>
    rw [List.foldrM_cons, bind_eq_ok_iff]
    constructor
    · rintro ⟨a, below, here⟩
      obtain ⟨c, target, ⟨d, p, c', rfl, checked, extended, rfl⟩ | ⟨d, s, rfl, name, registered, rfl⟩⟩ :=
        Application.apply_eq_ok_iff.1 here
      · cases ih.1 below with
        | @stack ds _ stacked =>
          cases target
          exact Applied.stack (r := r) (stacked.param checked extended)
        | experiment => cases target
      · cases ih.1 below with
        | stack stacked =>
          cases target
          exact .experiment stacked name registered
        | experiment => cases target
    · intro h
      generalize all : l :: ls = links at h
      cases h with
      | @stack ds c stacked =>
        cases stacked with
        | bare => cases all
        | @param d ds p c₀ _ rest checked extended =>
          cases all
          exact ⟨⟨some c₀, r⟩, ih.2 (.stack rest), Application.apply_eq_ok_iff.2
            ⟨c₀, rfl, .inl ⟨d, p, c, rfl, checked, extended, rfl⟩⟩⟩
      | @experiment d ds c s stacked name registered =>
        cases all
        exact ⟨⟨some c, r⟩, ih.2 (.stack stacked), Application.apply_eq_ok_iff.2
          ⟨c, rfl, .inr ⟨d, s, rfl, name, registered, rfl⟩⟩⟩

theorem Application.applyAll_eq_iff {function : String} {a : Application} {ls : List Link} {s : Registry} :
    a.applyAll function ls = .start s ↔ ∃ b, ls.foldlM (apply function) a = .ok b ∧ b.registry = s := by
  induction ls generalizing a with
  | nil =>
    constructor
    · intro h
      cases h
      exact ⟨a, rfl, rfl⟩
    · rintro ⟨b, same, rfl⟩
      cases same
      rfl
  | cons l ls ih =>
    rw [List.foldlM_cons, applyAll]
    split
    · rename_i e failed
      rw [failed]
      constructor
      · intro h
        cases h
      · rintro ⟨b, h, -⟩
        cases h
    · rename_i b applied
      rw [applied]
      exact ih

/-! ## Carrying out a function -/

namespace Loading

variable {entries : EntryTable} {f : Source.Function} {r s : Registry}

theorem addFunction_of_alone {x : Loading} (h : f.decorators = [] ∨ f.isForeign = true) :
    x.addFunction entries f = x := by
  unfold addFunction
  rw [if_pos]
  rcases h with none | foreign
  · simp [none]
  · simp [foreign]

/-- a function that is not left alone succeeds when its links can be applied -/
theorem addFunction_eq_start_iff (some : f.decorators ≠ []) (own : f.isForeign = false) :
    (start r).addFunction entries f = start s ↔ f.isAsync = false ∧ ∃ links b,
      f.decorators.mapM Source.Decorator.link = .ok links ∧ Applied (f.entry entries) r links b ∧ b.registry = s := by
  unfold addFunction
  rw [if_neg (by simp [start, some, own])]
  cases linked : f.decorators.mapM Source.Decorator.link with
  | error e =>
    constructor
    · intro h; cases h
    · rintro ⟨-, links, -, h, -⟩
      cases h
  | ok links =>
    simp only
    split_ifs with async
    · constructor
      · intro h; cases h
      · rintro ⟨sync, -⟩
        rw [async] at sync
        cases sync
    · have sync : f.isAsync = false := by simpa using async
      change Application.applyAll f.name ⟨_, r⟩ _ = _ ↔ _
      rw [Application.applyAll_eq_iff]
      constructor
      · rintro ⟨b, applied, registry⟩
        exact ⟨sync, links, b, rfl, applied_iff.1 applied, registry⟩
      · rintro ⟨-, links', b, h, applied, registry⟩
        cases h
        exact ⟨b, applied_iff.2 applied, registry⟩

end Loading

/-! ## Carrying out many functions -/

namespace Loading

variable {entries : EntryTable} {y : Loading}

theorem result_eq_ok_iff : y.result = .ok () ↔ y.failure = none := by
  unfold result
  cases y.failure <;> simp

theorem result_eq_error_iff {e : Failure} : y.result = .error e ↔ y.failure = some e := by
  unfold result
  cases y.failure <;> simp

theorem eq_start (h : y.failure = none) : y = start y.registry := by
  cases y
  cases h
  rfl

/-- what stopped a loading stays -/
theorem addFunctions_of_failure {fs : List Source.Function} (stopped : y.failure ≠ none) :
    y.addFunctions entries fs = y :=
  List.foldl_fixed' (fun f => by simp [addFunction, Option.isSome_iff_ne_none.2 stopped]) fs

theorem add_of_failure {files : Files} (stopped : y.failure ≠ none) (d : Declarations) : y.add files d = y := by
  have some : y.failure.isSome = true := Option.isSome_iff_ne_none.2 stopped
  cases d with
  | file path entries => simp only [add, some, if_true]
  | native name registrations => exact List.foldl_fixed' (fun r => by rw [addRegistration, if_pos some]) registrations

theorem addFiles_of_failure {files : Files} {paths : List String} (stopped : y.failure ≠ none) :
    paths.foldl (fun y path => y.add files (.file path entries)) y = y :=
  List.foldl_fixed' (fun path => add_of_failure stopped (.file path entries)) paths

theorem addText_of_read {origin text : String} {m : Source.Module} (clear : y.failure = none)
    (read : Source.Module.read? text = some m) :
    y.addText entries origin text = y.addFunctions entries m.functions := by
  rw [addText, if_neg (by simp [clear]), read]

/-- a loading that fails has a first function at which it does -/
theorem first_failure {fs : List Source.Function} (clear : y.failure = none)
    (failed : (y.addFunctions entries fs).failure ≠ none) :
    ∃ before f after, fs = before ++ f :: after ∧ (y.addFunctions entries before).failure = none ∧
      y.addFunctions entries fs = (y.addFunctions entries before).addFunction entries f := by
  induction fs generalizing y with
  | nil => exact absurd clear failed
  | cons f fs ih =>
    by_cases here : (y.addFunction entries f).failure = none
    · obtain ⟨before, g, after, rfl, clear, last⟩ := ih here failed
      exact ⟨f :: before, g, after, rfl, clear, last⟩
    · exact ⟨[], f, fs, rfl, clear, addFunctions_of_failure here⟩

end Loading

end Trialbook
