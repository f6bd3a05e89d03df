/-
LOADABILITY: whatever is extracted can be loaded.

Of the checks that loading makes, extraction makes all but one: it does not ask how many arguments a function takes. And
it passes over functions that it does not keep, where loading takes up every function whose decorators are all links.

Result (`loads_of_extracted`): if the functions that are kept take one argument, and the other decorated functions have
a decorator that is foreign, then a text that is extracted can be loaded, and every experiment found is registered with
an entry.
-/
import Trialbook.Proofs.Agreement

namespace Trialbook

namespace Agree

variable {entries : EntryTable} {file : Option String} {x : Extraction} {y : Loading} {f : Source.Function}

/-- a kept function of one argument can be carried out, if its name is free -/
theorem loads_of_kept (h : Agree entries x y) {d : ExperimentDraft} {params : List Spec}
    (kept : f.verdict = .ok (.kept d params)) (free : (x.step file f).error = none) (one : f.arity = 1) :
    (y.addFunction entries f).failure = none := by
  obtain ⟨sync, ds, linked, distinct, specs, name⟩ := Source.Function.verdict_eq_kept_iff.1 kept
  have takes : (f.entry entries).arity = 1 := one
  obtain ⟨c, stacked, -⟩ := stacked_of_specs takes distinct specs
  have fresh : d.name ∉ y.registry.names := by
    rw [h.same.names]
    intro taken
    rw [Extraction.step_of_kept_of_mem h.extracted kept taken] at free
    cases free
  have registered : y.registry.register d.name d.seed c = .ok _ :=
    Registry.register_eq_ok_iff.2 ⟨stacked.entry ▸ takes, fresh, rfl⟩
  have decorated : f.decorators ≠ [] := by
    intro none
    rw [none] at linked
    cases linked
  rw [Loading.eq_start h.loaded, (Loading.addFunction_eq_start_iff decorated
    (Source.Function.not_isForeign_of_links linked)).2
      ⟨sync, _, _, linked, .experiment stacked name registered, rfl⟩]
  rfl

/-- many functions can be carried out, if those that are kept take one argument and the others are left alone -/
theorem loads {fs : List Source.Function} (h : Agree entries x y) (clear : (x.addFunctions file fs).error = none)
    (arity : ∀ f ∈ fs, f.isKept = true → f.arity = 1)
    (others : ∀ f ∈ fs, f.isKept = false → f.decorators = [] ∨ f.isForeign = true) :
    (y.addFunctions entries fs).failure = none := by
  induction fs generalizing x y with
  | nil => exact h.loaded
  | cons f fs ih =>
    have free : (x.step file f).error = none := Extraction.error_of_append [f] clear
    have here : (y.addFunction entries f).failure = none := by
      cases kept : f.isKept with
      | true =>
        obtain ⟨d, params, verdict⟩ := Source.Function.isKept_iff.1 kept
        exact h.loads_of_kept verdict free (arity f List.mem_cons_self kept)
      | false =>
        rw [Loading.addFunction_of_alone (others f List.mem_cons_self kept)]
        exact h.loaded
    rcases h.step file here with next | ⟨name, stopped, -⟩
    · exact ih next clear (fun g hg => arity g (List.mem_cons_of_mem f hg))
        fun g hg => others g (List.mem_cons_of_mem f hg)
    · rw [free] at stopped
      cases stopped

end Agree

theorem Registry.Matches.isBound {entries : EntryTable} {r : Registry} {found : List Declared}
    (h : r.Matches entries found) : ∀ e ∈ r.experiments, e.isBound = true := by
  intro e he
  obtain ⟨d, -, same⟩ := exists_mem_of_forall₂ h.flip he
  rw [Experiment.isBound, same.entry]
  rfl

/-! ## Main result -/

/-- **Everything extracted can be loaded.** Take a text that is extracted, whether or not something in it is skipped. If
every function that is kept takes one argument, and every other function that is decorated has a decorator that calls
no combinator, then the text is carried out without failure, the registry holds exactly the experiments that were found,
in order, and every one of them is bound to its function. -/
theorem loads_of_extracted (entries : EntryTable) (origin text : String) (m : Source.Module)
    (read : Source.Module.read? text = some m) (found : List Declared)
    (extracted : (Extraction.ofText text).result = .ok found)
    (arity : ∀ f ∈ m.functions, f.isKept = true → f.arity = 1)
    (others : ∀ f ∈ m.functions, f.isKept = false → f.decorators ≠ [] →
      ∃ d ∈ f.decorators, d.expr.combinatorCall? = none) :
    let loading := (Loading.start .empty).addText entries origin text
    loading.result = .ok () ∧ loading.registry.Matches entries found ∧
      ∀ e ∈ loading.registry.experiments, e.isBound = true := by
  intro loading
  have loadingFrom : loading = (Loading.start .empty).addFunctions entries m.functions :=
    Loading.addText_of_read rfl read
  rw [show Extraction.ofText text = Extraction.empty.addFunctions none m.functions from
    Extraction.addText_of_read rfl read, Extraction.result_eq_ok_iff] at extracted
  obtain ⟨clear, rfl⟩ := extracted
  have alone : ∀ f ∈ m.functions, f.isKept = false → f.decorators = [] ∨ f.isForeign = true := by
    intro f hf other
    by_cases bare : f.decorators = []
    · exact .inl bare
    · exact .inr (Source.Function.isForeign_iff.2 (others f hf other bare))
  have success := (Agree.empty entries).loads clear arity alone
  have all := (Agree.empty entries).addFunctions_of_clear none clear success
  rw [loadingFrom]
  exact ⟨Loading.result_eq_ok_iff.2 success, all.same, all.same.isBound⟩

/-- a declaration, and a function that is left alone -/
def cachedText : String :=
  "@experiment('train')\n@param('size', default=7)\ndef main(b): pass\n\n@cached\ndef helper(): pass\n"

theorem loads_of_extracted_cached :
    ∃ found, (Extraction.ofText cachedText).result = .ok found ∧
      ((Loading.start .empty).addText noHandlers "train.py" cachedText).registry.Matches noHandlers found := by
  obtain ⟨readable, clear, functions⟩ : (Source.Module.read? cachedText).isSome = true ∧
      (Extraction.ofText cachedText).error = none ∧
      ∀ m ∈ Source.Module.read? cachedText, (∀ f ∈ m.functions, f.isKept = true → f.arity = 1) ∧
        ∀ f ∈ m.functions, f.isKept = false → f.decorators ≠ [] →
          ∃ d ∈ f.decorators, d.expr.combinatorCall? = none := by decide +kernel
  obtain ⟨m, read⟩ := Option.isSome_iff_exists.1 readable
  obtain ⟨arity, others⟩ := functions m read
  have extracted := Extraction.result_eq_ok_iff.2 ⟨clear, rfl⟩
  exact ⟨_, extracted, (loads_of_extracted noHandlers "train.py" cachedText m read _ extracted arity others).2.1⟩

end Trialbook
