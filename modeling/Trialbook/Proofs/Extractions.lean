/-
EXTRACTIONS: how an extraction goes on from function to function.

A step stops the extraction, adds one experiment under a name that is free, or leaves what was found as it is (`turn`).
Once stopped, an extraction stays so (`addFunctions_of_error`).
-/
import Mathlib.Tactic
import Trialbook.Declaration.Survey
import Trialbook.Proofs.Verdicts

namespace Trialbook

namespace Extraction

variable {file : Option String} {x : Extraction} {f : Source.Function} {d : ExperimentDraft} {params : List Spec}

theorem step_of_error {e : ExtractError} (clear : x.error = none) (h : f.verdict = .error e) :
    (x.step file f).error = some e := by
  simp [step, clear, h]

theorem step_of_ignored (clear : x.error = none) (h : f.verdict = .ok .ignored) : x.step file f = x := by
  simp [step, clear, h]

theorem step_of_skipped {reason : SkipReason} (clear : x.error = none) (h : f.verdict = .ok (.skipped reason)) :
    x.step file f = { x with skipped := x.skipped ++ [⟨f.name, f.line, file, reason⟩] } := by
  simp [step, clear, h]

theorem step_of_not_kept {v : Verdict} (clear : x.error = none) (h : f.verdict = .ok v)
    (other : ∀ d params, v ≠ .kept d params) :
    (x.step file f).error = none ∧ (x.step file f).found = x.found := by
  cases v with
  | ignored => rw [step_of_ignored clear h]; exact ⟨clear, rfl⟩
  | skipped reason => rw [step_of_skipped clear h]; exact ⟨clear, rfl⟩
  | kept d params => exact absurd rfl (other d params)

/-- a name that was found before is a collision -/
theorem step_of_kept_of_mem (clear : x.error = none) (h : f.verdict = .ok (.kept d params))
    (taken : d.name ∈ x.found.map Declared.name) : (x.step file f).error = some (.duplicateExperiment d.name) := by
  obtain ⟨e, he, same⟩ := List.mem_map.1 taken
  have any : (x.found.any fun e => e.name == d.name) = true := List.any_eq_true.2 ⟨e, he, beq_iff_eq.2 same⟩
  simp only [step, clear, h, any, Option.isSome_none, Bool.false_eq_true, if_true, if_false]

theorem step_of_kept (clear : x.error = none) (h : f.verdict = .ok (.kept d params))
    (fresh : d.name ∉ x.found.map Declared.name) :
    x.step file f = { x with found := x.found ++ [⟨d.name, d.seed, f.name, f.line, file, params⟩] } := by
  have none : (x.found.any fun e => e.name == d.name) = false := by
    rw [← Bool.not_eq_true, List.any_eq_true]
    rintro ⟨e, he, same⟩
    exact fresh (List.mem_map.2 ⟨e, he, beq_iff_eq.1 same⟩)
  simp [step, clear, h, none]

/-- the ways a step can go, while nothing has stopped the extraction -/
inductive Turn (file : Option String) (x : Extraction) (f : Source.Function) : Prop where
  | collides {e : ExtractError} : f.verdict = .error e → (x.step file f).error = some e → Turn file x f
  | taken {d : ExperimentDraft} {params : List Spec} : f.verdict = .ok (.kept d params) →
    d.name ∈ x.found.map Declared.name → (x.step file f).error = some (.duplicateExperiment d.name) → Turn file x f
  | found {d : ExperimentDraft} {params : List Spec} : f.verdict = .ok (.kept d params) →
    d.name ∉ x.found.map Declared.name →
    x.step file f = { x with found := x.found ++ [⟨d.name, d.seed, f.name, f.line, file, params⟩] } → Turn file x f
  | passed {v : Verdict} : f.verdict = .ok v → (∀ d params, v ≠ .kept d params) → (x.step file f).error = none →
    (x.step file f).found = x.found → Turn file x f

theorem turn (file : Option String) (f : Source.Function) (clear : x.error = none) : Turn file x f := by
  cases verdict : f.verdict with
  | error e => exact .collides verdict (step_of_error clear verdict)
  | ok v =>
    by_cases kept : ∃ d params, v = .kept d params
    · obtain ⟨d, params, rfl⟩ := kept
      by_cases taken : d.name ∈ x.found.map Declared.name
      · exact .taken verdict taken (step_of_kept_of_mem clear verdict taken)
      · exact .found verdict taken (step_of_kept clear verdict taken)
    · have other (d : ExperimentDraft) (params : List Spec) : v ≠ .kept d params := fun same => kept ⟨d, params, same⟩
      obtain ⟨error, found⟩ := step_of_not_kept clear verdict other
      exact .passed verdict other error found

/-- what stopped an extraction stays -/
theorem addFunctions_of_error {fs : List Source.Function} (stopped : x.error ≠ none) : x.addFunctions file fs = x :=
  List.foldl_fixed' (fun f => by rw [step, if_pos (Option.isSome_iff_ne_none.2 stopped)]) fs

/-- what was found stays, and more comes after it -/
theorem found_prefix (fs : List Source.Function) : x.found <+: (x.addFunctions file fs).found := by
  induction fs generalizing x with
  | nil => exact List.prefix_refl _
  | cons f fs ih =>
    refine .trans ?_ (ih (x := x.step file f))
    unfold step
    split_ifs
    · exact List.prefix_refl _
    · split
      · exact List.prefix_refl _
      · exact List.prefix_refl _
      · exact List.prefix_refl _
      · split_ifs
        · exact List.prefix_refl _
        · exact List.prefix_append _ _

theorem addText_of_read {text : String} {m : Source.Module} (clear : x.error = none)
    (read : Source.Module.read? text = some m) : x.addText file text = x.addFunctions file m.functions := by
  rw [addText, if_neg (by simp [clear]), read]

theorem addFunctions_append (before after : List Source.Function) :
    x.addFunctions file (before ++ after) = (x.addFunctions file before).addFunctions file after :=
  List.foldl_append

/-- an extraction that is not stopped was not stopped before -/
theorem error_of_append (before : List Source.Function) {after : List Source.Function}
    (h : (x.addFunctions file (before ++ after)).error = none) : (x.addFunctions file before).error = none := by
  by_contra stopped
  rw [addFunctions_append, addFunctions_of_error stopped] at h
  exact stopped h

theorem result_eq_ok_iff {found : List Declared} : x.result = .ok found ↔ x.error = none ∧ x.found = found := by
  unfold result
  cases x.error <;> simp

theorem result_eq_error_iff {e : ExtractError} : x.result = .error e ↔ x.error = some e := by
  unfold result
  cases x.error <;> simp

end Extraction

/-! ## Surveys -/

namespace Survey

variable {s : Survey}

theorem result_eq_ok_iff {found : List Declared} :
    s.result = .ok found ↔ s.extraction.error = none ∧ s.unread = none ∧ s.extraction.found = found := by
  unfold result Extraction.result
  cases s.extraction.error <;> cases s.unread <;> simp

theorem result_eq_extraction_iff {e : ExtractError} :
    s.result = .error (.extraction e) ↔ s.extraction.error = some e := by
  unfold result Extraction.result
  cases s.extraction.error <;> cases s.unread <;> simp

end Survey

end Trialbook
