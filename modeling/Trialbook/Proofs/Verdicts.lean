/-
VERDICTS: what an extraction makes of a function.

A function is kept just when it is not asynchronous, its links are an experiment on top of drafts under names that
differ, and the drafts and the name pass their checks (`verdict_eq_kept_iff`). Where links are an experiment on top of
drafts and a name comes back, the verdict is that collision, whatever else may be wrong (`verdict_of_links`). What
loading leaves alone is never kept (`verdict_of_alone`).
-/
import Mathlib.Data.List.Nodup
import Trialbook.Declaration.Extraction
import Trialbook.Proofs.Traversals
import Trialbook.Registry.Loading

namespace Trialbook

/-! ## Decorators -/

namespace Source.Decorator

theorem link_eq_foreign_iff {d : Decorator} :
    (∃ text, d.link = .error (.foreign text)) ↔ d.expr.combinatorCall? = none := by
  unfold link
  split
  · rename_i none
    simp [none]
  · rename_i call
    simp [call]
  · rename_i call
    split <;> simp [call]

/-- the combinator that a decorator calls says what its link is -/
theorem callsExperiment_iff_of_link {d : Decorator} {l : Link} (h : d.link = .ok l) :
    d.callsExperiment = true ↔ ∃ x, l = .experiment x := by
  unfold link at h
  unfold callsExperiment
  split at h
  · cases h
  · cases h
  · rename_i c args call
    rw [call]
    split at h
    · rename_i l' made
      cases h
      obtain ⟨g, -, made⟩ := bind_eq_ok_iff.1 made
      cases c with
      | experiment =>
        cases draft : g.experimentDraft with
        | error e => rw [Given.link, draft] at made; cases made
        | ok x =>
          rw [Given.link, draft] at made
          cases made
          exact ⟨fun _ => ⟨x, rfl⟩, fun _ => rfl⟩
      | param =>
        cases draft : g.draft with
        | error e => rw [Given.link, draft] at made; cases made
        | ok x =>
          rw [Given.link, draft] at made
          cases made
          constructor
          · intro h; cases h
          · rintro ⟨y, h⟩; cases h
    · cases h

end Source.Decorator

namespace Source.Function

variable {f : Function} {d : ExperimentDraft} {ds : List Draft} {params : List Spec}

theorem isForeign_iff : f.isForeign = true ↔ ∃ d ∈ f.decorators, d.expr.combinatorCall? = none := by
  unfold isForeign
  rw [List.any_eq_true]
  refine exists_congr fun d => and_congr_right fun _ => ?_
  rw [← Decorator.link_eq_foreign_iff]
  split
  · rename_i text foreign
    exact ⟨fun _ => ⟨text, foreign⟩, fun _ => rfl⟩
  · rename_i other
    constructor
    · intro h; cases h
    · rintro ⟨text, foreign⟩
      exact absurd foreign (other text)

/-- links are read from decorators that are not foreign -/
theorem not_isForeign_of_links {links : List Link} (h : f.decorators.mapM Decorator.link = .ok links) :
    f.isForeign = false := by
  rw [← Bool.not_eq_true, isForeign_iff]
  rintro ⟨d, hd, foreign⟩
  obtain ⟨l, -, linked⟩ := exists_mem_of_forall₂ (mapM_eq_ok_iff.1 h).flip hd
  obtain ⟨text, failed⟩ := Decorator.link_eq_foreign_iff.2 foreign
  rw [linked] at failed
  cases failed

/-- the first link says whether a function is a declaration -/
theorem isDeclaration_iff_of_links {links : List Link} (h : f.decorators.mapM Decorator.link = .ok links) :
    f.isDeclaration = true ↔ f.isAsync = false ∧ ∃ x rest, links = .experiment x :: rest := by
  unfold isDeclaration
  have linked := mapM_eq_ok_iff.1 h
  cases decorators : f.decorators with
  | nil =>
    rw [decorators, List.forall₂_nil_left_iff] at linked
    simp [linked]
  | cons d ds =>
    rw [decorators] at linked
    obtain ⟨l, ls, here, -, rfl⟩ := List.forall₂_cons_left_iff.1 linked
    simp [Decorator.callsExperiment_iff_of_link here]

end Source.Function

/-! ## Gathering -/

namespace Gathered

variable {function : String} {d : ExperimentDraft} {ps ds : List Draft}

theorem add_param_of_mem {b : Draft} (again : b.name ∈ ps.map Draft.name) :
    add function ⟨some d, ps⟩ (.param b) = .error (.duplicateParam function b.name) := by
  obtain ⟨p, hp, same⟩ := List.mem_map.1 again
  have taken : (ps.any fun p => p.name == b.name) = true := List.any_eq_true.2 ⟨p, hp, beq_iff_eq.2 same⟩
  exact if_pos taken

theorem add_param_of_not_mem {b : Draft} (fresh : b.name ∉ ps.map Draft.name) :
    add function ⟨some d, ps⟩ (.param b) = .ok ⟨some d, ps ++ [b]⟩ := by
  refine if_neg fun again => ?_
  obtain ⟨p, hp, same⟩ := List.any_eq_true.1 again
  exact fresh (List.mem_map.2 ⟨p, hp, beq_iff_eq.1 same⟩)

/-- drafts are gathered in order, until a name comes back -/
theorem foldlM_add_params (function : String) (d : ExperimentDraft) (ps ds : List Draft)
    (distinct : (ps.map Draft.name).Nodup) : (((ps ++ ds).map Draft.name).Nodup ∧
      (ds.map Link.param).foldlM (add function) ⟨some d, ps⟩ = .ok ⟨some d, ps ++ ds⟩) ∨
      ∃ above lower below, ds = above ++ lower :: below ∧ lower.name ∈ (ps ++ above).map Draft.name ∧
        (ds.map Link.param).foldlM (add function) ⟨some d, ps⟩ = .error (.duplicateParam function lower.name) := by
  induction ds generalizing ps with
  | nil =>
    rw [List.append_nil]
    exact .inl ⟨distinct, rfl⟩
  | cons b ds ih =>
    rw [List.map_cons, List.foldlM_cons]
    by_cases again : b.name ∈ ps.map Draft.name
    · refine .inr ⟨[], b, ds, rfl, by rwa [List.append_nil], ?_⟩
      rw [add_param_of_mem again]
      rfl
    · rw [add_param_of_not_mem again]
      have distinct' : ((ps ++ [b]).map Draft.name).Nodup := by
        rw [List.map_append]
        exact List.nodup_append'.2 ⟨distinct, List.nodup_singleton _, List.disjoint_singleton.2 again⟩
      rcases ih (ps ++ [b]) distinct' with ⟨all, gathered⟩ | ⟨above, lower, below, rfl, back, stopped⟩
      · rw [List.append_assoc] at all gathered
        exact .inl ⟨all, gathered⟩
      · rw [List.append_assoc] at back
        exact .inr ⟨b :: above, lower, below, rfl, back, stopped⟩

/-- below an experiment only drafts can be gathered -/
theorem params_of_foldlM_add {ls : List Link} {g : Gathered} (h : ls.foldlM (add function) ⟨some d, ps⟩ = .ok g) :
    ∃ ds : List Draft, ls = ds.map .param := by
  induction ls generalizing ps with
  | nil => exact ⟨[], rfl⟩
  | cons l ls ih =>
    rw [List.foldlM_cons] at h
    obtain ⟨g', here, h⟩ := bind_eq_ok_iff.1 h
    cases l with
    | experiment x => cases here
    | param b =>
      by_cases again : b.name ∈ ps.map Draft.name
      · rw [add_param_of_mem again] at here
        cases here
      · rw [add_param_of_not_mem again] at here
        cases here
        obtain ⟨ds, rfl⟩ := ih h
        exact ⟨b :: ds, rfl⟩

theorem verdict_eq_kept_iff {g : Gathered} {params : List Spec} :
    g.verdict = .kept d params ↔
      g.experiment = some d ∧ g.params.mapM Draft.spec = .ok params ∧ checkName d.name = .ok () := by
  unfold verdict
  cases specs : g.params.mapM Draft.spec with
  | error e => simp
  | ok ps =>
    cases experiment : g.experiment with
    | none => simp
    | some x =>
      simp only
      split
      · rename_i e refused
        constructor
        · intro h; cases h
        · rintro ⟨h, -, name⟩
          cases h
          rw [refused] at name
          cases name
      · rename_i name
        constructor
        · intro h
          cases h
          exact ⟨rfl, rfl, name⟩
        · rintro ⟨h, h', -⟩
          cases h
          cases h'
          rfl

end Gathered

/-! ## Functions -/

namespace Source.Function

variable {f : Function} {d : ExperimentDraft} {ds : List Draft} {params : List Spec}

/-- an experiment on top of drafts is gathered, or the first name that comes back is a collision -/
theorem verdict_of_links (sync : f.isAsync = false)
    (h : f.decorators.mapM Decorator.link = .ok (.experiment d :: ds.map .param)) :
    ((ds.map Draft.name).Nodup ∧ f.verdict = .ok (Gathered.verdict ⟨some d, ds⟩)) ∨
      ∃ above lower below, ds = above ++ lower :: below ∧ lower.name ∈ above.map Draft.name ∧
        f.verdict = .error (.duplicateParam f.name lower.name) := by
  have declared : f.isDeclaration = true := (isDeclaration_iff_of_links h).2 ⟨sync, d, _, rfl⟩
  have gather : f.verdict =
      Gathered.verdict <$> (ds.map Link.param).foldlM (Gathered.add f.name) ⟨some d, []⟩ := by
    rw [verdict, if_pos declared, h]
    rfl
  rcases Gathered.foldlM_add_params f.name d [] ds List.nodup_nil with
    ⟨distinct, gathered⟩ | ⟨above, lower, below, rfl, back, stopped⟩
  · rw [gathered] at gather
    exact .inl ⟨distinct, gather⟩
  · rw [stopped] at gather
    exact .inr ⟨above, lower, below, rfl, back, gather⟩

/-- a declaration without collision has a decorator that is no link, or is checked with all that it declares -/
theorem verdict_of_declaration (declared : f.isDeclaration = true) {v : Verdict} (h : f.verdict = .ok v) :
    (∃ e, f.decorators.mapM Decorator.link = .error e ∧ v = .skipped (.unresolved e)) ∨
      ∃ (d : ExperimentDraft) (ds : List Draft), f.isAsync = false ∧
        f.decorators.mapM Decorator.link = .ok (.experiment d :: ds.map .param) ∧ (ds.map Draft.name).Nodup ∧
        v = Gathered.verdict ⟨some d, ds⟩ := by
  have verdict := h
  unfold Function.verdict at h
  rw [if_pos declared] at h
  split at h
  · rename_i e unread
    exact .inl ⟨e, unread, (Except.ok.inj h).symm⟩
  · rename_i links linked
    obtain ⟨sync, d, rest, rfl⟩ := (isDeclaration_iff_of_links linked).1 declared
    cases gathered : rest.foldlM (Gathered.add f.name) ⟨some d, []⟩ with
    | error e =>
      change Gathered.verdict <$> rest.foldlM (Gathered.add f.name) ⟨some d, []⟩ = _ at h
      rw [gathered] at h
      cases h
    | ok g =>
      obtain ⟨ds, rfl⟩ := Gathered.params_of_foldlM_add gathered
      rcases verdict_of_links sync linked with ⟨distinct, checked⟩ | ⟨_, _, _, -, -, stopped⟩
      · rw [verdict] at checked
        exact .inr ⟨d, ds, sync, linked, distinct, Except.ok.inj checked⟩
      · rw [verdict] at stopped
        cases stopped

theorem verdict_of_not_isDeclaration (other : ¬ f.isDeclaration = true) : f.verdict = .ok .ignored := if_neg other

theorem isDeclaration_of_kept (h : f.verdict = .ok (.kept d params)) : f.isDeclaration = true := by
  by_contra other
  rw [verdict_of_not_isDeclaration other] at h
  cases h

theorem verdict_eq_kept_iff : f.verdict = .ok (.kept d params) ↔ f.isAsync = false ∧ ∃ ds : List Draft,
    f.decorators.mapM Decorator.link = .ok (.experiment d :: ds.map .param) ∧ (ds.map Draft.name).Nodup ∧
      ds.mapM Draft.spec = .ok params ∧ checkName d.name = .ok () := by
  constructor
  · intro h
    rcases verdict_of_declaration (isDeclaration_of_kept h) h with ⟨e, -, skipped⟩ | ⟨x, ds, sync, linked, distinct, kept⟩
    · cases skipped
    · obtain ⟨experiment, specs, name⟩ := Gathered.verdict_eq_kept_iff.1 kept.symm
      cases experiment
      exact ⟨sync, ds, linked, distinct, specs, name⟩
  · rintro ⟨sync, ds, linked, distinct, specs, name⟩
    rcases verdict_of_links sync linked with ⟨-, verdict⟩ | ⟨above, lower, below, rfl, back, -⟩
    · rw [verdict, Gathered.verdict_eq_kept_iff.2 ⟨rfl, specs, name⟩]
    · rw [List.map_append, List.map_cons] at distinct
      exact absurd List.mem_cons_self (List.disjoint_of_nodup_append distinct back)

/-- a function that is left alone is not kept -/
theorem verdict_of_alone (h : f.decorators = [] ∨ f.isForeign = true) :
    ∃ v, f.verdict = .ok v ∧ ∀ d params, v ≠ .kept d params := by
  unfold verdict
  split_ifs with declared
  · split
    · exact ⟨_, rfl, fun _ _ kept => (nomatch kept)⟩
    · rename_i links linked
      exfalso
      rcases h with none | foreign
      · simp [isDeclaration, none] at declared
      · rw [not_isForeign_of_links linked] at foreign
        cases foreign
  · exact ⟨_, rfl, fun _ _ kept => (nomatch kept)⟩

/-- nor is one that only declares parameters -/
theorem verdict_of_params {ds : List Draft} (h : f.decorators.mapM Decorator.link = .ok (ds.map .param)) :
    f.verdict = .ok .ignored := by
  refine verdict_of_not_isDeclaration fun declared => ?_
  obtain ⟨-, x, rest, first⟩ := (isDeclaration_iff_of_links h).1 declared
  cases ds <;> cases first

/-- whether a function is kept, if nothing collides -/
def isKept (f : Function) : Bool :=
  match f.verdict with
  | .ok (.kept _ _) => true
  | _ => false

theorem isKept_iff : f.isKept = true ↔ ∃ d params, f.verdict = .ok (.kept d params) := by
  unfold isKept
  split
  · rename_i d params kept
    exact ⟨fun _ => ⟨d, params, kept⟩, fun _ => rfl⟩
  · rename_i other
    constructor
    · intro h; cases h
    · rintro ⟨d, params, kept⟩
      exact absurd kept (other d params)

end Source.Function

end Trialbook
