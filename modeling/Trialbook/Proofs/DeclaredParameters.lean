/-
DECLARED PARAMETERS: what declaring parameters one after the other makes of an entry.

Parameters are declared from the innermost out (`Chain.declare`). One conflicts with those before it
(`Spec.Conflicts`) when its name has come up and its settings are not those that came up first with the name.

Invariant (`Collapsed`): the chain has, of each name that has come up, the spec that came up first with it, and the name
that came up last goes first.

Results:
- `Collapsed.addSpec`, `Collapsed.addSpec_eq_error_iff`: one declaration keeps the invariant, unless it conflicts.
- `Chain.declare_entry`, `Chain.declare_collapsed`: so do all of them, and the entry stays.
- `Chain.declare_eq_error_iff`: or the first that conflicts is refused.
- `Collapsed.unique`: the invariant leaves no choice.
- `parameters_declared`: all of this for a bare entry, and that an entry of another arity takes no parameter.
-/
import Trialbook.Proofs.Registrations

namespace Trialbook

/-! ## Names that have come up -/

/-- the spec that came up first under a name -/
def firstUnder (name : String) (ps : List Spec) : Option Spec := ps.find? fun p => p.name == name

/-- where a name came up first -/
def cameUp (name : String) (ps : List Spec) : Nat := ps.findIdx fun p => p.name == name

section

variable {name : String} {ps : List Spec} {p q : Spec}

theorem firstUnder_snoc : firstUnder name (ps ++ [p]) =
    (firstUnder name ps).or (if p.name = name then some p else none) := by
  simp [firstUnder, List.find?_append, List.find?_singleton]

theorem name_of_firstUnder (h : firstUnder name ps = some p) : p.name = name := by
  simpa using List.find?_some h

theorem cameUp_lt (h : firstUnder name ps = some p) : cameUp name ps < ps.length :=
  List.findIdx_lt_length_of_exists ⟨p, List.mem_of_find?_eq_some h, beq_iff_eq.2 (name_of_firstUnder h)⟩

theorem cameUp_snoc_of_some (h : firstUnder name ps = some q) : cameUp name (ps ++ [p]) = cameUp name ps := by
  have before : ps.findIdx (fun p => p.name == name) < ps.length := cameUp_lt h
  rw [cameUp, List.findIdx_append, if_pos before, cameUp]

theorem cameUp_snoc_of_none (new : firstUnder p.name ps = none) : cameUp p.name (ps ++ [p]) = ps.length := by
  have nowhere : ps.findIdx (fun q => q.name == p.name) = ps.length :=
    List.findIdx_eq_length.2 fun q hq => Bool.eq_false_iff.2 (List.find?_eq_none.1 new q hq)
  rw [cameUp, List.findIdx_append, if_neg (by omega)]
  simp

end

/-! ## Chains -/

/-- comes up with other settings than those that came up first with its name -/
def Spec.Conflicts (before : List Spec) (p : Spec) : Prop := ∃ q, firstUnder p.name before = some q ∧ q.same p = false

/-- what is left of parameters: each name once, where it came up first, the innermost last -/
structure Collapsed (ps ds : List Spec) : Prop where
  /-- of each name, the spec that came up first -/
  first : ∀ p, p ∈ ds ↔ firstUnder p.name ps = some p
  distinct : (ds.map Spec.name).Nodup
  /-- the name that came up last goes first -/
  order : ds.Pairwise fun p q => cameUp q.name ps < cameUp p.name ps

namespace Collapsed

variable {before ps ds ds' : List Spec} {p q : Spec} {name : String}

theorem nil : Collapsed [] [] := ⟨by simp [firstUnder], List.nodup_nil, List.Pairwise.nil⟩

/-- look-up of a name finds what came up first with it -/
theorem find?_eq (h : Collapsed before ds) (name : String) :
    ds.find? (fun q => q.name == name) = firstUnder name before := by
  cases found : ds.find? fun q => q.name == name with
  | some q =>
    have named : q.name = name := by simpa using List.find?_some found
    exact (named ▸ (h.first q).1 (List.mem_of_find?_eq_some found)).symm
  | none =>
    cases first : firstUnder name before with
    | none => rfl
    | some q =>
      have named := name_of_firstUnder first
      have member : q ∈ ds := (h.first q).2 (named.symm ▸ first)
      exact absurd (beq_iff_eq.2 named) (List.find?_eq_none.1 found q member)

/-- what comes up later does not change where names came up first -/
theorem order_snoc (h : Collapsed before ds) (p : Spec) :
    ds.Pairwise fun q r => cameUp r.name (before ++ [p]) < cameUp q.name (before ++ [p]) := by
  refine h.order.imp_of_mem fun {q r} hq hr later => ?_
  rwa [cameUp_snoc_of_some ((h.first q).1 hq), cameUp_snoc_of_some ((h.first r).1 hr)]

/-- a new name goes first -/
theorem cons (h : Collapsed before ds) (new : firstUnder p.name before = none) :
    Collapsed (before ++ [p]) (p :: ds) where
  first q := by
    rw [firstUnder_snoc, List.mem_cons, h.first]
    by_cases named : p.name = q.name
    · rw [← named, new, if_pos rfl, Option.none_or, Option.some.injEq]
      exact ⟨fun own => own.elim Eq.symm fun absent => (nomatch absent), fun own => .inl own.symm⟩
    · rw [if_neg named, Option.or_none]
      exact or_iff_right fun own => named (own ▸ rfl)
  distinct := by
    refine List.nodup_cons.2 ⟨fun used => ?_, h.distinct⟩
    obtain ⟨q, hq, named⟩ := List.mem_map.1 used
    have found := (h.first q).1 hq
    rw [named, new] at found
    cases found
  order := by
    refine List.pairwise_cons.2 ⟨fun q hq => ?_, h.order_snoc p⟩
    have found := (h.first q).1 hq
    rw [cameUp_snoc_of_none new, cameUp_snoc_of_some found]
    exact cameUp_lt found

/-- a name that has come up changes nothing -/
theorem snoc (h : Collapsed before ds) (found : firstUnder p.name before = some q) : Collapsed (before ++ [p]) ds where
  first r := by
    rw [firstUnder_snoc, h.first]
    by_cases named : p.name = r.name
    · rw [← named, found, Option.some_or]
    · rw [if_neg named, Option.or_none]
  distinct := h.distinct
  order := h.order_snoc p

/-- one declaration keeps what is left in order -/
theorem addSpec (h : Collapsed before ds) (added : Chain.addSpec ds p = .ok ds') : Collapsed (before ++ [p]) ds' := by
  unfold Chain.addSpec at added
  rw [h.find?_eq] at added
  split at added
  · rename_i new
    cases added
    exact h.cons new
  · rename_i q found
    split_ifs at added
    cases added
    exact h.snoc found

/-- unless it conflicts -/
theorem addSpec_eq_error_iff (h : Collapsed before ds) {e : SpecError} :
    Chain.addSpec ds p = .error e ↔ p.Conflicts before ∧ .duplicateParam p.name = e := by
  unfold Chain.addSpec Spec.Conflicts
  rw [h.find?_eq]
  cases found : firstUnder p.name before with
  | none => simp
  | some q => cases same : q.same p <;> simp [same]

/-- the order leaves no choice -/
theorem unique (h : Collapsed ps ds) (h' : Collapsed ps ds') : ds = ds' := by
  have perm : ds.Perm ds' := by
    refine (List.perm_ext_iff_of_nodup h.distinct.of_map h'.distinct.of_map).2 fun p => ?_
    rw [h.first, h'.first]
  exact perm.eq_of_pairwise (fun p q _ _ above below => absurd above (Nat.lt_asymm below)) h.order h'.order

end Collapsed

/-! ## Declarations in turn -/

namespace Chain

variable {before ps : List Spec} {c c' : Chain}

/-- declares parameters, the innermost first -/
def declare (c : Chain) (ps : List Spec) : Except Failure Chain := ps.foldlM (fun c p => c.param p) c

theorem param_eq_error_iff (one : c.entry.arity = 1) (h : Collapsed before c.declared) {p : Spec} {f : Failure} :
    c.param p = .error f ↔ p.Conflicts before ∧ f = .spec (.duplicateParam p.name) := by
  rw [param_eq one]
  cases added : addSpec c.declared p with
  | error e =>
    obtain ⟨conflicts, rfl⟩ := h.addSpec_eq_error_iff.1 added
    exact ⟨fun failed => ⟨conflicts, (Except.error.inj failed).symm⟩, fun failed => failed.2 ▸ rfl⟩
  | ok ds =>
    refine iff_of_false (fun refused => nomatch refused) fun ⟨conflicts, _⟩ => ?_
    rw [h.addSpec_eq_error_iff.2 ⟨conflicts, rfl⟩] at added
    cases added

/-- a chain with a parameter has parameters -/
theorem param_eq_params {p : Spec} (declared : c.param p = .ok c') : c' = .params c'.entry c'.declared := by
  cases c
  all_goals
    simp only [param] at declared
    split at declared
    · cases declared
      rfl
    · cases declared

/-- declarations keep the entry -/
theorem declare_entry (declared : c.declare ps = .ok c') : c'.entry = c.entry :=
  foldlM_keeps (fun _ _ _ kept here => (param_eq_ok here).1.trans kept) rfl declared

/-- and what is left in order -/
theorem declare_collapsed (h : Collapsed before c.declared) (declared : c.declare ps = .ok c') :
    Collapsed (before ++ ps) c'.declared := by
  induction ps generalizing c before with
  | nil =>
    cases declared
    rwa [List.append_nil]
  | cons p ps ih =>
    rw [declare, List.foldlM_cons] at declared
    obtain ⟨d, here, rest⟩ := bind_eq_ok_iff.1 declared
    rw [List.append_cons]
    exact ih (h.addSpec (param_eq_ok here).2) rest

/-- they fail at the first parameter that conflicts -/
theorem declare_eq_error_iff (one : c.entry.arity = 1) (h : Collapsed before c.declared) {f : Failure} :
    c.declare ps = .error f ↔ ∃ above p, First (fun above p => p.Conflicts (before ++ above)) ps above p ∧
      f = .spec (.duplicateParam p.name) := by
  rw [← failureOf_eq_some_iff]
  refine (stops_iff (fun c ps => failureOf (Chain.declare c ps))
    (fun before c => c.entry.arity = 1 ∧ Collapsed before c.declared)
    (fun before p f => p.Conflicts before ∧ f = .spec (.duplicateParam p.name)) (fun _ _ _ => rfl)
    (fun before c p ps ⟨one, h⟩ => ?_) before c ⟨one, h⟩).trans ?_
  · simp only [declare, List.foldlM_cons]
    cases here : c.param p with
    | error e =>
      refine .inl ⟨e, rfl, fun e' => ?_⟩
      rw [← param_eq_error_iff one h, here, Except.error.injEq]
    | ok d =>
      obtain ⟨entry, added⟩ := param_eq_ok here
      refine .inr ⟨fun e' conflicts => ?_, d, ⟨entry ▸ one, h.addSpec added⟩, rfl⟩
      rw [(param_eq_error_iff one h).2 conflicts] at here
      cases here
  · simp only [exists_eq_right]
    exact exists₂_congr fun above p => and_congr_right fun first => and_iff_right first.here

/-- after the last declaration there is a parameter -/
theorem declare_eq_params (some : ps ≠ []) (declared : c.declare ps = .ok c') : c' = .params c'.entry c'.declared := by
  obtain ⟨init, last, rfl⟩ := (List.eq_nil_or_concat' ps).resolve_left some
  rw [declare, List.foldlM_append] at declared
  obtain ⟨d, -, here⟩ := bind_eq_ok_iff.1 declared
  obtain ⟨d', here, rest⟩ := bind_eq_ok_iff.1 here
  cases rest
  exact param_eq_params here

end Chain

/-- no parameter conflicts with those before it -/
def Agreeing (ps : List Spec) : Prop := ∀ before p after, ps = before ++ p :: after → ¬ p.Conflicts before

theorem agreeing_iff {ps : List Spec} :
    Agreeing ps ↔ ¬ ∃ before p, First (fun before p => p.Conflicts before) ps before p := by
  constructor
  · rintro agree ⟨before, p, ⟨after, split⟩, conflicts, -⟩
    exact agree before p after split conflicts
  · rintro none before p after split conflicts
    exact none (exists_first split conflicts)

/-- **Parameters declared one after the other.** On an entry of one argument they are declared just when none conflicts
with those before it. Then the chain has the entry and, of each name, the spec that came up first with it, the name that
came up last at the front, and there is only one way for this. Else the first that conflicts is refused by its name. An
entry of another arity refuses the first parameter already. No declaration ever replaces the entry of a chain. -/
theorem parameters_declared (e : Entry) (ps : List Spec) (some : ps ≠ []) :
    (e.arity = 1 →
      ((∃ c, (Chain.bare e).declare ps = .ok c) ↔ Agreeing ps) ∧
      (∀ c, (Chain.bare e).declare ps = .ok c →
        ∃ ds, c = .params e ds ∧ Collapsed ps ds ∧ ∀ ds', Collapsed ps ds' → ds' = ds) ∧
      ∀ f, (Chain.bare e).declare ps = .error f ↔
        ∃ before p, First (fun before p => p.Conflicts before) ps before p ∧ f = .spec (.duplicateParam p.name)) ∧
    (e.arity ≠ 1 → (∀ p, (Chain.bare e).param p = .error (.declaration (.badArity .param e.arity))) ∧
      (Chain.bare e).declare ps = .error (.declaration (.badArity .param e.arity))) ∧
    ∀ (c c' : Chain) (qs : List Spec), c.declare qs = .ok c' → c'.entry = c.entry := by
  refine ⟨fun one => ?_, fun other => ⟨Chain.param_of_arity other, ?_⟩, fun c c' qs => Chain.declare_entry⟩
  · have refused {f : Failure} : (Chain.bare e).declare ps = .error f ↔
        ∃ before p, First (fun before p => p.Conflicts before) ps before p ∧ f = .spec (.duplicateParam p.name) :=
      Chain.declare_eq_error_iff (c := .bare e) one Collapsed.nil
    refine ⟨?_, fun c declared => ?_, fun f => refused⟩
    · rw [agreeing_iff]
      constructor
      · rintro ⟨c, declared⟩ ⟨before, p, first⟩
        rw [refused.2 ⟨before, p, first, rfl⟩] at declared
        cases declared
      · intro none
        cases declared : (Chain.bare e).declare ps with
        | ok c => exact ⟨c, rfl⟩
        | error f =>
          obtain ⟨before, p, first, -⟩ := refused.1 declared
          exact absurd ⟨before, p, first⟩ none
    · have entry : c.entry = e := Chain.declare_entry declared
      have collapsed : Collapsed ps c.declared := Chain.declare_collapsed (c := .bare e) .nil declared
      exact ⟨c.declared, entry ▸ Chain.declare_eq_params some declared, collapsed, fun ds' own => own.unique collapsed⟩
  · obtain ⟨p, rest, rfl⟩ := List.exists_cons_of_ne_nil some
    rw [Chain.declare, List.foldlM_cons, Chain.param_of_arity other]
    rfl

def fitHandler : Handler := ⟨"fit", fun _ => .ok ()⟩

def rateParam (rate : Binary64) : Spec := ⟨"lr", .float, some (.float rate), false, none, []⟩

def sizeParam : Spec := ⟨"size", .int, some (.int 7), false, none, []⟩

/-- a name that comes back with the same settings is kept where it came up first; what is no number is not the same as
itself, so that it conflicts; and an entry of two arguments takes nothing -/
theorem parameters_declared_rates :
    (∃ ds, (Chain.bare (.native 1 fitHandler)).declare [rateParam .one, sizeParam, rateParam .one] =
        .ok (.params (.native 1 fitHandler) ds) ∧ ds = [sizeParam, rateParam .one] ∧
      Collapsed [rateParam .one, sizeParam, rateParam .one] ds) ∧
    (¬ Agreeing [rateParam (.nan false), rateParam (.nan false)] ∧
      (Chain.bare (.native 1 fitHandler)).declare [rateParam (.nan false), rateParam (.nan false)] =
        .error (.spec (.duplicateParam "lr"))) ∧
    (Chain.bare (.native 2 fitHandler)).declare [sizeParam] = .error (.declaration (.badArity .param 2)) := by
  have kept : (Chain.bare (.native 1 fitHandler)).declare [rateParam .one, sizeParam, rateParam .one] =
      .ok (.params (.native 1 fitHandler) [sizeParam, rateParam .one]) := by rfl
  have refused : (Chain.bare (.native 1 fitHandler)).declare [rateParam (.nan false), rateParam (.nan false)] =
      .error (.spec (.duplicateParam "lr")) := by rfl
  obtain ⟨-, chain, -⟩ := (parameters_declared (.native 1 fitHandler) [rateParam .one, sizeParam, rateParam .one]
    (List.cons_ne_nil _ _)).1 rfl
  obtain ⟨agreeing, -, -⟩ := (parameters_declared (.native 1 fitHandler)
    [rateParam (.nan false), rateParam (.nan false)] (List.cons_ne_nil _ _)).1 rfl
  obtain ⟨ds, same, collapsed, -⟩ := chain _ kept
  cases same
  refine ⟨⟨_, kept, rfl, collapsed⟩, ⟨fun agree => ?_, refused⟩,
    ((parameters_declared (.native 2 fitHandler) [sizeParam] (List.cons_ne_nil _ _)).2.1 (by decide)).2⟩
  obtain ⟨c, declared⟩ := agreeing.2 agree
  rw [refused] at declared
  cases declared

end Trialbook
