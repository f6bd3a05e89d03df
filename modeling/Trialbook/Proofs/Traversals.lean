/-
TRAVERSALS: lists gone through by a step that may fail.

A traversal succeeds when the step succeeds at every item, and then its results are those of the items in order
(`mapM_eq_ok_iff`); else it fails as the first item does at which the step fails (`mapM_eq_error_iff`). An item that may
be absent is traversed likewise (`option_mapM_eq_ok_iff`). What makes an item the first of a kind may depend on the items
before it (`First`).
-/
import Mathlib.Data.List.Forall2

namespace Trialbook

variable {ε α β : Type}

theorem bind_eq_ok_iff {x : Except ε α} {f : α → Except ε β} {b : β} :
    (x >>= f) = .ok b ↔ ∃ a, x = .ok a ∧ f a = .ok b := by
  cases x with
  | error e => simp [bind, Except.bind]
  | ok a => simp [bind, Except.bind]

theorem bind_eq_error_iff {x : Except ε α} {f : α → Except ε β} {e : ε} :
    (x >>= f) = .error e ↔ x = .error e ∨ ∃ a, x = .ok a ∧ f a = .error e := by
  cases x with
  | error e => simp [bind, Except.bind]
  | ok a => simp [bind, Except.bind]

theorem mapM_eq_ok_iff {f : α → Except ε β} {xs : List α} {ys : List β} :
    xs.mapM f = .ok ys ↔ List.Forall₂ (fun x y => f x = .ok y) xs ys := by
  induction xs generalizing ys with
  | nil =>
    rw [List.mapM_nil, List.forall₂_nil_left_iff]
    exact ⟨fun h => (Except.ok.inj h).symm, fun h => h ▸ rfl⟩
  | cons x xs ih =>
    rw [List.mapM_cons, List.forall₂_cons_left_iff, bind_eq_ok_iff]
    constructor
    · rintro ⟨y, hy, h⟩
      obtain ⟨rest, hrest, h⟩ := bind_eq_ok_iff.1 h
      exact ⟨y, rest, hy, ih.1 hrest, (Except.ok.inj h).symm⟩
    · rintro ⟨y, rest, hy, hrest, rfl⟩
      exact ⟨y, hy, bind_eq_ok_iff.2 ⟨rest, ih.2 hrest, rfl⟩⟩

theorem mapM_eq_some_iff {f : α → Option β} {xs : List α} {ys : List β} :
    xs.mapM f = some ys ↔ List.Forall₂ (fun x y => f x = some y) xs ys := by
  induction xs generalizing ys with
  | nil =>
    rw [List.mapM_nil, List.forall₂_nil_left_iff]
    exact ⟨fun h => (Option.some.inj h).symm, fun h => h ▸ rfl⟩
  | cons x xs ih =>
    rw [List.mapM_cons, List.forall₂_cons_left_iff, Option.bind_eq_bind, Option.bind_eq_some_iff]
    constructor
    · rintro ⟨y, hy, h⟩
      obtain ⟨rest, hrest, h⟩ := Option.bind_eq_some_iff.1 h
      exact ⟨y, rest, hy, ih.1 hrest, (Option.some.inj h).symm⟩
    · rintro ⟨y, rest, hy, hrest, rfl⟩
      exact ⟨y, hy, Option.bind_eq_some_iff.2 ⟨rest, ih.2 hrest, rfl⟩⟩

/-- what each step keeps, a fold that succeeds keeps -/
theorem foldlM_keeps {P : β → Prop} {f : β → α → Except ε β} (keeps : ∀ b a b', P b → f b a = .ok b' → P b')
    {as : List α} {b c : β} (start : P b) (h : as.foldlM f b = .ok c) : P c := by
  induction as generalizing b with
  | nil => exact Except.ok.inj h ▸ start
  | cons a as ih =>
    rw [List.foldlM_cons] at h
    obtain ⟨b', here, h⟩ := bind_eq_ok_iff.1 h
    exact ih (keeps b a b' start here) h

theorem option_mapM_eq_ok_iff {f : α → Except ε β} {x : Option α} {y : Option β} :
    x.mapM f = .ok y ↔ Option.Rel (fun a b => f a = .ok b) x y := by
  cases x with
  | none =>
    constructor
    · intro h
      cases h
      exact .none
    · rintro ⟨⟩
      rfl
  | some a =>
    rw [Option.mapM_some]
    constructor
    · intro h
      cases here : f a with
      | error e => rw [here] at h; cases h
      | ok b =>
        rw [here] at h
        cases h
        exact .some here
    · rintro (here | -)
      rw [here]
      rfl

theorem option_mapM_eq_error_iff {f : α → Except ε β} {x : Option α} {e : ε} :
    x.mapM f = .error e ↔ ∃ a, x = some a ∧ f a = .error e := by
  cases x with
  | none => exact ⟨fun h => (nomatch h), fun ⟨_, h, _⟩ => (nomatch h)⟩
  | some a =>
    rw [Option.mapM_some]
    cases here : f a with
    | error e' => simp [here, Functor.map, Except.map]
    | ok b => simp [here, Functor.map, Except.map]

/-- every result is that of an item -/
theorem exists_mem_of_forall₂ {R : α → β → Prop} {xs : List α} {ys : List β} (h : List.Forall₂ R xs ys) {y : β}
    (hy : y ∈ ys) : ∃ x ∈ xs, R x y := by
  induction h with
  | nil => cases hy
  | cons here _ ih =>
    rcases List.mem_cons.1 hy with rfl | hy
    · exact ⟨_, List.mem_cons_self, here⟩
    · obtain ⟨x, hx, hr⟩ := ih hy
      exact ⟨x, List.mem_cons_of_mem _ hx, hr⟩

/-! ## First items -/

/-- the first item of a kind, which may depend on the items before it -/
structure First (P : List α → α → Prop) (xs before : List α) (x : α) : Prop where
  split : ∃ after, xs = before ++ x :: after
  here : P before x
  fresh : ∀ above y below, before = above ++ y :: below → ¬ P above y

variable {P : List α → α → Prop} {x a : α} {xs before as : List α}

theorem not_first_nil : ¬ First P [] before x := by
  rintro ⟨⟨after, split⟩, -, -⟩
  cases before <;> cases split

theorem first_cons_iff : First P (a :: as) before x ↔ (before = [] ∧ x = a ∧ P [] a) ∨
    ¬ P [] a ∧ ∃ rest, before = a :: rest ∧ First (fun above => P (a :: above)) as rest x := by
  constructor
  · rintro ⟨⟨after, split⟩, here, fresh⟩
    cases before with
    | nil =>
      cases split
      exact .inl ⟨rfl, rfl, here⟩
    | cons b rest =>
      cases split
      exact .inr ⟨fresh [] a rest rfl, rest, rfl, ⟨after, rfl⟩, here,
        fun above y below same => fresh (a :: above) y below (by rw [same]; rfl)⟩
  · rintro (⟨rfl, rfl, here⟩ | ⟨other, rest, rfl, ⟨after, rfl⟩, here, fresh⟩)
    · exact ⟨⟨as, rfl⟩, here, fun above y below same => by cases above <;> cases same⟩
    · refine ⟨⟨after, rfl⟩, here, fun above y below same => ?_⟩
      cases above with
      | nil =>
        cases same
        exact other
      | cons b above =>
        cases same
        exact fresh above y below rfl

/-- where some item is of the kind, there is a first -/
theorem exists_first {after : List α} (split : xs = before ++ x :: after) (here : P before x) :
    ∃ above y, First P xs above y := by
  induction xs generalizing P before with
  | nil => cases before <;> cases split
  | cons a as ih =>
    by_cases first : P [] a
    · exact ⟨[], a, first_cons_iff.2 (.inl ⟨rfl, rfl, first⟩)⟩
    · cases before with
      | nil =>
        cases split
        exact absurd here first
      | cons b before =>
        cases split
        obtain ⟨above, y, rest⟩ := ih (P := fun above => P (a :: above)) rfl here
        exact ⟨a :: above, y, first_cons_iff.2 (.inr ⟨first, above, rfl, rest⟩)⟩

/-- a run over items, from state to state, ends at the first item that it cannot go on after -/
theorem stops_iff {σ : Type} (run : σ → List α → Option ε) (Inv : List α → σ → Prop) (R : List α → α → ε → Prop)
    (nil : ∀ before s, Inv before s → run s [] = none)
    (cons : ∀ before s a as, Inv before s → (∃ e, run s (a :: as) = some e ∧ ∀ e', R before a e' ↔ e = e') ∨
      (∀ e, ¬ R before a e) ∧ ∃ t, Inv (before ++ [a]) t ∧ run s (a :: as) = run t as)
    (before : List α) (s : σ) (inv : Inv before s) {as : List α} {e : ε} :
    run s as = some e ↔
      ∃ more a, First (fun more a => ∃ e, R (before ++ more) a e) as more a ∧ R (before ++ more) a e := by
  induction as generalizing before s with
  | nil => simp [nil before s inv, not_first_nil]
  | cons a as ih =>
    rcases cons before s a as inv with ⟨err, ends, here⟩ | ⟨passed, t, next, goesOn⟩
    · have stopped : R (before ++ []) a err := by rw [List.append_nil]; exact (here err).2 rfl
      rw [ends, Option.some.injEq]
      constructor
      · rintro rfl
        exact ⟨[], a, first_cons_iff.2 (.inl ⟨rfl, rfl, err, stopped⟩), stopped⟩
      · rintro ⟨more, b, first, ended⟩
        rcases first_cons_iff.1 first with ⟨rfl, rfl, -⟩ | ⟨other, -⟩
        · rw [List.append_nil] at ended
          exact (here e).1 ended
        · exact absurd ⟨err, stopped⟩ other
    · have passed : ¬ ∃ e, R (before ++ []) a e := by
        rintro ⟨err, ended⟩
        rw [List.append_nil] at ended
        exact passed err ended
      rw [goesOn, ih _ t next]
      simp only [← List.append_cons]
      constructor
      · rintro ⟨more, b, first, ended⟩
        exact ⟨a :: more, b, first_cons_iff.2 (.inr ⟨passed, more, rfl, first⟩), ended⟩
      · rintro ⟨more, b, first, ended⟩
        rcases first_cons_iff.1 first with ⟨-, -, ended⟩ | ⟨-, rest, rfl, later⟩
        · exact absurd ended passed
        · exact ⟨rest, b, later, ended⟩

/-- the error of what failed -/
def failureOf : Except ε α → Option ε
  | .error e => some e
  | .ok _ => none

theorem failureOf_eq_some_iff {r : Except ε α} {e : ε} : failureOf r = some e ↔ r = .error e := by
  cases r <;> simp [failureOf]

/-- a traversal fails as its first item that fails does -/
theorem mapM_eq_error_iff {f : α → Except ε β} {e : ε} :
    xs.mapM f = .error e ↔ ∃ before x, First (fun _ x => ∃ e, f x = .error e) xs before x ∧ f x = .error e := by
  rw [← failureOf_eq_some_iff]
  refine stops_iff (fun (_ : Unit) xs => failureOf (xs.mapM f)) (fun _ _ => True) (fun _ x e => f x = .error e)
    (fun _ _ _ => rfl) (fun before s a as _ => ?_) [] () trivial
  rw [List.mapM_cons]
  cases here : f a with
  | error e => exact .inl ⟨e, rfl, fun e' => by simp⟩
  | ok b =>
    refine .inr ⟨fun e failed => (nomatch failed), (), trivial, ?_⟩
    change failureOf (as.mapM f >>= fun bs => pure (b :: bs)) = _
    cases as.mapM f <;> rfl

end Trialbook
