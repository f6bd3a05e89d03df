/-
REGISTRATIONS: everything that loading does to a registry.

A chain is made (`Chain.Made`) when it begins with a bare entry and everything declared on it is a checked draft. A
registry grows into another (`Registry.Grows`) when made chains are registered in it, one after the other, under names
that are ones. Whatever is loaded, and however that ends, the registry grows and nothing else: what holds of the empty
registry and is kept by one registration holds of every registry that a launcher ever has.

Results:
- `Registry.of_get?`: what look-up finds is registered, under the name that was looked up.
- `Registry.register_eq_ok_iff`: a registration succeeds on an entry of one argument under a free name, and then adds
  one experiment at the end.
- `Chain.addSpec_eq_ok_iff`: when a parameter can be declared on top of others, and what that makes of them.
- `Registry.Grows.isPrefix`: what is registered stays where it is.
- `Loading.add_grows`: carrying out any declarations, of files or of the host, grows the registry.
-/
import Mathlib.Tactic
import Trialbook.Proofs.Traversals
import Trialbook.Registry.Loading

namespace Trialbook

/-! ## Registries -/

namespace Registry

theorem of_get? {r : Registry} {name : String} {e : Experiment} (h : r.get? name = some e) :
    e ∈ r.experiments ∧ e.name = name := by
  obtain ⟨i, position, at_i⟩ := Option.bind_eq_some_iff.1 h
  have named := position?_eq_some_iff.1 position
  rw [names, List.getElem?_map, at_i] at named
  exact ⟨List.mem_iff_getElem?.2 ⟨i, at_i⟩, Option.some.inj named⟩

@[simp] theorem experiments_push (r : Registry) (e : Experiment) (fresh : e.name ∉ r.names) :
    (r.push e fresh).experiments = r.experiments ++ [e] := rfl

theorem insert_eq_ok_iff {r s : Registry} {e : Experiment} :
    r.insert e = .ok s ↔ ∃ fresh : e.name ∉ r.names, s = r.push e fresh := by
  unfold insert
  split_ifs with taken
  · simp [contains_iff.1 taken]
  · simp [mt contains_iff.2 taken, eq_comm]

end Registry

theorem Entry.checkArity_eq_ok_iff {c : Combinator} {e : Entry} : e.checkArity c = .ok () ↔ e.arity = 1 := by
  unfold Entry.checkArity
  split_ifs with one <;> simp [one]

theorem Registry.register_eq_ok_iff {r s : Registry} {name : String} {seed : Option Int64} {c : Chain} :
    r.register name seed c = .ok s ↔ c.entry.arity = 1 ∧ ∃ fresh : name ∉ r.names,
      s = r.push ⟨name, withSeed seed c.declared, some c.entry⟩ fresh := by
  rw [register, bind_eq_ok_iff]
  constructor
  · rintro ⟨⟨⟩, one, added⟩
    exact ⟨Entry.checkArity_eq_ok_iff.1 one, insert_eq_ok_iff.1 added⟩
  · rintro ⟨one, added⟩
    exact ⟨(), Entry.checkArity_eq_ok_iff.2 one, insert_eq_ok_iff.2 added⟩

/-! ## Chains -/

namespace Chain

/-- a parameter under a new name goes first; one that is the same as that of its name changes nothing -/
theorem addSpec_eq_ok_iff {ps qs : List Spec} {p : Spec} :
    addSpec ps p = .ok qs ↔ (p.name ∉ ps.map Spec.name ∧ qs = p :: ps) ∨
      ∃ q, ps.find? (fun q => q.name == p.name) = some q ∧ q.same p = true ∧ qs = ps := by
  unfold addSpec
  cases found : ps.find? fun q => q.name == p.name with
  | none =>
    have fresh : p.name ∉ ps.map Spec.name := fun hm => by
      obtain ⟨q, hq, same⟩ := List.mem_map.1 hm
      exact List.find?_eq_none.1 found q hq (beq_iff_eq.2 same)
    constructor
    · intro h; cases h
      exact .inl ⟨fresh, rfl⟩
    · rintro (⟨-, rfl⟩ | ⟨q, missing, -⟩)
      · rfl
      · cases missing
  | some q =>
    have used : p.name ∈ ps.map Spec.name :=
      List.mem_map.2 ⟨q, List.mem_of_find?_eq_some found, by simpa using List.find?_some found⟩
    simp only
    split_ifs with same
    · constructor
      · intro h; cases h
        exact .inr ⟨q, rfl, same, rfl⟩
      · rintro (⟨fresh, -⟩ | ⟨-, -, -, rfl⟩)
        · exact absurd used fresh
        · rfl
    · constructor
      · intro h; cases h
      · rintro (⟨fresh, -⟩ | ⟨q', hq, same', -⟩)
        · exact absurd used fresh
        · cases hq; exact absurd same' same

/-- an entry of one argument takes every parameter that can be declared on top of the others -/
theorem param_eq {c : Chain} (one : c.entry.arity = 1) (p : Spec) : c.param p =
    match addSpec c.declared p with
    | .ok ds => .ok (.params c.entry ds)
    | .error e => .error (.spec e) := by
  cases c with
  | bare e =>
    have arity : e.checkArity .param = .ok () := Entry.checkArity_eq_ok_iff.2 one
    simp only [param, arity]
    rfl
  | params e ds =>
    simp only [param]
    rfl

theorem param_of_arity {e : Entry} (other : e.arity ≠ 1) (p : Spec) :
    (bare e).param p = .error (.declaration (.badArity .param e.arity)) := by
  simp only [param, Entry.checkArity, if_neg other]

/-- declaring a parameter needs an entry of one argument, keeps it, and adds to the parameters -/
theorem param_eq_ok {p : Spec} {c c' : Chain} (h : c.param p = .ok c') :
    c'.entry = c.entry ∧ addSpec c.declared p = .ok c'.declared := by
  cases c with
  | bare e =>
    simp only [param] at h
    split at h
    · cases h; exact ⟨rfl, rfl⟩
    · cases h
  | params e ps =>
    simp only [param] at h
    split at h
    · rename_i qs added
      cases h
      exact ⟨rfl, added⟩
    · cases h

end Chain

/-! ## Growth -/

/-- begins with a bare entry, and everything declared on it is a checked draft -/
inductive Chain.Made : Chain → Prop where
  | bare (e : Entry) : Made (.bare e)
  | param {c c' : Chain} {d : Draft} {p : Spec} : Made c → d.spec = .ok p → c.param p = .ok c' → Made c'

/-- made chains are registered one after the other -/
inductive Registry.Grows (r : Registry) : Registry → Prop where
  | refl : Grows r r
  | register {s t : Registry} {name : String} {seed : Option Int64} {c : Chain} :
    Grows r s → c.Made → checkName name = .ok () → s.register name seed c = .ok t → Grows r t

theorem Registry.Grows.trans {r s t : Registry} (h : Grows r s) (h' : Grows s t) : Grows r t := by
  induction h' with
  | refl => exact h
  | register _ made name registered ih => exact ih.register made name registered

/-- experiments are only ever added, at the end -/
theorem Registry.Grows.isPrefix {r s : Registry} (h : Grows r s) : r.experiments <+: s.experiments := by
  induction h with
  | refl => exact List.prefix_refl _
  | register _ _ _ registered ih =>
    obtain ⟨-, -, rfl⟩ := register_eq_ok_iff.1 registered
    exact ih.trans (List.prefix_append _ _)

/-! ## Links -/

namespace Application

/-- the chain, until it is registered, is a made one -/
def Made (a : Application) : Prop := ∀ c, a.target = some c → c.Made

/-- a link applies to a chain that is not registered yet: a checked draft extends it, an experiment registers it -/
theorem apply_eq_ok_iff {function : String} {a b : Application} {l : Link} :
    a.apply function l = .ok b ↔ ∃ c, a.target = some c ∧
      ((∃ d p c', l = .param d ∧ d.spec = .ok p ∧ c.param p = .ok c' ∧ b = ⟨some c', a.registry⟩) ∨
        ∃ d s, l = .experiment d ∧ checkName d.name = .ok () ∧ a.registry.register d.name d.seed c = .ok s ∧
          b = ⟨none, s⟩) := by
  constructor
  · intro h
    unfold apply at h
    split at h
    · cases h
    · rename_i c d target
      split at h
      · cases h
      · rename_i p checked
        split at h
        · cases h
        · rename_i c' extended
          exact ⟨c, target, .inl ⟨d, p, c', rfl, checked, extended, (Except.ok.inj h).symm⟩⟩
    · rename_i c d target
      split at h
      · cases h
      · rename_i name
        split at h
        · cases h
        · rename_i s registered
          exact ⟨c, target, .inr ⟨d, s, rfl, name, registered, (Except.ok.inj h).symm⟩⟩
  · rintro ⟨c, target, ⟨d, p, c', rfl, checked, extended, rfl⟩ | ⟨d, s, rfl, name, registered, rfl⟩⟩
    · simp only [apply, target, checked, extended]
    · simp only [apply, target, name, registered]

theorem apply_grows {function : String} {a b : Application} {l : Link} (made : a.Made)
    (h : a.apply function l = .ok b) : b.Made ∧ a.registry.Grows b.registry := by
  obtain ⟨c, target, ⟨d, p, c', -, checked, extended, rfl⟩ | ⟨d, s, -, name, registered, rfl⟩⟩ := apply_eq_ok_iff.1 h
  · refine ⟨fun k hk => ?_, .refl⟩
    cases hk
    exact (made c target).param checked extended
  · exact ⟨fun _ absent => (nomatch absent), Registry.Grows.refl.register (made c target) name registered⟩

theorem applyAll_grows {function : String} {a : Application} (made : a.Made) (ls : List Link) :
    a.registry.Grows (a.applyAll function ls).registry := by
  induction ls generalizing a with
  | nil => exact .refl
  | cons l ls ih =>
    unfold applyAll
    split
    · exact .refl
    · rename_i b applied
      obtain ⟨made', grows⟩ := apply_grows made applied
      exact grows.trans (ih made')

end Application

/-! ## Sources -/

theorem Registration.made_of_chain {r : Registration} {c : Chain} (h : r.chain = .ok c) : c.Made := by
  refine foldlM_keeps (fun b d b' made here => ?_) (.bare _) h
  split at here
  · cases here
  · rename_i p checked
    exact made.param checked here

namespace Loading

theorem addFunction_grows (entries : EntryTable) (x : Loading) (f : Source.Function) :
    x.registry.Grows (x.addFunction entries f).registry := by
  unfold addFunction
  split
  · exact .refl
  · split
    · exact .refl
    · split
      · exact .refl
      · refine Application.applyAll_grows (a := ⟨_, x.registry⟩) (fun c hc => ?_) _
        cases hc
        exact .bare _

theorem addRegistration_grows (x : Loading) (r : Registration) : x.registry.Grows (x.addRegistration r).registry := by
  unfold addRegistration
  split_ifs
  · exact .refl
  · split
    · exact .refl
    · rename_i c made
      split
      · exact .refl
      · rename_i name
        split
        · exact .refl
        · rename_i registered
          exact Registry.Grows.refl.register (Registration.made_of_chain made) name registered

/-- what each step grows, all of them grow -/
theorem foldl_grows {α : Type} {step : Loading → α → Loading}
    (grows : ∀ (x : Loading) (a : α), x.registry.Grows (step x a).registry) (x : Loading) (as : List α) :
    x.registry.Grows (as.foldl step x).registry := by
  induction as generalizing x with
  | nil => exact .refl
  | cons a as ih => exact (grows x a).trans (ih _)

theorem addFunctions_grows (entries : EntryTable) (x : Loading) (fs : List Source.Function) :
    x.registry.Grows (x.addFunctions entries fs).registry :=
  foldl_grows (addFunction_grows entries) x fs

theorem addText_grows (entries : EntryTable) (origin : String) (x : Loading) (text : String) :
    x.registry.Grows (x.addText entries origin text).registry := by
  unfold addText
  split_ifs
  · exact .refl
  · split
    · exact .refl
    · exact addFunctions_grows entries x _

/-- **Declarations only grow the registry**, whether they are carried out to their end or not. -/
theorem add_grows (files : Files) (x : Loading) (d : Declarations) : x.registry.Grows (x.add files d).registry := by
  cases d with
  | file path entries =>
    unfold add
    simp only
    split_ifs
    · exact .refl
    · split
      · exact .refl
      · exact addText_grows entries path x _
  | native name registrations => exact foldl_grows addRegistration_grows x registrations

end Loading

end Trialbook
