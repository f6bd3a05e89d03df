/-
SOUND SPECS: what the check of a draft guarantees.

A spec is sound (`Spec.Sound`) when its name is one, its default and its options are of its kind, and its default is
among its options if it has any. A parameter list is sound (`SoundParams`) when all its specs are and no name stands in
it twice.

Results:
- `isLetter_of_checkName`: names consist of letters, digits and underscores.
- `Draft.sound_of_spec`: every spec that comes out of the check is sound; `Spec.sound_seed`: so is the seed parameter.
- `Spec.accept_eq_ok`: an accepted text gives a value of the kind of the parameter, one of its options if it has any.
- `SoundParams.withSeed`: putting the seed parameter first keeps a parameter list sound.
-/
import Trialbook.Proofs.Names
import Trialbook.Proofs.Traversals

namespace Trialbook

/-! ## Names -/

theorem isLetter_of_checkName {name : String} (h : checkName name = .ok ()) :
    ∀ c ∈ name.toList, Name.isLetter c = true := by
  obtain ⟨-, first, rest, chars, begins, goesOn⟩ := checkName_eq_ok_iff.1 h
  rw [chars]
  intro c hc
  rcases List.mem_cons.1 hc with rfl | hc
  · exact Name.isLetter_iff.2 (.inl begins)
  · exact Name.isLetter_iff.2 (goesOn c hc)

/-! ## Kinds of values -/

theorem Kind.kind_of_read? {k : Kind} {raw : String} {v : Value} (h : k.read? raw = some v) : v.kind = k := by
  cases k with
  | str => cases h; rfl
  | int => obtain ⟨i, -, rfl⟩ := Option.map_eq_some_iff.1 h; rfl
  | float => obtain ⟨x, -, rfl⟩ := Option.map_eq_some_iff.1 h; rfl
  | bool =>
    simp only [Kind.read?] at h
    split_ifs at h <;> cases h <;> rfl

theorem Value.kind_of_convert? {v w : Value} {target : Kind} (h : v.convert? target = some w) : w.kind = target := by
  cases v with
  | str s => exact Kind.kind_of_read? h
  | float x =>
    cases target with
    | int => obtain ⟨i, -, rfl⟩ := Option.map_eq_some_iff.1 h; rfl
    | _ => cases h; rfl
  | _ => cases target <;> cases h <;> rfl

theorem convertFor_eq_ok_iff {name : String} {target : Kind} {v w : Value} :
    convertFor name target v = .ok w ↔ v.convert? target = some w := by
  unfold convertFor
  cases v.convert? target <;> simp

theorem convertFor_eq_error_iff {name : String} {target : Kind} {v : Value} {e : SpecError} :
    convertFor name target v = .error e ↔ v.convert? target = none ∧ .conversion name v target = e := by
  unfold convertFor
  cases v.convert? target <;> simp

/-! ## Checked drafts -/

/-- the name is one, default and options are of the kind, and the default is among the options if there are any -/
structure Spec.Sound (p : Spec) : Prop where
  name : checkName p.name = .ok ()
  default : ∀ v, p.default = some v → v.kind = p.kind
  options : ∀ v ∈ p.options, v.kind = p.kind
  among : p.options ≠ [] → ∃ v, p.default = some v ∧ (v.isIn p.options = true ∨ v ∈ p.options)

theorem Draft.spec_eq_ok_iff {d : Draft} {p : Spec} :
    d.spec = .ok p ↔ checkName d.name = .ok () ∧ ∃ stated options default,
      d.default.mapM (convertFor d.name d.resolvedKind) = .ok stated ∧
      (d.options.getD []).mapM (convertFor d.name d.resolvedKind) = .ok options ∧
      chooseDefault d.name stated options = .ok default ∧
      p = ⟨d.name, d.resolvedKind, default, d.required, d.description, options⟩ := by
  unfold Draft.spec
  constructor
  · intro h
    obtain ⟨⟨⟩, name, h⟩ := bind_eq_ok_iff.1 h
    obtain ⟨stated, hs, h⟩ := bind_eq_ok_iff.1 h
    obtain ⟨options, ho, h⟩ := bind_eq_ok_iff.1 h
    obtain ⟨default, hd, h⟩ := bind_eq_ok_iff.1 h
    exact ⟨name, stated, options, default, hs, ho, hd, (Except.ok.inj h).symm⟩
  · rintro ⟨name, stated, options, default, hs, ho, hd, rfl⟩
    exact bind_eq_ok_iff.2 ⟨(), name, bind_eq_ok_iff.2 ⟨stated, hs, bind_eq_ok_iff.2 ⟨options, ho,
      bind_eq_ok_iff.2 ⟨default, hd, rfl⟩⟩⟩⟩

/-- the stated default is chosen if it is one of the options, and the first option if there is none -/
theorem Draft.chooseDefault_eq_ok_iff {name : String} {stated chosen : Option Value} {options : List Value} :
    chooseDefault name stated options = .ok chosen ↔
      (∀ v, stated = some v → options = [] ∨ v.isIn options = true) ∧ stated.or options.head? = chosen := by
  cases options with
  | nil => simp [chooseDefault]
  | cons o os =>
    cases stated with
    | none => simp [chooseDefault]
    | some v =>
      simp only [chooseDefault]
      split_ifs with among <;> simp [among]

theorem Draft.chooseDefault_eq_error_iff {name : String} {stated : Option Value} {options : List Value}
    {e : SpecError} : chooseDefault name stated options = .error e ↔
      ∃ v, stated = some v ∧ options ≠ [] ∧ v.isIn options = false ∧ .defaultNotInOptions name v options = e := by
  cases options with
  | nil => simp [chooseDefault]
  | cons o os =>
    cases stated with
    | none => simp [chooseDefault]
    | some v =>
      simp only [chooseDefault]
      split_ifs with among <;> simp [among]

theorem Draft.sound_of_spec {d : Draft} {p : Spec} (h : d.spec = .ok p) : p.Sound := by
  obtain ⟨name, stated, options, default, hs, ho, hd, rfl⟩ := Draft.spec_eq_ok_iff.1 h
  obtain ⟨among, rfl⟩ := Draft.chooseDefault_eq_ok_iff.1 hd
  have statedKind : ∀ v, stated = some v → v.kind = d.resolvedKind := by
    rintro v rfl
    generalize d.default = default at hs
    cases option_mapM_eq_ok_iff.1 hs with
    | some converted => exact Value.kind_of_convert? (convertFor_eq_ok_iff.1 converted)
  have optionKind : ∀ v ∈ options, v.kind = d.resolvedKind := fun v hv => by
    obtain ⟨w, -, converted⟩ := exists_mem_of_forall₂ (mapM_eq_ok_iff.1 ho) hv
    exact Value.kind_of_convert? (convertFor_eq_ok_iff.1 converted)
  refine ⟨name, fun v hv => ?_, optionKind, fun some => ?_⟩
  · rcases Option.or_eq_some_iff.1 hv with own | ⟨-, first⟩
    · exact statedKind v own
    · exact optionKind v (List.mem_of_head? first)
  · cases stated with
    | none => exact ⟨options.head some, List.head?_eq_some_head some, .inr (List.head_mem some)⟩
    | some v => exact ⟨v, rfl, .inl ((among v rfl).resolve_left some)⟩

/-! ## Accepted texts -/

theorem Spec.accept_eq_ok {p : Spec} {raw : String} {v : Value} (h : p.accept raw = .ok v) :
    v.kind = p.kind ∧ (p.options ≠ [] → v.isIn p.options = true) := by
  unfold Spec.accept at h
  split at h
  · cases h
  · rename_i w found
    split_ifs at h with fits
    cases h
    refine ⟨Kind.kind_of_read? found, fun some => ?_⟩
    simpa [some] using fits

/-! ## Parameter lists -/

/-- sound specs under names that differ -/
structure SoundParams (ps : List Spec) : Prop where
  sound : ∀ p ∈ ps, p.Sound
  distinct : (ps.map Spec.name).Nodup

theorem Spec.sound_seed (declared : Option Int64) : (Spec.seed declared).Sound where
  name := show checkName seedName = .ok () by decide
  default v h := by cases h; rfl
  options v h := by cases h
  among h := absurd rfl h

theorem SoundParams.nil : SoundParams [] := ⟨by simp, by simp⟩

theorem SoundParams.cons {p : Spec} {ps : List Spec} (h : SoundParams ps) (hp : p.Sound)
    (fresh : p.name ∉ ps.map Spec.name) : SoundParams (p :: ps) :=
  ⟨List.forall_mem_cons.2 ⟨hp, h.sound⟩, List.nodup_cons.2 ⟨fresh, h.distinct⟩⟩

theorem SoundParams.withSeed {ps : List Spec} (h : SoundParams ps) (seed : Option Int64) :
    SoundParams (withSeed seed ps) := by
  unfold Trialbook.withSeed
  split_ifs with declared
  · exact h
  · refine h.cons (Spec.sound_seed seed) fun hm => declared ?_
    obtain ⟨p, hp, same⟩ := List.mem_map.1 hm
    exact List.any_eq_true.2 ⟨p, hp, beq_iff_eq.2 same⟩

end Trialbook
