/-
CHECKED DRAFTS: what the check of a draft comes to.

A draft is refused for the first fault in a fixed order: its name, the conversion of its default, the conversion of an
option, a default that is none of the options. Else it becomes a spec. `Draft.Outcome` says so with one constructor for
each way the check can end.

A spec states all it has in its own kind, so it passes the check again and stays as it is, but for one case: a default
that is no number is not the same as any option. The check never takes such a default from a draft with options, but it
supplies one where there is no default and the first option is no number (`Draft.DefaultsToNaN`).

Results:
- `Draft.spec_eq_ok_iff_outcome`, `Draft.spec_eq_error_iff_outcome`: the check comes to its outcome.
- `draft_outcome`: each draft has one, and what that says about a spec.
- `not_every_spec_checks_again`: the exception is one.
- `checked_again`: and the only one.
-/
import Trialbook.Proofs.SoundSpecs

namespace Trialbook

/-! ## Conversions -/

namespace Value

variable {v : Value} {vs : List Value}

theorem isIn_eq_true_iff : v.isIn vs = true ↔ ∃ w ∈ vs, v.same w = true := List.any_eq_true

theorem isIn_eq_false_iff : v.isIn vs = false ↔ ∀ w ∈ vs, v.same w = false := by
  simp [isIn]

end Value

section

variable {name : String} {k : Kind} {e : SpecError}

/-- a default that may be absent is converted, unless it is there and cannot be -/
theorem exists_converted_iff {default : Option Value} :
    (∃ stated, default.mapM (convertFor name k) = .ok stated) ↔ ∀ v, default = some v → v.convert? k ≠ none := by
  cases converted : default.mapM (convertFor name k) with
  | error e =>
    obtain ⟨v, own, failed⟩ := option_mapM_eq_error_iff.1 converted
    exact iff_of_false (fun ⟨_, h⟩ => nomatch h) fun all => all v own (convertFor_eq_error_iff.1 failed).1
  | ok stated =>
    refine iff_of_true ⟨stated, rfl⟩ fun v own failed => ?_
    rw [option_mapM_eq_error_iff.2 ⟨v, own, convertFor_eq_error_iff.2 ⟨failed, rfl⟩⟩] at converted
    cases converted

/-- options fail to be converted as the first one that cannot be does -/
theorem convertAll_eq_error_iff {vs : List Value} : vs.mapM (convertFor name k) = .error e ↔
    ∃ before v, First (fun _ v => v.convert? k = none) vs before v ∧ .conversion name v k = e := by
  simp only [mapM_eq_error_iff, convertFor_eq_error_iff, exists_and_left, exists_eq', and_true]
  exact exists₂_congr fun before v => and_congr_right fun first => and_iff_right first.here

end

/-! ## Outcomes -/

namespace Draft

/-- the kind that is declared, else that of the default, else text -/
inductive HasKind (d : Draft) : Kind → Prop where
  | declared {k : Kind} : d.kind = some k → HasKind d k
  | ofDefault {v : Value} : d.kind = none → d.default = some v → HasKind d v.kind
  | text : d.kind = none → d.default = none → HasKind d .str

theorem hasKind_iff {d : Draft} {k : Kind} : d.HasKind k ↔ d.resolvedKind = k := by
  unfold resolvedKind
  constructor
  · rintro (declared | ⟨none, default⟩ | ⟨none, default⟩)
    · rw [declared]; rfl
    · rw [none, default]; rfl
    · rw [none, default]; rfl
  · rintro rfl
    cases declared : d.kind with
    | some k => exact .declared declared
    | none =>
      cases default : d.default with
      | some v => exact .ofDefault declared default
      | none => exact .text declared default

/-- default and options, as they are converted to the kind -/
structure Converts (d : Draft) (k : Kind) (default : Option Value) (options : List Value) : Prop where
  kind : d.HasKind k
  default : Option.Rel (fun v w => v.convert? k = some w) d.default default
  options : List.Forall₂ (fun v w => v.convert? k = some w) (d.options.getD []) options

/-- what the check of a draft ends with, the first fault in this order -/
inductive Outcome (d : Draft) : Except SpecError Spec → Prop where
  | nameLength : ¬ Name.Fits d.name → Outcome d (.error (.nameLength d.name))
  | nameLetters : Name.Fits d.name → ¬ Name.Spelled d.name → Outcome d (.error (.nameLetters d.name))
  /-- the default cannot be converted -/
  | default {k : Kind} {v : Value} : Name.Valid d.name → d.HasKind k → d.default = some v → v.convert? k = none →
    Outcome d (.error (.conversion d.name v k))
  /-- the default can, if there is one, and this is the first option that cannot -/
  | option {k : Kind} {v : Value} {before : List Value} : Name.Valid d.name → d.HasKind k →
    (∀ u, d.default = some u → u.convert? k ≠ none) →
    First (fun _ v => v.convert? k = none) (d.options.getD []) before v → Outcome d (.error (.conversion d.name v k))
  /-- there are options, and the default is the same as none of them -/
  | outside {k : Kind} {v : Value} {options : List Value} : Name.Valid d.name → d.Converts k (some v) options →
    options ≠ [] → (∀ o ∈ options, v.same o = false) → Outcome d (.error (.defaultNotInOptions d.name v options))
  /-- there is no fault; without default, the first option takes its place -/
  | checked {k : Kind} {default : Option Value} {options : List Value} : Name.Valid d.name →
    d.Converts k default options → (∀ v, default = some v → options = [] ∨ ∃ o ∈ options, v.same o = true) →
    Outcome d (.ok ⟨d.name, k, default.or options.head?, d.required, d.description, options⟩)

variable {d : Draft} {p : Spec} {e : SpecError}

theorem converts_iff {k : Kind} {default : Option Value} {options : List Value} : d.Converts k default options ↔
    d.resolvedKind = k ∧ d.default.mapM (convertFor d.name k) = .ok default ∧
      (d.options.getD []).mapM (convertFor d.name k) = .ok options := by
  simp only [option_mapM_eq_ok_iff, mapM_eq_ok_iff, convertFor_eq_ok_iff]
  exact ⟨fun h => ⟨hasKind_iff.1 h.kind, h.default, h.options⟩, fun h => ⟨hasKind_iff.2 h.1, h.2.1, h.2.2⟩⟩

theorem spec_eq_error_iff : d.spec = .error e ↔ checkName d.name = .error e ∨ checkName d.name = .ok () ∧
    (d.default.mapM (convertFor d.name d.resolvedKind) = .error e ∨
      ∃ default, d.default.mapM (convertFor d.name d.resolvedKind) = .ok default ∧
        ((d.options.getD []).mapM (convertFor d.name d.resolvedKind) = .error e ∨
          ∃ options, (d.options.getD []).mapM (convertFor d.name d.resolvedKind) = .ok options ∧
            chooseDefault d.name default options = .error e)) := by
  unfold spec
  constructor
  · intro h
    rcases bind_eq_error_iff.1 h with named | ⟨⟨⟩, named, h⟩
    · exact .inl named
    refine .inr ⟨named, ?_⟩
    rcases bind_eq_error_iff.1 h with failed | ⟨default, converted, h⟩
    · exact .inl failed
    refine .inr ⟨default, converted, ?_⟩
    rcases bind_eq_error_iff.1 h with failed | ⟨options, offered, h⟩
    · exact .inl failed
    rcases bind_eq_error_iff.1 h with failed | ⟨chosen, -, h⟩
    · exact .inr ⟨options, offered, failed⟩
    · cases h
  · rintro (named | ⟨named, failed | ⟨default, converted, failed | ⟨options, offered, failed⟩⟩⟩)
    · exact bind_eq_error_iff.2 (.inl named)
    all_goals refine bind_eq_error_iff.2 (.inr ⟨(), named, ?_⟩)
    · exact bind_eq_error_iff.2 (.inl failed)
    all_goals refine bind_eq_error_iff.2 (.inr ⟨default, converted, ?_⟩)
    · exact bind_eq_error_iff.2 (.inl failed)
    · exact bind_eq_error_iff.2 (.inr ⟨options, offered, bind_eq_error_iff.2 (.inl failed)⟩)

theorem spec_eq_ok_iff_outcome : d.spec = .ok p ↔ d.Outcome (.ok p) := by
  rw [spec_eq_ok_iff, checkName_eq_ok_iff]
  constructor
  · rintro ⟨valid, default, options, chosen, converted, offered, choice, rfl⟩
    obtain ⟨among, rfl⟩ := chooseDefault_eq_ok_iff.1 choice
    refine .checked valid (converts_iff.2 ⟨rfl, converted, offered⟩) fun v stated => ?_
    exact (among v stated).imp_right Value.isIn_eq_true_iff.1
  · intro h
    cases h with
    | @checked k default options valid converts among =>
      obtain ⟨rfl, converted, offered⟩ := converts_iff.1 converts
      exact ⟨valid, default, options, default.or options.head?, converted, offered,
        chooseDefault_eq_ok_iff.2 ⟨fun v stated => (among v stated).imp_right Value.isIn_eq_true_iff.2, rfl⟩, rfl⟩

theorem spec_eq_error_iff_outcome : d.spec = .error e ↔ d.Outcome (.error e) := by
  rw [spec_eq_error_iff, checkName_eq_ok_iff, checkName_eq_error_iff]
  constructor
  · rintro ((⟨size, rfl⟩ | ⟨fits, other, rfl⟩) |
      ⟨valid, failed | ⟨default, converted, failed | ⟨options, offered, failed⟩⟩⟩)
    · exact .nameLength size
    · exact .nameLetters fits other
    · obtain ⟨v, stated, failed⟩ := option_mapM_eq_error_iff.1 failed
      obtain ⟨unconverted, rfl⟩ := convertFor_eq_error_iff.1 failed
      exact .default valid (hasKind_iff.2 rfl) stated unconverted
    · obtain ⟨before, v, first, rfl⟩ := convertAll_eq_error_iff.1 failed
      exact .option valid (hasKind_iff.2 rfl) (exists_converted_iff.1 ⟨default, converted⟩) first
    · obtain ⟨v, rfl, some, outside, rfl⟩ := chooseDefault_eq_error_iff.1 failed
      exact .outside valid (converts_iff.2 ⟨rfl, converted, offered⟩) some (Value.isIn_eq_false_iff.1 outside)
  · intro h
    cases h with
    | nameLength size => exact .inl (.inl ⟨size, rfl⟩)
    | nameLetters fits other => exact .inl (.inr ⟨fits, other, rfl⟩)
    | default valid kind stated unconverted =>
      obtain rfl := hasKind_iff.1 kind
      exact .inr ⟨valid, .inl (option_mapM_eq_error_iff.2 ⟨_, stated, convertFor_eq_error_iff.2 ⟨unconverted, rfl⟩⟩)⟩
    | option valid kind stated first =>
      obtain rfl := hasKind_iff.1 kind
      obtain ⟨default, converted⟩ := exists_converted_iff.2 stated
      exact .inr ⟨valid, .inr ⟨default, converted, .inl (convertAll_eq_error_iff.2 ⟨_, _, first, rfl⟩)⟩⟩
    | outside valid converts some outside =>
      obtain ⟨rfl, converted, offered⟩ := converts_iff.1 converts
      exact .inr ⟨valid, .inr ⟨_, converted, .inr ⟨_, offered,
        chooseDefault_eq_error_iff.2 ⟨_, rfl, some, Value.isIn_eq_false_iff.2 outside, rfl⟩⟩⟩⟩

end Draft

/-- **What the check of a draft comes to** is the first fault of its name, of its default, of its options and of the
default among the options, in this order, or else a spec. In a spec, default and options are of its kind, there is a
default if there are options, and it is one of them. -/
theorem draft_outcome (d : Draft) : (∀ r, d.spec = r ↔ d.Outcome r) ∧ ∀ p, d.spec = .ok p → p.Sound := by
  refine ⟨fun r => ?_, fun p checked => Draft.sound_of_spec checked⟩
  cases r with
  | error e => exact Draft.spec_eq_error_iff_outcome
  | ok p => exact Draft.spec_eq_ok_iff_outcome

/-- options of three kinds for integers, and no default -/
def mixedSizes : Draft :=
  ⟨"size", some .int, none, none, true, some [.str "+07", .float (.ofInt 13), .bool true]⟩

/-- an integer by its default, and two options that are none -/
def namedSizes : Draft := ⟨"size", none, some (.int 5), none, false, some [.int 5, .str "7b", .str "13b"]⟩

/-- the first option is the default of the one, the first option that cannot be converted the fault of the other -/
theorem draft_outcome_sizes :
    (∃ p, mixedSizes.spec = .ok p ∧ p.Sound ∧ p.default = some (.int 7) ∧
      p.options = [.int 7, .int 13, .int 1] ∧ mixedSizes.Outcome (.ok p)) ∧
    namedSizes.Outcome (.error (.conversion "size" (.str "7b") .int)) := by
  have checked : mixedSizes.spec =
      .ok ⟨"size", .int, some (.int 7), true, none, [.int 7, .int 13, .int 1]⟩ := by decide +kernel
  have refused : namedSizes.spec = .error (.conversion "size" (.str "7b") .int) := by decide +kernel
  obtain ⟨outcome, sound⟩ := draft_outcome mixedSizes
  exact ⟨⟨_, checked, sound _ checked, rfl, rfl, (outcome _).1 checked⟩, ((draft_outcome namedSizes).1 _).1 refused⟩

/-! ## Checking again -/

/-- no number at all -/
def Value.IsNaN (v : Value) : Prop := ∃ x : Binary64, v = .float x ∧ x.isNaN = true

/-- every value is the same as itself, unless it is no number -/
theorem Value.same_self_iff {v : Value} : v.same v = true ↔ ¬ v.IsNaN := by
  cases v with
  | float x => simp [same, Binary64.equal, IsNaN]
  | _ => simp [same, IsNaN]

/-- what is no number is the same as nothing -/
theorem Value.same_of_isNaN {v w : Value} (nan : v.IsNaN) : v.same w = false := by
  obtain ⟨x, rfl, none⟩ := nan
  cases w with
  | float y => simp [same, Binary64.equal, none]
  | _ => rfl

/-- a value is converted to its own kind as it is -/
theorem Value.convert?_kind (v : Value) : v.convert? v.kind = some v := by
  cases v <;> rfl

namespace Spec.Sound

variable {p : Spec} {v : Value}

theorem valid (h : p.Sound) : Name.Valid p.name := checkName_eq_ok_iff.1 h.name

/-- a sound spec states what it has in its own kind -/
theorem converts (h : p.Sound) : p.toDraft.Converts p.kind p.default p.options where
  kind := .declared rfl
  default := by
    change Option.Rel _ p.default p.default
    cases default : p.default with
    | none => exact .none
    | some v => exact .some (h.default v default ▸ v.convert?_kind)
  options := List.forall₂_same.2 fun v offered => h.options v offered ▸ v.convert?_kind

/-- so the first option never takes the place of its default -/
theorem default_or (h : p.Sound) : p.default.or p.options.head? = p.default := by
  by_cases none : p.options = []
  · rw [none, List.head?_nil, Option.or_none]
  · obtain ⟨v, default, -⟩ := h.among none
    rw [default, Option.some_or]

theorem spec_toDraft (h : p.Sound) (among : ∀ v, p.default = some v → p.options = [] ∨ ¬ v.IsNaN) :
    p.toDraft.spec = .ok p := by
  have outcome : p.toDraft.Outcome (.ok ⟨p.name, p.kind, p.default.or p.options.head?, p.required, p.description,
      p.options⟩) := by
    refine .checked h.valid h.converts fun v default => ?_
    by_cases none : p.options = []
    · exact .inl none
    · obtain ⟨w, chosen, isIn⟩ := h.among none
      obtain rfl : w = v := Option.some.inj (chosen.symm.trans default)
      refine .inr (isIn.elim Value.isIn_eq_true_iff.1 fun offered => ⟨w, offered, ?_⟩)
      exact Value.same_self_iff.2 ((among w default).resolve_left none)
  rw [h.default_or] at outcome
  exact Draft.spec_eq_ok_iff_outcome.2 outcome

/-- a default that is no number is not found among the options again -/
theorem spec_toDraft_of_isNaN (h : p.Sound) (some : p.options ≠ []) (default : p.default = .some v) (nan : v.IsNaN) :
    p.toDraft.spec = .error (.defaultNotInOptions p.name v p.options) :=
  Draft.spec_eq_error_iff_outcome.2
    (.outside h.valid (default ▸ h.converts) some fun _ _ => Value.same_of_isNaN nan)

end Spec.Sound

/-- states no default, and its first option, which takes the place of one, is no number -/
def Draft.DefaultsToNaN (d : Draft) : Prop :=
  d.default = none ∧ ∃ o os v, d.options = some (o :: os) ∧ o.convert? d.resolvedKind = some v ∧ v.IsNaN

/-- the default of a spec with options is no number only when it is their first -/
theorem Draft.defaultsToNaN_iff {d : Draft} {p : Spec} (checked : d.spec = .ok p) :
    d.DefaultsToNaN ↔ p.options ≠ [] ∧ ∃ v, p.default = some v ∧ v.IsNaN := by
  cases Draft.spec_eq_ok_iff_outcome.1 checked with
  | @checked k default options _ converts among =>
    obtain ⟨kind, stated, offered⟩ := converts
    obtain rfl := hasKind_iff.1 kind
    constructor
    · rintro ⟨none, o, os, v, own, converted, nan⟩
      rw [none] at stated
      cases stated
      rw [own] at offered
      obtain ⟨w, rest, here, -, rfl⟩ := List.forall₂_cons_left_iff.1 offered
      obtain rfl : w = v := Option.some.inj (here.symm.trans converted)
      exact ⟨List.cons_ne_nil _ _, w, rfl, nan⟩
    · rintro ⟨some, v, chosen, nan⟩
      cases default with
      | some w =>
        obtain rfl : w = v := Option.some.inj chosen
        obtain ⟨o, -, same⟩ := (among w rfl).resolve_left some
        rw [Value.same_of_isNaN nan] at same
        cases same
      | none =>
        generalize own : d.default = default at stated
        cases stated
        obtain ⟨rest, rfl⟩ := List.head?_eq_some_iff.1 chosen
        obtain ⟨o, os, converted, -, options⟩ := List.forall₂_cons_right_iff.1 offered
        cases given : d.options with
        | none => rw [given] at options; cases options
        | some vs =>
          rw [given, Option.getD_some] at options
          exact ⟨own, o, os, v, options ▸ given, converted, nan⟩

/-- a float that need not be a number, offered as a text -/
def ratesFromNaN : Draft := ⟨"lr", some .float, none, none, false, some [.str "nan", .str "0.5"]⟩

/-- the default that the check supplies does not pass it -/
theorem not_every_spec_checks_again : ¬ ∀ (d : Draft) (p : Spec), d.spec = .ok p → p.toDraft.spec = .ok p := by
  intro claim
  have checked : ratesFromNaN.spec = .ok ⟨"lr", .float, some (.float (.nan false)), false, none,
      [.float (.nan false), .float ⟨false, 1022, 0⟩]⟩ := by decide +kernel
  exact absurd (claim ratesFromNaN _ checked) (by decide +kernel)

/-- **A checked spec passes the check as it is**, and comes out of it the same, unless it was given options without a
default and the first of them is no number. Then the default that the check supplied is refused as none of the options,
since it is not the same as itself. -/
theorem checked_again (d : Draft) (p : Spec) (checked : d.spec = .ok p) :
    (¬ d.DefaultsToNaN → p.toDraft.spec = .ok p) ∧
      (d.DefaultsToNaN → ∃ v, p.default = some v ∧ v.IsNaN ∧
        p.toDraft.spec = .error (.defaultNotInOptions p.name v p.options)) := by
  have sound := Draft.sound_of_spec checked
  rw [Draft.defaultsToNaN_iff checked]
  refine ⟨fun number => sound.spec_toDraft fun v default => ?_, fun ⟨offers, v, default, nan⟩ => ?_⟩
  · exact or_iff_not_imp_left.2 fun offers nan => number ⟨offers, v, default, nan⟩
  · exact ⟨v, default, nan, sound.spec_toDraft_of_isNaN offers default nan⟩

/-- the same options, with a default -/
def ratesFromHalf : Draft := { ratesFromNaN with default := some (.str "0.5") }

theorem checked_again_rates :
    (∃ p, ratesFromHalf.spec = .ok p ∧ ¬ ratesFromHalf.DefaultsToNaN ∧ p.toDraft.spec = .ok p) ∧
    ∃ p, ratesFromNaN.spec = .ok p ∧ ratesFromNaN.DefaultsToNaN ∧ ∃ v, p.default = some v ∧ v.IsNaN ∧
      p.toDraft.spec = .error (.defaultNotInOptions "lr" v p.options) := by
  let half : Spec := ⟨"lr", .float, some (.float ⟨false, 1022, 0⟩), false, none,
    [.float (.nan false), .float ⟨false, 1022, 0⟩]⟩
  let first : Spec := { half with default := some (.float (.nan false)) }
  have checked : ratesFromHalf.spec = .ok half := by decide +kernel
  have checkedFirst : ratesFromNaN.spec = .ok first := by decide +kernel
  have stated : ¬ ratesFromHalf.DefaultsToNaN := fun none => nomatch none.1
  have supplied : ratesFromNaN.DefaultsToNaN :=
    ⟨rfl, .str "nan", [.str "0.5"], .float (.nan false), rfl, by decide +kernel, .nan false, rfl, by decide⟩
  exact ⟨⟨half, checked, stated, (checked_again _ _ checked).1 stated⟩,
    first, checkedFirst, supplied, (checked_again _ _ checkedFirst).2 supplied⟩

end Trialbook
