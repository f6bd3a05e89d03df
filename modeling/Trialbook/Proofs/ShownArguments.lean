/-
SHOWN ARGUMENTS: a value that is forwarded as it is shown.

A form shows the default and the choices of a parameter, and the command that it runs forwards what was shown
(`Spec.argument`). A value that is no float is accepted as it is shown, whatever text or integer it is. What the argument
says is another matter: it counts only if it holds exactly one equals sign, so that a text with an equals sign in it can
be offered but not forwarded.

Results:
- `Arguments.lastText?_argument`: a shown value is forwarded to its own parameter, if it holds no equals sign.
- `Arguments.not_every_option_resolves`: a choice with an equals sign in it does not take effect.
- `Arguments.option_resolves`: every other choice does.
- `Arguments.resolve_resubmitted`: forwarding defaults, as the unchanged form does, is the same as forwarding nothing.
-/
import Trialbook.Proofs.Coercions
import Trialbook.Proofs.FormEntries
import Trialbook.Proofs.Resolution

namespace Trialbook

/-! ## Arguments -/

/-- only a text is shown with an equals sign in it -/
theorem Value.kind_of_equals_mem_shown {v : Value} (exact : v.kind ≠ .float) (h : '=' ∈ v.shown.toList) :
    v.kind = .str := by
  cases v with
  | str s => rfl
  | int i =>
    rcases Form.of_mem_integer h with same | digit
    · exact absurd same (by decide)
    · exact absurd digit (by decide)
  | float x => exact absurd rfl exact
  | bool b => cases b <;> exact absurd h (by decide)

namespace Spec

/-- the argument that forwards a value to a parameter as it is shown -/
def argument (p : Spec) (v : Value) : String := Form.inputPrefix ++ p.name ++ "=" ++ v.shown

/-- the argument that forwards the default of a parameter -/
def resubmitted? (p : Spec) : Option String := p.default.map p.argument

end Spec

/-! ## What a shown value is forwarded to -/

namespace Arguments

variable {p q : Spec} {v : Value} {params : List Spec}

/-- a shown value is forwarded whole, and to the parameter that it is shown for, if it is forwarded at all -/
theorem forwards_argument_iff (hp : checkName p.name = .ok ()) (hq : checkName q.name = .ok ()) {text : String} :
    Forwards (q.argument v) p.name text ↔ q.name = p.name ∧ text = v.shown ∧ '=' ∉ v.shown.toList := by
  unfold Forwards Spec.argument
  constructor
  · rintro ⟨same, plain⟩
    have chars : q.name.toList ++ '=' :: v.shown.toList = p.name.toList ++ '=' :: text.toList := by
      have whole := congrArg String.toList same
      simpa [String.toList_append, List.append_assoc] using whole
    obtain ⟨name, shown⟩ := Text.append_separator_inj (not_mem_of_checkName hq) (not_mem_of_checkName hp) chars
    obtain rfl : v.shown = text := String.toList_inj.1 shown
    exact ⟨String.toList_inj.1 name, rfl, plain⟩
  · rintro ⟨name, rfl, plain⟩
    exact ⟨by rw [name], plain⟩

theorem lastText?_argument (named : checkName p.name = .ok ()) (v : Value) :
    lastText? [p.argument v] p.name = if '=' ∈ v.shown.toList then none else some v.shown := by
  have one : lastText? [p.argument v] p.name = text? p.name (p.argument v) := by
    simp [lastText?]
  rw [one]
  ext text
  rw [text?_eq_some_iff, forwards_argument_iff named named]
  split_ifs with equals
  · simp [equals]
  · simp [equals, eq_comm]

theorem reference_eq_of_given {a b : List String} (h : ∀ p ∈ params, given a p = given b p) :
    reference a params = reference b params := by
  induction params with
  | nil => rfl
  | cons p ps ih =>
    rw [reference, reference, h p List.mem_cons_self, ih fun q hq => h q (List.mem_cons_of_mem p hq)]

theorem given_of_lastText?_eq_none {arguments : List String} (h : lastText? arguments p.name = none) :
    given arguments p = given [] p := by
  unfold given
  rw [h]
  rfl

/-- the resolution of one parameter that has a value -/
theorem resolve_singleton (named : checkName p.name = .ok ()) {arguments : List String}
    (h : given arguments p = .ok (some v)) : resolve [p] (read arguments) = .ok (Table.empty.insert p.name v) := by
  rw [resolve_eq (by simpa using named), reference, h]
  rfl

/-! ## Choices -/

/-- the second choice has an equals sign in it -/
def assignments : Draft := ⟨"flags", none, none, none, false, some [.str "fast", .str "level=3"]⟩

/-- the default takes the place of the choice -/
theorem not_every_option_resolves : ¬ ∀ (d : Draft) (p : Spec), d.spec = .ok p → p.kind ≠ .float → ∀ o ∈ p.options,
    ∃ values, resolve [p] (read [p.argument o]) = .ok values ∧ values.get? p.name = some o := by
  intro claim
  let p : Spec := ⟨"flags", .str, some (.str "fast"), false, none, [.str "fast", .str "level=3"]⟩
  have checked : assignments.spec = .ok p := by decide +kernel
  obtain ⟨values, resolved, chosen⟩ :=
    claim assignments p checked (by decide) (.str "level=3") (List.mem_cons_of_mem _ List.mem_cons_self)
  have default : resolve [p] (read [p.argument (.str "level=3")]) = .ok (Table.empty.insert "flags" (.str "fast")) := by
    decide +kernel
  rw [default] at resolved
  cases resolved
  rw [Table.get?_insert, if_pos rfl] at chosen
  exact absurd chosen (by decide)

/-- **Choosing an option takes effect, unless it holds an equals sign.** The form offers the options of a parameter that
has some. An option of a parameter of texts, integers or truth values, forwarded as it is shown, gives the parameter
this option and nothing else, if there is no equals sign in it. If there is one, the option is a text, the argument is
passed over, and the parameter has its default. -/
theorem option_resolves (d : Draft) (p : Spec) (checked : d.spec = .ok p) (exact : p.kind ≠ .float) (o : Value)
    (offered : o ∈ p.options) :
    (∃ above, p.fieldLines = above ++ [Form.indent ++ "options: [" ++
      String.intercalate ", " (p.options.map Form.scalar) ++ "]", Form.indent ++ "type: choice"]) ∧
    ('=' ∉ o.shown.toList → resolve [p] (read [p.argument o]) = .ok (Table.empty.insert p.name o)) ∧
    ('=' ∈ o.shown.toList → o.kind = .str ∧ ∃ v, p.default = some v ∧
      resolve [p] (read [p.argument o]) = .ok (Table.empty.insert p.name v)) := by
  have sound := Draft.sound_of_spec checked
  have some : p.options ≠ [] := List.ne_nil_of_mem offered
  refine ⟨?_, fun plain => ?_, fun equals => ?_⟩
  · rw [Spec.fieldLines, if_neg (by simpa using some)]
    exact ⟨_, rfl⟩
  · have text := lastText?_argument sound.name o
    rw [if_neg plain] at text
    refine resolve_singleton sound.name ?_
    rw [given, text]
    simp only [sound.accept_option exact offered]
  · have text := lastText?_argument sound.name o
    rw [if_pos equals] at text
    obtain ⟨v, default, -⟩ := sound.among some
    refine ⟨Value.kind_of_equals_mem_shown (sound.options o offered ▸ exact) equals, v, default, ?_⟩
    refine resolve_singleton sound.name ?_
    rw [given, text, default]

/-- choices at both ends of the integers, and the default after them -/
def extremes : Draft :=
  ⟨"size", none, some (.int 0), none, true, some [.int Int64.minValue, .int Int64.maxValue, .int 0]⟩

theorem option_resolves_least : ∃ p, extremes.spec = .ok p ∧ p.kind ≠ .float ∧ .int Int64.minValue ∈ p.options ∧
    p.argument (.int Int64.minValue) = "hf_action_size=-9223372036854775808" ∧
    resolve [p] (read [p.argument (.int Int64.minValue)]) = .ok (Table.empty.insert "size" (.int Int64.minValue)) := by
  let p : Spec := ⟨"size", .int, some (.int 0), true, none, [.int Int64.minValue, .int Int64.maxValue, .int 0]⟩
  have checked : extremes.spec = .ok p := by decide +kernel
  have offered : .int Int64.minValue ∈ p.options := List.mem_cons_self
  have argument : p.argument (.int Int64.minValue) = "hf_action_size=-9223372036854775808" := by decide +kernel
  exact ⟨p, checked, by decide, offered, argument,
    (option_resolves extremes p checked (by decide) _ offered).2.1 (by decide +kernel)⟩

/-! ## Unchanged forms -/

/-- a text that defaults forward to a parameter is its own default, as it is shown -/
theorem default_of_lastText? (named : ∀ q ∈ params, checkName q.name = .ok ()) (distinct : (params.map Spec.name).Nodup)
    {chosen : List Spec} (sub : chosen ⊆ params) (member : p ∈ params) {text : String}
    (h : lastText? (chosen.filterMap Spec.resubmitted?) p.name = some text) :
    ∃ v, p.default = some v ∧ text = v.shown := by
  obtain ⟨before, argument, after, split, forwards, -⟩ := lastText?_eq_some_iff.1 h
  have submitted : argument ∈ chosen.filterMap Spec.resubmitted? := by
    rw [split]
    exact List.mem_append_right _ List.mem_cons_self
  obtain ⟨q, hq, found⟩ := List.mem_filterMap.1 submitted
  obtain ⟨v, default, rfl⟩ := Option.map_eq_some_iff.1 found
  obtain ⟨name, shown, -⟩ := (forwards_argument_iff (named p member) (named q (sub hq))).1 forwards
  obtain rfl : q = p := List.inj_on_of_nodup_map distinct (sub hq) member name
  exact ⟨v, default, shown⟩

/-- so each parameter has the value that it has without arguments -/
theorem given_resubmitted (sound : ∀ q ∈ params, q.Sound) (exact : ∀ q ∈ params, q.kind ≠ .float)
    (distinct : (params.map Spec.name).Nodup) {chosen : List Spec} (sub : chosen ⊆ params) (member : p ∈ params) :
    given (chosen.filterMap Spec.resubmitted?) p = given [] p := by
  cases last : lastText? (chosen.filterMap Spec.resubmitted?) p.name with
  | none => exact given_of_lastText?_eq_none last
  | some text =>
    obtain ⟨v, default, rfl⟩ := default_of_lastText? (fun q hq => (sound q hq).name) distinct sub member last
    have accepted := (sound p member).accept_default (exact p member) default
    have unasked : given [] p = .ok (some v) := by
      unfold given
      rw [default]
      rfl
    rw [unasked, given, last]
    simp only [accepted]

/-- **Submitting the form unchanged changes nothing.** For parameters of texts, integers and truth values under names
that differ, each of them checked or the seed: forwarding the defaults of some of them as they are shown, in any order,
resolves to what no arguments resolve to, values or error, whatever the order in which raw texts are met. -/
theorem resolve_resubmitted (params : List Spec) (made : ∀ p ∈ params, p.Made) (exact : ∀ p ∈ params, p.kind ≠ .float)
    (distinct : (params.map Spec.name).Nodup) (chosen : List Spec) (sub : chosen ⊆ params) :
    resolve params (read (chosen.filterMap Spec.resubmitted?)) = resolve params (read []) ∧
      ∀ order, order.Perm (read (chosen.filterMap Spec.resubmitted?)).entries →
        resolveFrom params order = resolve params (read []) := by
  have sound (p : Spec) (hp : p ∈ params) : p.Sound := (made p hp).sound
  have named (p : Spec) (hp : p ∈ params) : checkName p.name = .ok () := (sound p hp).name
  have same : reference (chosen.filterMap Spec.resubmitted?) params = reference [] params :=
    reference_eq_of_given fun p hp => given_resubmitted sound exact distinct sub hp
  refine ⟨?_, fun order perm => ?_⟩
  · rw [resolve_eq named, resolve_eq named, same]
  · rw [resolveFrom_eq named perm, resolve_eq named, same]

/-- a text with an equals sign, a text that is an argument for the next parameter, and the least integer -/
def awkwardParams : List Spec :=
  [.seed none, ⟨"flags", .str, some (.str "level=3"), false, none, []⟩,
    ⟨"note", .str, some (.str "hf_action_size=7"), true, none, []⟩,
    ⟨"size", .int, some (.int Int64.minValue), false, none, []⟩, ⟨"path", .str, none, false, none, []⟩]

theorem resolve_resubmitted_awkward : (∀ p ∈ awkwardParams, p.Made) ∧ (∀ p ∈ awkwardParams, p.kind ≠ .float) ∧
    (awkwardParams.map Spec.name).Nodup ∧ awkwardParams.reverse.filterMap Spec.resubmitted? =
      ["hf_action_size=-9223372036854775808", "hf_action_note=hf_action_size=7", "hf_action_flags=level=3",
        "hf_action_seed=42"] ∧
    resolve awkwardParams (read (awkwardParams.reverse.filterMap Spec.resubmitted?)) =
      .ok (Table.ofList [("seed", .int 42), ("flags", .str "level=3"), ("note", .str "hf_action_size=7"),
        ("size", .int Int64.minValue)]) := by
  have drafted : ∀ p ∈ awkwardParams.tail, p.toDraft.spec = .ok p := by decide +kernel
  have made : ∀ p ∈ awkwardParams, p.Made :=
    List.forall_mem_cons.2 ⟨.seed none, fun p hp => .draft (drafted p hp)⟩
  have exact : ∀ p ∈ awkwardParams, p.kind ≠ .float := by decide
  have distinct : (awkwardParams.map Spec.name).Nodup := by decide
  refine ⟨made, exact, distinct, by decide +kernel, ?_⟩
  rw [(resolve_resubmitted awkwardParams made exact distinct _ (List.reverse_subset.2 (List.Subset.refl _))).1]
  decide +kernel

end Arguments

end Trialbook
