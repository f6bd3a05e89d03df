/-
ARGUMENT RESOLUTION: what the arguments of a request make of the parameters of an experiment.

The reference looks at one parameter at a time and at whole arguments, without keys and tables. An argument forwards a
text to an input when it is the prefix of forwarded inputs, the name of the input, an equals sign and the text, and the
text holds no equals sign (`Forwards`). The last such argument counts (`lastText?`); `given` is what the parameter makes
of it, and `reference` goes through the parameters in order, up to the first that fails.

Results:
- `split?_eq_some_iff`: an argument has a key and a value when it holds exactly one equals sign.
- `lastText?_eq_some_iff`: the reference does take the last argument of the form.
- `get?_forwarded`: in whatever order the raw texts are met, an input is forwarded its last text.
- `resolve_eq_reference`: resolution is the reference, whatever the order in which the raw texts are met; each parameter
  has its own value in the result, and arguments that forward nothing to a parameter have no influence.
-/
import Mathlib.Data.List.TakeWhile
import Trialbook.Launch.Arguments
import Trialbook.Proofs.SoundSpecs
import Trialbook.Proofs.SplitTexts
import Trialbook.Proofs.Tables

namespace Trialbook.Arguments

/-! ## The reference -/

/-- the argument is the prefix, the name, an equals sign and the text, which holds no other -/
def Forwards (argument name text : String) : Prop :=
  argument = Form.inputPrefix ++ name ++ "=" ++ text ∧ '=' ∉ text.toList

/-- the text that an argument forwards to an input -/
def text? (name argument : String) : Option String :=
  match (Form.inputPrefix ++ name ++ "=").toList.isPrefixOf? argument.toList with
  | some text => if '=' ∈ text then none else some (String.ofList text)
  | none => none

/-- the text that the last argument for an input forwards to it -/
def lastText? (arguments : List String) (name : String) : Option String :=
  arguments.reverse.findSome? (text? name)

/-- the value of one parameter -/
def given (arguments : List String) (p : Spec) : Except DispatchError (Option Value) :=
  match lastText? arguments p.name, p.default with
  | some text, _ =>
    match p.accept text with
    | .ok v => .ok (some v)
    | .error fault => .error (.invalidValue p.name fault)
  | none, some v => .ok (some v)
  | none, none => if p.required then .error (.missingRequired p.name) else .ok none

/-- the values of parameters by name, up to the first parameter that fails -/
def reference (arguments : List String) : List Spec → Except DispatchError (List (String × Value))
  | [] => .ok []
  | p :: ps =>
    match given arguments p with
    | .error e => .error e
    | .ok v => (reference arguments ps).map ((v.map (p.name, ·)).toList ++ ·)

theorem text?_eq_some_iff {name argument text : String} :
    text? name argument = some text ↔ Forwards argument name text := by
  have whole : argument = Form.inputPrefix ++ name ++ "=" ++ text ↔
      (Form.inputPrefix ++ name ++ "=").toList ++ text.toList = argument.toList := by
    rw [← String.toList_inj, String.toList_append, eq_comm]
  rw [Forwards, whole]
  unfold text?
  split
  · rename_i rest found
    rw [List.isPrefixOf?_eq_some_iff_append_eq] at found
    rw [← found, List.append_cancel_left_eq]
    split_ifs with hmem
    · simp only [false_iff]
      rintro ⟨rfl, hno⟩
      exact hno hmem
    · simp only [Option.some.injEq]
      exact ⟨fun h => by subst h; simpa using hmem, fun h => by rw [← h.1, String.ofList_toList]⟩
  · rename_i missing
    simp only [reduceCtorEq, false_iff]
    rintro ⟨h, -⟩
    rw [List.isPrefixOf?_eq_some_iff_append_eq.2 h] at missing
    cases missing

/-- the last argument of the form counts, whatever stands before it, as long as none of the form comes after it -/
theorem lastText?_eq_some_iff {arguments : List String} {name text : String} :
    lastText? arguments name = some text ↔
      ∃ before argument after, arguments = before ++ argument :: after ∧ Forwards argument name text ∧
        ∀ later ∈ after, ∀ other, ¬ Forwards later name other := by
  rw [lastText?, List.findSome?_eq_some_iff]
  constructor
  · rintro ⟨after, argument, before, split, found, noLater⟩
    refine ⟨before.reverse, argument, after.reverse, ?_, text?_eq_some_iff.1 found, fun later hl other ho => ?_⟩
    · rw [← List.reverse_reverse arguments, split]; simp
    · rw [← text?_eq_some_iff, noLater later (List.mem_reverse.1 hl)] at ho
      cases ho
  · rintro ⟨before, argument, after, rfl, found, noLater⟩
    refine ⟨after.reverse, argument, before.reverse, by simp, text?_eq_some_iff.2 found, fun later hl => ?_⟩
    refine Option.eq_none_iff_forall_ne_some.2 fun other ho => ?_
    exact noLater later (List.mem_reverse.1 hl) other (text?_eq_some_iff.1 ho)

/-! ## Keys and values -/

/-- an argument with exactly one equals sign is its key and its value -/
theorem split?_eq_some_iff {argument key value : String} :
    split? argument = some (key, value) ↔
      argument = key ++ "=" ++ value ∧ '=' ∉ key.toList ∧ '=' ∉ value.toList := by
  constructor
  · intro h
    have whole := List.takeWhile_append_dropWhile (p := (· != '=')) (l := argument.toList)
    simp only [split?, Text.drop_length_takeWhile] at h
    split at h
    · rename_i c value' found
      obtain rfl := Text.eq_of_dropWhile_ne found
      split_ifs at h with hv
      simp only [Option.some.injEq, Prod.mk.injEq] at h
      obtain ⟨rfl, rfl⟩ := h
      rw [found] at whole
      refine ⟨?_, fun hk => ?_, by simpa using hv⟩
      · rw [← String.toList_inj]; simpa using whole.symm
      · rw [String.toList_ofList] at hk
        exact absurd (List.mem_takeWhile_imp hk) (by decide)
    · cases h
  · rintro ⟨rfl, hk, hv⟩
    have chars : (key ++ "=" ++ value).toList = key.toList ++ '=' :: value.toList := by simp
    simp [split?, chars, Text.takeWhile_ne_append hk, hv]

theorem inputName?_eq_some_iff {key name : String} : inputName? key = some name ↔ key = Form.inputPrefix ++ name := by
  rw [inputName?, Option.map_eq_some_iff]
  constructor
  · rintro ⟨rest, found, rfl⟩
    rw [← String.toList_inj, ← List.isPrefixOf?_eq_some_iff_append_eq.1 found]; simp
  · rintro rfl
    exact ⟨name.toList, List.isPrefixOf?_eq_some_iff_append_eq.2 (by simp), String.ofList_toList⟩

/-- an argument forwards a text to a name without equals sign when its key is the prefix with that name -/
theorem forwards_iff_split? {argument name text : String} (h : '=' ∉ name.toList) :
    Forwards argument name text ↔ split? argument = some (Form.inputPrefix ++ name, text) := by
  have prefixPlain : '=' ∉ Form.inputPrefix.toList := by decide
  rw [split?_eq_some_iff, Forwards, String.toList_append, List.mem_append, not_or]
  exact ⟨fun ⟨he, hv⟩ => ⟨he, ⟨prefixPlain, h⟩, hv⟩, fun ⟨he, _, hv⟩ => ⟨he, hv⟩⟩

/-! ## Raw texts -/

/-- the raw text under the key of an input is the text of the last argument for it -/
theorem get?_read {name : String} (h : '=' ∉ name.toList) (arguments : List String) :
    (read arguments).get? (Form.inputPrefix ++ name) = lastText? arguments name := by
  have one : text? name = fun argument =>
      (split? argument).bind fun e => if Form.inputPrefix ++ name == e.1 then some e.2 else none := by
    ext argument text
    rw [text?_eq_some_iff, forwards_iff_split? h, Option.bind_eq_some_iff]
    constructor
    · exact fun found => ⟨_, found, by simp⟩
    · rintro ⟨⟨key, value⟩, found, same⟩
      split_ifs at same with hk
      obtain rfl : Form.inputPrefix ++ name = key := beq_iff_eq.1 hk
      rw [found, ← Option.some.inj same]
  rw [read, Table.get?_ofList, List.lookup_eq_findSome?, ← List.filterMap_reverse, ← List.head?_filterMap,
    List.filterMap_filterMap, List.head?_filterMap, lastText?, one]

/-- in whatever order the raw texts are met, an input is forwarded the text under its key -/
theorem get?_forwarded {order : List (String × String)} {raw : Table String} (same : order.Perm raw.entries)
    (name : String) : (forwarded order).get? name = raw.get? (Form.inputPrefix ++ name) := by
  have keys : (order.map Prod.fst).Nodup := (same.map Prod.fst).nodup_iff.2 raw.nodup_keys
  have names : ((order.filterMap fun e => (inputName? e.1).map (·, e.2)).map Prod.fst).Nodup := by
    have inputs : (order.filterMap fun e => (inputName? e.1).map (·, e.2)).map Prod.fst =
        (order.map Prod.fst).filterMap inputName? := by
      rw [List.map_filterMap, List.filterMap_map]
      exact List.filterMap_congr fun e _ => by simp [Function.comp_def]
    rw [inputs]
    refine keys.filterMap fun a b name ha hb => ?_
    rw [inputName?_eq_some_iff.1 ha, inputName?_eq_some_iff.1 hb]
  ext text
  rw [forwarded, Table.get?_ofList_of_nodup names, List.mem_filterMap, ← Table.mem_entries_iff, ← same.mem_iff]
  constructor
  · rintro ⟨⟨key, value⟩, member, found⟩
    obtain ⟨found', hn, he⟩ := Option.map_eq_some_iff.1 found
    cases he
    rw [← inputName?_eq_some_iff.1 hn]
    exact member
  · exact fun member => ⟨_, member, by rw [inputName?_eq_some_iff.2 rfl]; rfl⟩

/-! ## Parameters in order -/

theorem given_eq_value? (arguments : List String) (p : Spec) :
    given arguments p = value? p (lastText? arguments p.name) := by
  unfold given value?
  cases lastText? arguments p.name with
  | some text => rfl
  | none => cases p.default <;> rfl

/-- resolution goes through the parameters as the reference does -/
theorem foldlM_step {inputs : Table String} {arguments : List String} {params : List Spec}
    (h : ∀ p ∈ params, inputs.get? p.name = lastText? arguments p.name) (values : Table Value) :
    params.foldlM (step inputs) values =
      (reference arguments params).map (·.foldl (fun t e => t.insert e.1 e.2) values) := by
  induction params generalizing values with
  | nil => rfl
  | cons p ps ih =>
    have others := ih fun q hq => h q (List.mem_cons_of_mem p hq)
    have here : step inputs values p =
        (given arguments p).map fun v => (v.map (p.name, ·)).toList.foldl (fun t e => t.insert e.1 e.2) values := by
      rw [given_eq_value?, ← h p List.mem_cons_self]
      unfold step
      cases value? p (inputs.get? p.name) with
      | error e => rfl
      | ok v => cases v <;> rfl
    rw [List.foldlM_cons, here, reference]
    cases given arguments p with
    | error e => rfl
    | ok v =>
      refine (others _).trans ?_
      cases reference arguments ps with
      | error e => rfl
      | ok rest => simp only [Except.map, List.foldl_append]

theorem not_mem_of_checkName {name : String} (h : checkName name = .ok ()) : '=' ∉ name.toList := fun hm =>
  absurd (isLetter_of_checkName h '=' hm) (by decide)

/-- resolution from raw texts met in any order is the reference -/
theorem resolveFrom_eq {params : List Spec} (valid : ∀ p ∈ params, checkName p.name = .ok ()) {arguments : List String}
    {order : List (String × String)} (same : order.Perm (read arguments).entries) :
    resolveFrom params order = (reference arguments params).map Table.ofList := by
  refine foldlM_step (fun p hp => ?_) .empty
  rw [get?_forwarded same, get?_read (not_mem_of_checkName (valid p hp))]

theorem resolve_eq {params : List Spec} (valid : ∀ p ∈ params, checkName p.name = .ok ()) (arguments : List String) :
    resolve params (read arguments) = (reference arguments params).map Table.ofList :=
  resolveFrom_eq valid (.refl _)

theorem reference_cons_eq_ok {arguments : List String} {p : Spec} {ps : List Spec} {values : List (String × Value)} :
    reference arguments (p :: ps) = .ok values ↔ ∃ v rest, given arguments p = .ok v ∧
      reference arguments ps = .ok rest ∧ values = (v.map (p.name, ·)).toList ++ rest := by
  rw [reference]
  cases given arguments p with
  | error e => simp
  | ok v => cases reference arguments ps <;> simp [Except.map, eq_comm]

/-- values stand under names of parameters, in their order -/
theorem keys_reference {arguments : List String} {params : List Spec} {values : List (String × Value)}
    (h : reference arguments params = .ok values) : (values.map Prod.fst).Sublist (params.map Spec.name) := by
  induction params generalizing values with
  | nil => cases h; exact .slnil
  | cons p ps ih =>
    obtain ⟨v, rest, -, hrest, rfl⟩ := reference_cons_eq_ok.1 h
    cases v with
    | none => exact (ih hrest).cons p.name
    | some v => exact (ih hrest).cons_cons p.name

/-- each parameter has its own value -/
theorem given_of_reference {arguments : List String} {params : List Spec} {values : List (String × Value)}
    (h : reference arguments params = .ok values) (distinct : (params.map Spec.name).Nodup) {p : Spec}
    (hp : p ∈ params) :
    given arguments p = .ok (values.lookup p.name) := by
  induction params generalizing values with
  | nil => cases hp
  | cons q qs ih =>
    obtain ⟨v, rest, hv, hrest, rfl⟩ := reference_cons_eq_ok.1 h
    obtain ⟨fresh, others⟩ := List.nodup_cons.1 distinct
    rcases List.mem_cons.1 hp with rfl | hp
    · have absent : rest.lookup p.name = none := List.lookup_eq_none_iff.2 fun e he => by
        have used := (keys_reference hrest).subset (List.mem_map_of_mem he)
        exact bne_iff_ne.2 fun same : p.name = e.1 => fresh (same ▸ used)
      rw [hv]
      cases v <;> simp [absent]
    · have differs : p.name ≠ q.name := fun same => fresh (same ▸ List.mem_map_of_mem hp)
      rw [ih hrest others hp]
      cases v <;> simp [Table.lookup_cons_ne differs]

/-- the first parameter that fails decides how -/
theorem reference_eq_error_iff {arguments : List String} {params : List Spec} {e : DispatchError} :
    reference arguments params = .error e ↔ ∃ before p after, params = before ++ p :: after ∧
      (∀ q ∈ before, ∃ v, given arguments q = .ok v) ∧ given arguments p = .error e := by
  induction params with
  | nil => simp [reference]
  | cons q qs ih =>
    rw [reference]
    cases hq : given arguments q with
    | error e' =>
      constructor
      · intro h; cases h
        exact ⟨[], q, qs, rfl, by simp, hq⟩
      · rintro ⟨before, p, after, split, earlier, here⟩
        cases before with
        | nil => cases split; rw [← hq, here]
        | cons b bs =>
          cases split
          obtain ⟨v, hv⟩ := earlier q List.mem_cons_self
          rw [hq] at hv; cases hv
    | ok v =>
      have later : (reference arguments qs).map ((v.map (q.name, ·)).toList ++ ·) = .error e ↔
          reference arguments qs = .error e := by
        cases reference arguments qs <;> simp [Except.map]
      rw [later, ih]
      constructor
      · rintro ⟨before, p, after, rfl, earlier, here⟩
        exact ⟨q :: before, p, after, rfl, List.forall_mem_cons.2 ⟨⟨v, hq⟩, earlier⟩, here⟩
      · rintro ⟨before, p, after, split, earlier, here⟩
        cases before with
        | nil => cases split; rw [hq] at here; cases here
        | cons b bs =>
          cases split
          exact ⟨bs, p, after, rfl, (List.forall_mem_cons.1 earlier).2, here⟩

/-- what a resolution gives each parameter -/
theorem given_of_resolve {params : List Spec} (valid : ∀ p ∈ params, checkName p.name = .ok ())
    (distinct : (params.map Spec.name).Nodup) {arguments : List String} {values : Table Value}
    (h : resolve params (read arguments) = .ok values) :
    (∀ p ∈ params, given arguments p = .ok (values.get? p.name)) ∧
      ∀ e ∈ values.entries, ∃ p ∈ params, p.name = e.1 := by
  rw [resolve_eq valid] at h
  cases hr : reference arguments params with
  | error e => rw [hr] at h; cases h
  | ok entries =>
    rw [hr] at h
    cases h
    have keys : (entries.map Prod.fst).Nodup := distinct.sublist (keys_reference hr)
    have look (name : String) : (Table.ofList entries).get? name = entries.lookup name := by
      ext v
      rw [Table.get?_ofList_of_nodup keys, Table.lookup_eq_some_iff_mem keys]
    refine ⟨fun p hp => by rw [look, given_of_reference hr distinct hp], fun e he => ?_⟩
    rw [Table.mem_entries_iff, Table.get?_ofList_of_nodup keys] at he
    exact List.mem_map.1 ((keys_reference hr).subset (List.mem_map_of_mem he))

/-! ## Arguments without influence -/

theorem lastText?_of_idle {name other : String} (h : ∀ text, ¬ Forwards other name text) (before after : List String) :
    lastText? (before ++ other :: after) name = lastText? (before ++ after) name := by
  have idle : text? name other = none :=
    Option.eq_none_iff_forall_ne_some.2 fun text ht => h text (text?_eq_some_iff.1 ht)
  simp [lastText?, idle]

theorem reference_congr {a b : List String} {params : List Spec}
    (h : ∀ p ∈ params, lastText? a p.name = lastText? b p.name) : reference a params = reference b params := by
  induction params with
  | nil => rfl
  | cons p ps ih =>
    rw [reference, reference, ih fun q hq => h q (List.mem_cons_of_mem p hq), given, given, h p List.mem_cons_self]

/-! ## Main result -/

/-- **Resolution is the reference.** For parameters under names that are ones and differ, whatever the arguments:
the raw texts may be met in any order; the result is that of the reference; in a result every parameter has its own
value and nothing else stands; the error is that of the first parameter that fails; and an argument that forwards
nothing to a parameter may be left out. -/
theorem resolve_eq_reference (params : List Spec) (valid : ∀ p ∈ params, checkName p.name = .ok ())
    (distinct : (params.map Spec.name).Nodup) (arguments : List String) :
    (∀ order, order.Perm (read arguments).entries →
      resolveFrom params order = (reference arguments params).map Table.ofList) ∧
    resolve params (read arguments) = (reference arguments params).map Table.ofList ∧
    (∀ values, resolve params (read arguments) = .ok values →
      (∀ p ∈ params, given arguments p = .ok (values.get? p.name)) ∧
        ∀ e ∈ values.entries, ∃ p ∈ params, p.name = e.1) ∧
    (∀ e, resolve params (read arguments) = .error e ↔ ∃ before p after, params = before ++ p :: after ∧
      (∀ q ∈ before, ∃ v, given arguments q = .ok v) ∧ given arguments p = .error e) ∧
    (∀ before other after, arguments = before ++ other :: after →
      (∀ p ∈ params, ∀ text, ¬ Forwards other p.name text) →
      resolve params (read arguments) = resolve params (read (before ++ after))) := by
  refine ⟨fun order same => resolveFrom_eq valid same, resolve_eq valid arguments,
    fun values h => given_of_resolve valid distinct h, fun e => ?_, ?_⟩
  · rw [resolve_eq valid, ← reference_eq_error_iff]
    cases reference arguments params <;> simp [Except.map]
  · rintro before other after rfl idle
    rw [resolve_eq valid, resolve_eq valid, reference_congr fun p hp => lastText?_of_idle (idle p hp) before after]

/-- a text, and a number that is required -/
def sizeAndEpochs : List Spec :=
  [⟨"size", .str, some (.str "7b"), false, none, [.str "7b", .str "13b"]⟩, ⟨"epochs", .int, none, true, none, []⟩]

/-- the last text for `epochs` counts, and one for no parameter does not -/
theorem resolve_sizeAndEpochs :
    (∀ p ∈ sizeAndEpochs, checkName p.name = .ok ()) ∧ (sizeAndEpochs.map Spec.name).Nodup ∧
      resolve sizeAndEpochs (read ["hf_action_epochs=1", "epochs=9", "hf_action_epochs=2", "hf_action_epochs=3=4"]) =
        .ok (Table.ofList [("size", .str "7b"), ("epochs", .int 2)]) := by
  refine ⟨by decide, by decide, ?_⟩
  rw [(resolve_eq_reference sizeAndEpochs (by decide) (by decide) _).2.1]
  decide +kernel

end Trialbook.Arguments
