/-
HISTORIES: what holds of a registry after any operations on it.

Three operations can change a registry (`Registry.Operation`): a chain is registered under a name, declarations are
carried out, and an extracted experiment is inserted without an entry. Each may fail. An operation declares parameters
under a name (`Operation.Declares`) when it can register an experiment with these, the seed apart.

Invariant: every registered experiment is well formed (`Experiment.WellFormed`): its name is valid, its parameters
differ in their names, exactly one is the seed, and that is the first one unless the operation which declares it
declares a seed.

Results:
- `Registry.coherent`: index, names and look-up agree.
- `Registry.perform_adds`: whatever an operation adds, it declares.
- `Registry.run_wellFormed`: so every registered experiment is well formed, after any operations.
- `registry_history`: all of this at every point of a history, and what the next operation can change.
-/
import Trialbook.Proofs.Deposits
import Trialbook.Proofs.Origins
import Trialbook.Proofs.SoundExtractions

namespace Trialbook

/-! ## Chains -/

/-- begins with a bare entry, and everything declared on it was declared by a parameter -/
inductive Chain.Built : Chain → Prop where
  | bare (e : Entry) : Built (.bare e)
  | param {c c' : Chain} {p : Spec} : Built c → c.param p = .ok c' → Built c'

theorem Chain.Built.distinct {c : Chain} (h : c.Built) : (c.declared.map Spec.name).Nodup := by
  induction h with
  | bare => exact List.nodup_nil
  | param _ extended ih =>
    rcases addSpec_eq_ok_iff.1 (param_eq_ok extended).2 with ⟨fresh, declared⟩ | ⟨-, -, -, declared⟩
    · rw [declared]
      exact List.nodup_cons.2 ⟨fresh, ih⟩
    · rwa [declared]

theorem Chain.Made.built {c : Chain} (h : c.Made) : c.Built := by
  induction h with
  | bare e => exact .bare e
  | param _ _ extended ih => exact .param ih extended

theorem Stacked.built {e : Entry} {ds : List Draft} {c : Chain} (h : Stacked e ds c) : c.Built := by
  induction h with
  | bare => exact .bare e
  | param _ _ extended ih => exact .param ih extended

/-! ## The seed -/

section Seed

variable {seed : Option Int64} {declared : List Spec}

theorem withSeed_of_mem (own : seedName ∈ declared.map Spec.name) : withSeed seed declared = declared := by
  obtain ⟨p, hp, named⟩ := List.mem_map.1 own
  exact if_pos (List.any_eq_true.2 ⟨p, hp, by simpa using named⟩)

theorem withSeed_of_not_mem (none : seedName ∉ declared.map Spec.name) :
    withSeed seed declared = .seed seed :: declared := by
  refine if_neg fun own => none ?_
  obtain ⟨p, hp, named⟩ := List.any_eq_true.1 own
  exact List.mem_map.2 ⟨p, hp, beq_iff_eq.1 named⟩

theorem names_withSeed_nodup (distinct : (declared.map Spec.name).Nodup) :
    ((withSeed seed declared).map Spec.name).Nodup := by
  by_cases own : seedName ∈ declared.map Spec.name
  · rwa [withSeed_of_mem own]
  · rw [withSeed_of_not_mem own]
    exact List.nodup_cons.2 ⟨own, distinct⟩

theorem seedName_mem_withSeed : seedName ∈ (withSeed seed declared).map Spec.name := by
  by_cases own : seedName ∈ declared.map Spec.name
  · rwa [withSeed_of_mem own]
  · rw [withSeed_of_not_mem own]
    exact List.mem_cons_self

end Seed

/-! ## Operations -/

namespace Registry

/-- what may be done to a registry -/
inductive Operation where
  /-- registers a chain under a valid name -/
  | annotate (draft : ExperimentDraft) (chain : Chain) (named : checkName draft.name = .ok ()) (built : chain.Built)
  /-- carries out declarations of a file or of the host, with the files as they are -/
  | carryOut (files : Files) (declarations : Declarations)
  /-- inserts an extracted experiment, as data -/
  | insert (declared : Declared) (extracted : declared.Extracted)

/-- the registry after an operation, and how that failed -/
def perform (r : Registry) : Operation → Loading
  | .annotate d c _ _ =>
    match r.register d.name d.seed c with
    | .ok s => .start s
    | .error e => ⟨r, some (.declaration e)⟩
  | .carryOut files d => (Loading.start r).add files d
  | .insert d _ =>
    match r.insert (.ofDeclared d) with
    | .ok s => .start s
    | .error e => ⟨r, some (.declaration e)⟩

/-- the registry after operations, whether they failed or not -/
def run (ops : List Operation) : Registry := ops.foldl (fun r op => (r.perform op).registry) .empty

theorem run_snoc (ops : List Operation) (op : Operation) : run (ops ++ [op]) = ((run ops).perform op).registry := by
  simp [run, List.foldl_append]

namespace Operation

/-- registers one experiment or none -/
def IsSingle : Operation → Prop
  | annotate .. => True
  | insert .. => True
  | carryOut .. => False

/-- can register an experiment under the name, with the seed and the parameters that are declared for it -/
inductive Declares : Operation → String → Option Int64 → List Spec → Prop where
  | annotate {d : ExperimentDraft} {c : Chain} {named : checkName d.name = .ok ()} {built : c.Built} :
    Declares (.annotate d c named built) d.name d.seed c.declared
  | function {files : Files} {path text : String} {entries : EntryTable} {m : Source.Module} {f : Source.Function}
    {above : List Link} {d : ExperimentDraft} {ds : List Draft} {c : Chain} : files.readText path = .ok text →
    Source.Module.read? text = some m → f ∈ m.functions → f.Links (above ++ .experiment d :: ds.map .param) →
    Stacked (f.entry entries) ds c → checkName d.name = .ok () →
    Declares (.carryOut files (.file path entries)) d.name d.seed c.declared
  | native {files : Files} {name : String} {registrations : List Registration} {r : Registration} {c : Chain} :
    r ∈ registrations → r.chain = .ok c → checkName r.name = .ok () →
    Declares (.carryOut files (.native name registrations)) r.name r.seed c.declared
  | insert {d : Declared} {extracted : d.Extracted} : Declares (.insert d extracted) d.name d.seed d.params

theorem Declares.name {op : Operation} {name : String} {seed : Option Int64} {declared : List Spec}
    (h : op.Declares name seed declared) : checkName name = .ok () := by
  cases h with
  | @annotate _ _ named => exact named
  | function _ _ _ _ _ named => exact named
  | native _ _ named => exact named
  | @insert d extracted => exact extracted.sound.name

theorem Declares.distinct {op : Operation} {name : String} {seed : Option Int64} {declared : List Spec}
    (h : op.Declares name seed declared) : (declared.map Spec.name).Nodup := by
  cases h with
  | @annotate _ _ _ built => exact built.distinct
  | function _ _ _ _ stacked _ => exact stacked.built.distinct
  | native _ chain _ => exact (Registration.made_of_chain chain).built.distinct
  | @insert d extracted => exact extracted.sound.params.distinct

end Operation

end Registry

/-! ## What operations add -/

/-- an experiment that an operation declares, with the seed -/
def Registry.Operation.Gives (op : Registry.Operation) (x : Experiment) : Prop :=
  ∃ seed declared, op.Declares x.name seed declared ∧ x.parameters = withSeed seed declared

namespace Loading

/-- a function adds only what some of its links make, whether it fails or not -/
theorem addFunction_adds_made (entries : EntryTable) (y : Loading) (f : Source.Function) :
    y.registry.Adds (fun x => ∃ above own, f.Links (above ++ own) ∧ Makes (f.entry entries) own x)
      (y.addFunction entries f).registry := by
  by_cases clear : y.failure = none
  · by_cases failed : (y.addFunction entries f).failure = none
    · rw [eq_start clear] at failed ⊢
      rcases addFunction_of_clear failed with ⟨-, x, ⟨links, linked, made⟩, fresh, carried⟩ | ⟨-, carried⟩
      · rw [carried]
        exact .push fresh ⟨[], links, linked, made⟩
      · rw [carried]
        exact .refl
    · obtain ⟨last, registry, spills⟩ := addFunction_of_failure clear failed
      intro e he
      rw [registry] at he
      rcases List.mem_append.1 he with he | he
      · exact .inl he
      · rcases spills with ⟨x, rfl, -, above, own, -, linked, made, -⟩ | ⟨rfl, -⟩
        · rw [List.mem_singleton.1 he]
          exact .inr ⟨above, own, linked, made⟩
        · cases he
  · have same : y.addFunctions entries [f] = y := addFunctions_of_failure clear
    rw [show y.addFunction entries f = y from same]
    exact .refl

/-- carrying out a file adds what its functions declare -/
theorem addFile_adds (files : Files) (path : String) (entries : EntryTable) (r : Registry) :
    r.Adds (Registry.Operation.carryOut files (.file path entries)).Gives
      ((start r).add files (.file path entries)).registry := by
  simp only [add, start, Option.isSome_none, Bool.false_eq_true, if_false]
  cases content : files.readText path with
  | error e => exact .refl
  | ok text =>
    cases read : Source.Module.read? text with
    | none => simp only [addText, read]; exact .refl
    | some m =>
      simp only [addText, read]
      refine Registry.Adds.foldl (fun y f hf => (addFunction_adds_made entries y f).mono ?_) ⟨r, none⟩
      rintro x ⟨above, own, linked, made⟩
      cases made with
      | @experiment d ds c stacked named one =>
        exact ⟨d.seed, c.declared, .function content read hf linked stacked named, rfl⟩

/-- carrying out an experiment of the host adds the one that its chain declares -/
theorem addRegistration_adds_chain (y : Loading) (g : Registration) :
    y.registry.Adds (fun x => ∃ c, g.chain = .ok c ∧ checkName g.name = .ok () ∧ x.name = g.name ∧
      x.parameters = withSeed g.seed c.declared) (y.addRegistration g).registry := by
  unfold addRegistration
  split_ifs
  · exact .refl
  · split
    · exact .refl
    · rename_i c chain
      split
      · exact .refl
      · rename_i named
        split
        · exact .refl
        · rename_i s registered
          obtain ⟨-, fresh, rfl⟩ := Registry.register_eq_ok_iff.1 registered
          exact .push fresh ⟨c, chain, named, rfl, rfl⟩

end Loading

namespace Registry

/-- an operation on a single experiment adds one that it declares, or fails and changes nothing -/
theorem perform_of_single (r : Registry) {op : Operation} (single : op.IsSingle) :
    (∃ x, op.Gives x ∧ ∃ fresh : x.name ∉ r.names, r.perform op = .start (r.push x fresh)) ∨
      ∃ e, r.perform op = ⟨r, some e⟩ := by
  cases op with
  | annotate d c named built =>
    simp only [perform]
    cases registered : r.register d.name d.seed c with
    | error e => exact .inr ⟨.declaration e, rfl⟩
    | ok s =>
      obtain ⟨-, fresh, rfl⟩ := register_eq_ok_iff.1 registered
      exact .inl ⟨_, ⟨d.seed, c.declared, .annotate, rfl⟩, fresh, rfl⟩
  | insert d extracted =>
    simp only [perform]
    cases inserted : r.insert (.ofDeclared d) with
    | error e => exact .inr ⟨.declaration e, rfl⟩
    | ok s =>
      obtain ⟨fresh, rfl⟩ := insert_eq_ok_iff.1 inserted
      exact .inl ⟨_, ⟨d.seed, d.params, .insert, rfl⟩, fresh, rfl⟩
  | carryOut => exact single.elim

/-- whatever an operation adds, it declares -/
theorem perform_adds (r : Registry) (op : Operation) : r.Adds op.Gives (r.perform op).registry := by
  by_cases single : op.IsSingle
  · rcases perform_of_single r single with ⟨x, gives, fresh, performed⟩ | ⟨e, performed⟩
    · rw [performed]
      exact .push fresh gives
    · rw [performed]
      exact .refl
  · cases op with
    | carryOut files d =>
      cases d with
      | file path entries => exact Loading.addFile_adds files path entries r
      | native name registrations =>
        refine Adds.foldl (fun y g hg => (Loading.addRegistration_adds_chain y g).mono ?_) (.start r)
        rintro x ⟨c, chain, named, name, parameters⟩
        exact ⟨g.seed, c.declared, name ▸ .native hg chain named, parameters⟩
    | annotate => exact absurd trivial single
    | insert => exact absurd trivial single

/-- experiments are only ever added, at the end -/
theorem perform_prefix (r : Registry) (op : Operation) : r.experiments <+: (r.perform op).registry.experiments := by
  by_cases single : op.IsSingle
  · rcases perform_of_single r single with ⟨x, -, fresh, performed⟩ | ⟨e, performed⟩
    · rw [performed]
      exact List.prefix_append _ _
    · rw [performed]
  · cases op with
    | carryOut files d => exact (Loading.add_grows files (.start r) d).isPrefix
    | annotate => exact absurd trivial single
    | insert => exact absurd trivial single

end Registry

/-! ## Main result -/

/-- index, names and look-up agree -/
structure Registry.Coherent (r : Registry) : Prop where
  index : ∀ name i, r.index.get? name = some i ↔ r.names[i]? = some name
  inRange : ∀ name i, r.index.get? name = some i → i < r.experiments.length
  distinct : r.names.Nodup
  found : ∀ name x, r.get? name = some x ↔ x ∈ r.experiments ∧ x.name = name
  registered : ∀ name, (∃ x, r.get? name = some x) ↔ name ∈ r.names

theorem Registry.coherent (r : Registry) : r.Coherent where
  index := r.indexed
  inRange name i at_i := by
    have position := List.getElem?_eq_some_iff.1 ((r.indexed name i).1 at_i)
    simpa using position.1
  distinct := r.names_nodup
  found _ _ := get?_eq_some_iff
  registered name := by
    rw [← Option.isSome_iff_exists, Option.isSome_iff_ne_none, ne_eq, get?_eq_none_iff, not_not]

/-- the name is valid, the parameters differ in their names, exactly one is the seed, and that is the first unless the
operation which declares the experiment declares it -/
structure Experiment.WellFormed (ops : List Registry.Operation) (x : Experiment) : Prop where
  name : checkName x.name = .ok ()
  distinct : (x.parameters.map Spec.name).Nodup
  oneSeed : (x.parameters.map Spec.name).count seedName = 1
  declared : ∃ op ∈ ops, ∃ seed declared, op.Declares x.name seed declared ∧
    ((seedName ∈ declared.map Spec.name ∧ x.parameters = declared) ∨
      seedName ∉ declared.map Spec.name ∧ x.parameters = .seed seed :: declared)

namespace Registry

theorem Operation.Gives.wellFormed {ops : List Operation} {op : Operation} {x : Experiment} (h : op.Gives x)
    (member : op ∈ ops) : x.WellFormed ops := by
  obtain ⟨seed, declared, declares, parameters⟩ := h
  have distinct : (x.parameters.map Spec.name).Nodup := parameters ▸ names_withSeed_nodup declares.distinct
  refine ⟨declares.name, distinct, ?_, op, member, seed, declared, declares, ?_⟩
  · exact List.count_eq_one_of_mem distinct (parameters ▸ seedName_mem_withSeed)
  · by_cases own : seedName ∈ declared.map Spec.name
    · exact .inl ⟨own, parameters.trans (withSeed_of_mem own)⟩
    · exact .inr ⟨own, parameters.trans (withSeed_of_not_mem own)⟩

theorem run_wellFormed (ops : List Operation) : ∀ x ∈ (run ops).experiments, x.WellFormed ops := by
  induction ops using List.reverseRecOn with
  | nil => intro x hx; cases hx
  | append_singleton ops op ih =>
    intro x hx
    rw [run_snoc] at hx
    rcases perform_adds (run ops) op x hx with before | gives
    · obtain ⟨name, distinct, oneSeed, declaring, member, rest⟩ := ih x before
      exact ⟨name, distinct, oneSeed, declaring, List.mem_append_left _ member, rest⟩
    · exact gives.wellFormed (List.mem_append_right _ (List.mem_singleton_self op))

end Registry

open Registry in
/-- **A registry stays in order.** After any operations, whether they failed or not, the index holds the position of
every registered name and nothing else, names differ, look-up finds the experiment of a name just when it is registered,
and every registered experiment is well formed. Whatever operation comes next, what is registered stays where it is; one
on a single experiment adds that one at the end, or fails and leaves the registry as it was. -/
theorem registry_history (ops : List Operation) :
    (run ops).Coherent ∧ (∀ x ∈ (run ops).experiments, x.WellFormed ops) ∧
      ∀ op, run (ops ++ [op]) = ((run ops).perform op).registry ∧
        (run ops).experiments <+: (run (ops ++ [op])).experiments ∧
        (op.IsSingle → (((run ops).perform op).failure = none ∧
            ∃ x, (run (ops ++ [op])).experiments = (run ops).experiments ++ [x]) ∨
          ((run ops).perform op).failure ≠ none ∧ run (ops ++ [op]) = run ops) := by
  refine ⟨(run ops).coherent, run_wellFormed ops, fun op => ⟨run_snoc ops op, ?_, fun single => ?_⟩⟩
  · rw [run_snoc]
    exact perform_prefix (run ops) op
  · rw [run_snoc]
    rcases perform_of_single (run ops) single with ⟨x, -, fresh, performed⟩ | ⟨e, performed⟩
    · rw [performed]
      exact .inl ⟨rfl, x, rfl⟩
    · rw [performed]
      exact .inr ⟨Option.some_ne_none e, rfl⟩

/-- a chain that declares the seed -/
def seededChain : Chain := .params (.native 1 ⟨"own", fun _ => .ok ()⟩) [.seed (some 5)]

theorem seededChain_built : seededChain.Built :=
  .param (.bare _) (show Chain.param (.seed (some 5)) (.bare (.native 1 _)) = .ok seededChain from rfl)

def fitText : String := "@experiment('fit')\ndef f(b): pass\n"

/-- a chain is registered, and then a file -/
def chainThenFile : List Registry.Operation :=
  [.annotate ⟨"own", some 3⟩ seededChain (by decide) seededChain_built,
    .carryOut ⟨.directory [("fit.py", .file (.text fitText))], "/"⟩ (.file "/fit.py" ⟨.empty, none⟩)]

open Registry in
/-- both are well formed; inserting what the same file declares is refused, and changes nothing -/
theorem registry_history_refusing :
    (run chainThenFile).names = ["own", "fit"] ∧
      (∃ x ∈ (run chainThenFile).experiments, x.name = "own" ∧ x.WellFormed chainThenFile) ∧
      ∃ (d : Declared) (extracted : d.Extracted), (Operation.insert d extracted).IsSingle ∧
        ((run chainThenFile).perform (.insert d extracted)).failure =
          some (.declaration (.duplicateExperiment "fit")) ∧
        run (chainThenFile ++ [.insert d extracted]) = run chainThenFile := by
  obtain ⟨names, own⟩ : (run chainThenFile).names = ["own", "fit"] ∧
      (run chainThenFile).experiments.head?.map Experiment.name = some "own" := by decide +kernel
  have found : (Extractor.start.extractText fitText).2 = .ok [⟨"fit", none, "f", 2, none, []⟩] := by decide +kernel
  have extracted : Declared.Extracted ⟨"fit", none, "f", 2, none, []⟩ := .text found (List.mem_singleton_self _)
  obtain ⟨x, first, named⟩ := Option.map_eq_some_iff.1 own
  have member := List.mem_of_mem_head? first
  obtain ⟨-, wellFormed, next⟩ := registry_history chainThenFile
  have taken : (run chainThenFile).contains "fit" = true := contains_iff.2 (names ▸ by decide)
  have refused : ((run chainThenFile).perform (.insert _ extracted)).failure =
      some (.declaration (.duplicateExperiment "fit")) := by
    simp [perform, Registry.insert, Experiment.ofDeclared, taken]
  refine ⟨names, ⟨x, member, named, wellFormed x member⟩, _, extracted, trivial, refused, ?_⟩
  rcases (next (.insert _ extracted)).2.2 trivial with ⟨accepted, -⟩ | ⟨-, unchanged⟩
  · rw [refused] at accepted
    cases accepted
  · exact unchanged

end Trialbook
