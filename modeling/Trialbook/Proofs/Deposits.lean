/-
DEPOSITS: what carrying out a declaration file leaves in a registry, however that ends.

Links make an experiment of an entry (`Makes`) when they are an experiment on top of drafts that stack on it, and the
name and the entry are ones that can be registered. A function declares an experiment (`Source.Function.IsExperiment`)
when all its decorators call combinators, the outermost one `experiment`. What it registers on the whole is
`Source.Function.Registers`; what it registers although it fails, because a link stands above those that make an
experiment, is `Source.Function.Spills`.

Results:
- `Application.applyAll_of_makes`: links that make an experiment register it, also if the link above them fails.
- `Loading.addFunction_of_clear`: a function that is carried out adds one experiment if it declares one, else none.
- `Loading.registry_addFunction_of_failure`: a function that fails adds what it spills, else none.
- `loading_deposits`: so a file adds one experiment for each function before the first that fails, and what that spills.
-/
import Trialbook.Proofs.Collisions
import Trialbook.Proofs.Stacks

namespace Trialbook

/-! ## Links -/

/-- links make an experiment of an entry: an experiment under a valid name, on top of drafts that stack on the entry,
which takes one argument -/
inductive Makes (e : Entry) : List Link → Experiment → Prop where
  | experiment {d : ExperimentDraft} {ds : List Draft} {c : Chain} : Stacked e ds c → checkName d.name = .ok () →
    e.arity = 1 → Makes e (.experiment d :: ds.map .param) ⟨d.name, withSeed d.seed c.declared, some e⟩

/-- links register something just when they make an experiment under a name that is free -/
theorem applied_none_iff {e : Entry} {r s : Registry} {ls : List Link} :
    Applied e r ls ⟨none, s⟩ ↔ ∃ x, Makes e ls x ∧ ∃ fresh : x.name ∉ r.names, s = r.push x fresh := by
  constructor
  · intro h
    cases h with
    | @experiment d ds c _ stacked name registered =>
      obtain ⟨one, fresh, rfl⟩ := Registry.register_eq_ok_iff.1 registered
      have entry := stacked.entry
      subst entry
      exact ⟨_, .experiment stacked name one, fresh, rfl⟩
  · rintro ⟨x, made, fresh, rfl⟩
    cases made with
    | experiment stacked name one =>
      have entry := stacked.entry
      subst entry
      exact .experiment stacked name (Registry.register_eq_ok_iff.2 ⟨one, fresh, rfl⟩)

namespace Application

variable {function : String} {a b : Application} {ls done rest : List Link}

/-- links that can be applied do not stop the ones after them -/
theorem applyAll_append (h : done.foldlM (apply function) a = .ok b) :
    a.applyAll function (done ++ rest) = b.applyAll function rest := by
  induction done generalizing a with
  | nil =>
    cases h
    rfl
  | cons l done ih =>
    rw [List.foldlM_cons] at h
    obtain ⟨a', applied, h⟩ := bind_eq_ok_iff.1 h
    rw [List.cons_append, applyAll, applied]
    exact ih h

/-- links that fail do so at one of them, and leave what is registered then -/
theorem exists_of_failure (failed : (a.applyAll function ls).failure ≠ none) :
    ∃ done rest b, ls = done ++ rest ∧ done.foldlM (apply function) a = .ok b ∧ rest ≠ [] ∧
      (a.applyAll function ls).registry = b.registry := by
  induction ls generalizing a with
  | nil => exact absurd rfl failed
  | cons l ls ih =>
    unfold applyAll at failed ⊢
    split at failed
    · exact ⟨[], l :: ls, a, rfl, rfl, List.cons_ne_nil l ls, rfl⟩
    · rename_i a' applied
      obtain ⟨done, rest, b, rfl, go, some, registry⟩ := ih failed
      refine ⟨l :: done, rest, b, rfl, ?_, some, registry⟩
      rw [List.foldlM_cons, applied]
      exact go

/-- what the lowest links make is registered, and whatever stands above them fails -/
theorem applyAll_of_makes {e : Entry} {r : Registry} {above own : List Link} {x : Experiment} (made : Makes e own x)
    (fresh : x.name ∉ r.names) :
    (applyAll function ⟨some (.bare e), r⟩ (above ++ own).reverse).registry = r.push x fresh := by
  have applied : own.reverse.foldlM (apply function) ⟨some (.bare e), r⟩ = .ok ⟨none, r.push x fresh⟩ :=
    applied_iff.2 (applied_none_iff.2 ⟨x, made, fresh, rfl⟩)
  rw [List.reverse_append, applyAll_append applied]
  cases above.reverse with
  | nil => rfl
  | cons l ls => rfl

end Application

/-! ## Functions -/

theorem Source.Expr.combinatorCall?_ne_none_iff {e : Expr} :
    e.combinatorCall? ≠ none ↔ ∃ (c : Combinator) (args : _), e = .call (.name c.word) args := by
  constructor
  · intro some
    unfold combinatorCall? at some
    split at some
    · rename_i w args
      unfold Combinator.ofWord? at some
      split_ifs at some with experiment param
      · exact ⟨.experiment, args, by rw [experiment]; rfl⟩
      · exact ⟨.param, args, by rw [param]; rfl⟩
      · exact absurd rfl some
    · exact absurd rfl some
  · rintro ⟨c, args, rfl⟩
    cases c <;> simp [combinatorCall?, Combinator.ofWord?, Combinator.word]

namespace Source.Function

variable {f : Function} {links : List Link}

/-- all decorators call combinators, the outermost one `experiment` -/
structure IsExperiment (f : Function) : Prop where
  outermost : ∃ d rest args, f.decorators = d :: rest ∧ d.expr = .call (.name "experiment") args
  combinators : ∀ d ∈ f.decorators, ∃ (c : Combinator) (args : _), d.expr = .call (.name c.word) args

/-- the experiment that all the links of a function make -/
def Registers (entries : EntryTable) (f : Function) (x : Experiment) : Prop :=
  ∃ links, f.Links links ∧ Makes (f.entry entries) links x

/-- the experiment that links of a function make although some link stands above them, under a name that is free; all
decorators have to be links, and the function not asynchronous -/
def Spills (entries : EntryTable) (r : Registry) (f : Function) (x : Experiment) : Prop :=
  f.isAsync = false ∧ ∃ above own, above ≠ [] ∧ f.Links (above ++ own) ∧ Makes (f.entry entries) own x ∧
    x.name ∉ r.names

theorem isExperiment_iff : f.IsExperiment ↔
    (f.decorators.head?.map Decorator.callsExperiment).getD false = true ∧
      ∀ d ∈ f.decorators, d.expr.combinatorCall? ≠ none := by
  simp only [Expr.combinatorCall?_ne_none_iff]
  constructor
  · rintro ⟨⟨d, rest, args, decorators, expr⟩, combinators⟩
    refine ⟨?_, combinators⟩
    rw [decorators]
    exact Decorator.callsExperiment_iff.2 ⟨args, expr⟩
  · rintro ⟨outermost, combinators⟩
    refine ⟨?_, combinators⟩
    cases decorators : f.decorators with
    | nil => simp [decorators] at outermost
    | cons d rest =>
      rw [decorators] at outermost
      obtain ⟨args, expr⟩ := Decorator.callsExperiment_iff.1 outermost
      exact ⟨d, rest, args, rfl, expr⟩

instance : DecidablePred IsExperiment := fun _ => decidable_of_iff' _ isExperiment_iff

theorem not_isExperiment_of_alone (alone : f.decorators = [] ∨ f.isForeign = true) : ¬ f.IsExperiment := by
  rw [isExperiment_iff]
  rintro ⟨outermost, combinators⟩
  rcases alone with none | foreign
  · simp [none] at outermost
  · obtain ⟨d, hd, other⟩ := isForeign_iff.1 foreign
    exact combinators d hd other

/-- where all decorators are links, the first link says whether an experiment is declared -/
theorem isExperiment_iff_of_links (h : f.Links links) : f.IsExperiment ↔ ∃ d rest, links = .experiment d :: rest := by
  have own := not_isForeign_of_links (mapM_eq_ok_iff.2 h)
  have combinators : ∀ d ∈ f.decorators, d.expr.combinatorCall? ≠ none := fun d hd other => by
    rw [isForeign_iff.2 ⟨d, hd, other⟩] at own
    cases own
  rw [isExperiment_iff, and_iff_left combinators]
  unfold Links at h
  cases decorators : f.decorators with
  | nil =>
    rw [decorators, List.forall₂_nil_left_iff] at h
    simp [h]
  | cons d ds =>
    rw [decorators] at h
    obtain ⟨l, ls, here, -, rfl⟩ := List.forall₂_cons_left_iff.1 h
    simp [Decorator.callsExperiment_iff_of_link here]

end Source.Function

namespace Loading

variable {entries : EntryTable} {f : Source.Function} {r : Registry}

/-- a function that is carried out registers one experiment if it declares one, else nothing -/
theorem addFunction_of_clear (clear : ((start r).addFunction entries f).failure = none) :
    (f.IsExperiment ∧ ∃ x, f.Registers entries x ∧
      ∃ fresh : x.name ∉ r.names, (start r).addFunction entries f = start (r.push x fresh)) ∨
    ¬ f.IsExperiment ∧ (start r).addFunction entries f = start r := by
  by_cases alone : f.decorators = [] ∨ f.isForeign = true
  · exact .inr ⟨Source.Function.not_isExperiment_of_alone alone, addFunction_of_alone alone⟩
  · rw [not_or, Bool.not_eq_true] at alone
    have carried := eq_start clear
    obtain ⟨-, links, ⟨target, s⟩, linked, applied, registry⟩ := (addFunction_eq_start_iff alone.1 alone.2).1 carried
    have links' : f.Links links := mapM_eq_ok_iff.1 linked
    rw [← registry] at carried
    cases applied with
    | stack stacked =>
      refine .inr ⟨fun declares => ?_, carried⟩
      obtain ⟨d, rest, first⟩ := (Source.Function.isExperiment_iff_of_links links').1 declares
      rw [List.map_eq_cons_iff] at first
      obtain ⟨_, _, -, same, -⟩ := first
      cases same
    | experiment stacked name registered =>
      obtain ⟨x, made, fresh, rfl⟩ := applied_none_iff.1 (.experiment stacked name registered)
      have declares := (Source.Function.isExperiment_iff_of_links links').2 ⟨_, _, rfl⟩
      exact .inl ⟨declares, x, ⟨_, links', made⟩, fresh, carried⟩

/-- a function whose links make an experiment below others registers it -/
theorem registry_addFunction_of_spills {x : Experiment} (h : f.Spills entries r x) :
    ∃ fresh : x.name ∉ r.names, ((start r).addFunction entries f).registry = r.push x fresh := by
  obtain ⟨sync, above, own, more, links, made, fresh⟩ := h
  have linked := mapM_eq_ok_iff.2 links
  have some : f.decorators ≠ [] := fun none => by
    rw [Source.Function.Links, none, List.forall₂_nil_left_iff] at links
    exact more (List.append_eq_nil_iff.1 links).1
  have own := Source.Function.not_isForeign_of_links linked
  refine ⟨fresh, ?_⟩
  unfold addFunction
  rw [if_neg (by simp [start, some, own]), linked]
  simp only [sync, Bool.false_eq_true, if_false]
  exact Application.applyAll_of_makes made fresh

/-- a function changes nothing but what its links do, applied when all can be read and it is not asynchronous -/
theorem addFunction_eq (entries : EntryTable) (f : Source.Function) (r : Registry) :
    ((start r).addFunction entries f).registry = r ∨ ∃ links, f.Links links ∧ f.isAsync = false ∧
      (start r).addFunction entries f =
        Application.applyAll f.name ⟨some (.bare (f.entry entries)), r⟩ links.reverse := by
  unfold addFunction
  split
  · exact .inl rfl
  · cases linked : f.decorators.mapM Source.Decorator.link with
    | error e => exact .inl rfl
    | ok links =>
      simp only
      split_ifs with async
      · exact .inl rfl
      · exact .inr ⟨links, mapM_eq_ok_iff.1 linked, by simpa using async, rfl⟩

/-- a function that fails leaves what it spills, and nothing else -/
theorem registry_addFunction_of_failure (failed : ((start r).addFunction entries f).failure ≠ none)
    (none : ∀ x, ¬ f.Spills entries r x) : ((start r).addFunction entries f).registry = r := by
  rcases addFunction_eq entries f r with same | ⟨links, linked, sync, applied⟩
  · exact same
  · rw [applied] at failed ⊢
    obtain ⟨done, rest, ⟨target, s⟩, split, go, more, registry⟩ := Application.exists_of_failure failed
    refine registry.trans ?_
    have own : links = rest.reverse ++ done.reverse := by
      rw [← List.reverse_append, ← split, List.reverse_reverse]
    have reached : Applied (f.entry entries) r done.reverse ⟨target, s⟩ := by
      refine applied_iff.1 (?_ : done.reverse.reverse.foldlM (Application.apply f.name) _ = _)
      rw [List.reverse_reverse]
      exact go
    cases target with
    | some c =>
      generalize done.reverse = applied, same : (⟨some c, s⟩ : Application) = b at reached
      cases reached with
      | stack => cases same; rfl
      | experiment => cases same
    | none =>
      -- the links that were applied make an experiment, and the one above them failed
      obtain ⟨x, made, fresh, -⟩ := applied_none_iff.1 reached
      have spills : f.Spills entries r x :=
        ⟨sync, rest.reverse, done.reverse, mt List.reverse_eq_nil_iff.1 more, own ▸ linked, made, fresh⟩
      exact absurd spills (none x)

/-- a function that fails adds the experiment that it spills, if it spills one -/
theorem addFunction_of_failure {y : Loading} (clear : y.failure = none)
    (failed : (y.addFunction entries f).failure ≠ none) :
    ∃ last, (y.addFunction entries f).registry.experiments = y.registry.experiments ++ last ∧
      ((∃ x, last = [x] ∧ f.Spills entries y.registry x) ∨ last = [] ∧ ∀ x, ¬ f.Spills entries y.registry x) := by
  have here := eq_start clear
  generalize y.registry = r at here ⊢
  subst here
  by_cases spills : ∃ x, f.Spills entries r x
  · obtain ⟨x, spills⟩ := spills
    obtain ⟨fresh, registry⟩ := registry_addFunction_of_spills spills
    exact ⟨[x], by rw [registry, Registry.experiments_push], .inl ⟨x, rfl, spills⟩⟩
  · have none := not_exists.1 spills
    exact ⟨[], by rw [registry_addFunction_of_failure failed none, List.append_nil], .inr ⟨rfl, none⟩⟩

/-- functions that are carried out register one experiment each if they declare one, in order -/
theorem addFunctions_of_clear {fs : List Source.Function} (clear : ((start r).addFunctions entries fs).failure = none) :
    ∃ new, ((start r).addFunctions entries fs).registry.experiments = r.experiments ++ new ∧
      List.Forall₂ (Source.Function.Registers entries) (fs.filter fun f => f.IsExperiment) new := by
  induction fs generalizing r with
  | nil => exact ⟨[], (List.append_nil _).symm, .nil⟩
  | cons f fs ih =>
    change (((start r).addFunction entries f).addFunctions entries fs).failure = none at clear
    change ∃ new, (((start r).addFunction entries f).addFunctions entries fs).registry.experiments = _ ∧ _
    have here : ((start r).addFunction entries f).failure = none := by
      by_contra failed
      rw [addFunctions_of_failure failed] at clear
      exact failed clear
    rcases addFunction_of_clear here with ⟨declares, x, registers, fresh, carried⟩ | ⟨other, carried⟩
    · rw [carried] at clear ⊢
      obtain ⟨new, registry, all⟩ := ih clear
      refine ⟨x :: new, ?_, ?_⟩
      · rw [registry, Registry.experiments_push, List.append_assoc, List.singleton_append]
      · rw [List.filter_cons_of_pos (by simpa using declares)]
        exact .cons registers all
    · rw [carried] at clear ⊢
      obtain ⟨new, registry, all⟩ := ih clear
      refine ⟨new, registry, ?_⟩
      rwa [List.filter_cons_of_neg (by simpa using other)]

end Loading

/-! ## Main result -/

/-- **What a declaration file leaves behind.** When a file that can be read is carried out, the registry is what it was,
followed by new experiments. Without failure these are, in order, the ones that the functions register which declare
one: one for each of those, and none for any other function. A failure comes at some function; then they are those of
the functions before it, and what that function spills, if it spills something. -/
theorem loading_deposits (files : Files) (path text : String) (entries : EntryTable) (m : Source.Module)
    (content : files.readText path = .ok text) (read : Source.Module.read? text = some m) (r : Registry) :
    let x := (Loading.start r).add files (.file path entries)
    (x.result = .ok () → ∃ new, x.registry.experiments = r.experiments ++ new ∧
      List.Forall₂ (Source.Function.Registers entries) (m.functions.filter fun f => f.IsExperiment) new) ∧
    ∀ e, x.result = .error e → ∃ before f after new last, m.functions = before ++ f :: after ∧
      x.registry.experiments = r.experiments ++ new ++ last ∧
      List.Forall₂ (Source.Function.Registers entries) (before.filter fun f => f.IsExperiment) new ∧
      let y := (Loading.start r).addFunctions entries before
      y.result = .ok () ∧ y.addFunction entries f = x ∧ y.registry.experiments = r.experiments ++ new ∧
      ((∃ z, last = [z] ∧ f.Spills entries y.registry z) ∨ last = [] ∧ ∀ z, ¬ f.Spills entries y.registry z) := by
  intro x
  have run : x = (Loading.start r).addFunctions entries m.functions := by
    change (Loading.start r).add files (.file path entries) = _
    simp only [Loading.add, Loading.start, Option.isSome_none, Bool.false_eq_true, if_false, content]
    exact Loading.addText_of_read rfl read
  rw [run]
  constructor
  · intro success
    exact Loading.addFunctions_of_clear (Loading.result_eq_ok_iff.1 success)
  · intro e failed
    have stopped : ((Loading.start r).addFunctions entries m.functions).failure ≠ none := by
      rw [Loading.result_eq_error_iff.1 failed]
      exact Option.some_ne_none e
    obtain ⟨before, f, after, functions, clear, last⟩ := Loading.first_failure rfl stopped
    obtain ⟨new, deposited, registers⟩ := Loading.addFunctions_of_clear clear
    rw [last] at stopped ⊢
    obtain ⟨added, registry, spills⟩ := Loading.addFunction_of_failure clear stopped
    refine ⟨before, f, after, new, added, functions, ?_, registers, Loading.result_eq_ok_iff.2 clear, rfl, deposited,
      spills⟩
    rw [registry, deposited]

/-- a function without decorators, one with a foreign one, one with a parameter only, and one with an experiment -/
def mixedFunctions : String :=
  "def f(): pass\n@cached\ndef g(b): pass\n@param('size')\ndef h(b): pass\n@experiment('train')\ndef main(b): pass\n"

/-- a function with an experiment, and two with a parameter above one -/
def spillingFunctions : String :=
  "@experiment('train')\ndef main(b): pass\n@param('rate')\n@experiment('test')\ndef late(b): pass\n" ++
    "@param('rate')\n@experiment('never')\ndef never(b): pass\n"

def depositFiles : Files :=
  ⟨.directory [("mixed.py", .file (.text mixedFunctions)), ("spilling.py", .file (.text spillingFunctions))], "/"⟩

/-- a file that is carried out to its end, and one that fails at a function which spills an experiment -/
theorem loading_deposits_spilling :
    (∃ m new, Source.Module.read? mixedFunctions = some m ∧
      ((Loading.start .empty).add depositFiles (.file "/mixed.py" ⟨.empty, none⟩)).registry.experiments = [] ++ new ∧
      List.Forall₂ (Source.Function.Registers ⟨.empty, none⟩) (m.functions.filter fun f => f.IsExperiment) new ∧
      new.map Experiment.name = ["train"]) ∧
    ∃ m before f after new z, Source.Module.read? spillingFunctions = some m ∧ m.functions = before ++ f :: after ∧
      ((Loading.start .empty).add depositFiles (.file "/spilling.py" ⟨.empty, none⟩)).registry.experiments =
        [] ++ new ++ [z] ∧
      List.Forall₂ (Source.Function.Registers ⟨.empty, none⟩) (before.filter fun f => f.IsExperiment) new ∧
      f.Spills ⟨.empty, none⟩ ((Loading.start .empty).addFunctions ⟨.empty, none⟩ before).registry z ∧
      new.map Experiment.name = ["train"] ∧ z.name = "test" := by
  obtain ⟨readable, content, success, names⟩ : (Source.Module.read? mixedFunctions).isSome = true ∧
      depositFiles.readText "/mixed.py" = .ok mixedFunctions ∧
      ((Loading.start .empty).add depositFiles (.file "/mixed.py" ⟨.empty, none⟩)).result = .ok () ∧
      ((Loading.start .empty).add depositFiles (.file "/mixed.py" ⟨.empty, none⟩)).registry.names = ["train"] := by
    decide +kernel
  obtain ⟨one, content', failed, names'⟩ :
      (Source.Module.read? spillingFunctions).map (fun m => (m.functions.filter fun f => f.IsExperiment).length) =
        some 1 ∧
      depositFiles.readText "/spilling.py" = .ok spillingFunctions ∧
      ((Loading.start .empty).add depositFiles (.file "/spilling.py" ⟨.empty, none⟩)).result =
        .error (.declaration (.aboveExperiment "late")) ∧
      ((Loading.start .empty).add depositFiles (.file "/spilling.py" ⟨.empty, none⟩)).registry.names =
        ["train", "test"] := by decide +kernel
  obtain ⟨m, read⟩ := Option.isSome_iff_exists.1 readable
  obtain ⟨m', read', one⟩ := Option.map_eq_some_iff.1 one
  constructor
  · obtain ⟨new, registry, registers⟩ :=
      (loading_deposits depositFiles "/mixed.py" _ ⟨.empty, none⟩ m content read .empty).1 success
    refine ⟨m, new, read, registry, registers, ?_⟩
    rw [Registry.names, registry] at names
    exact names
  · obtain ⟨before, f, after, new, last, functions, registry, registers, -, -, -, spills⟩ :=
      (loading_deposits depositFiles "/spilling.py" _ ⟨.empty, none⟩ m' content' read' .empty).2 _ failed
    rw [Registry.names, registry, List.map_append] at names'
    rcases spills with ⟨z, rfl, spills⟩ | ⟨rfl, -⟩
    · obtain ⟨train, test⟩ := List.append_inj' (show _ = ["train"] ++ ["test"] from names') rfl
      exact ⟨m', before, f, after, new, z, read', functions, registry, registers, spills, train,
        List.singleton_injective test⟩
    · -- two experiments would come from one function
      have two : new.length = 2 := by simpa [Registry.empty] using congrArg List.length names'
      have few : (before.filter fun f => f.IsExperiment).length ≤ 1 := by
        rw [← one, functions, List.filter_append, List.length_append]
        exact Nat.le_add_right _ _
      rw [registers.length_eq, two] at few
      omega

end Trialbook
