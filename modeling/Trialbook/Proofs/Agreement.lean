/-
AGREEMENT: declaration files can be carried out, which registers their experiments, or extracted, which only lists them,
and the two say the same.

An experiment matches a declared one (`Experiment.Matches`) when name and parameters are equal and it is bound to the
decorated function. Extraction and loading agree (`Agree`) when neither has failed and the registered experiments match
the found ones, in order.

Invariant (`Agree.step`): a function that is carried out without failure keeps them in agreement, unless it repeats a
parameter with the same settings (`RepeatsEqually`), which loading drops and extraction refuses.

Results:
- `Agree.addFunctions`: what carrying out many functions without failure leaves of the agreement.
- `paths_agree`: from empty beginnings, for a text and for a directory; and up to the first failure, for a text.
-/
import Trialbook.Proofs.Extractions
import Trialbook.Proofs.Launches
import Trialbook.Proofs.Stacks

namespace Trialbook

/-! ## Matching -/

/-- an experiment is the declared one, bound to the decorated function -/
structure Experiment.Matches (entries : EntryTable) (e : Experiment) (d : Declared) : Prop where
  name : e.name = d.name
  parameters : e.parameters = d.parameters
  entry : e.entry = some (.function d.function 1 (entries.find? d.function))

/-- the registered experiments are the found ones, in order -/
def Registry.Matches (entries : EntryTable) (r : Registry) (found : List Declared) : Prop :=
  List.Forall₂ (Experiment.Matches entries) r.experiments found

theorem Registry.Matches.names {entries : EntryTable} {r : Registry} {found : List Declared}
    (h : r.Matches entries found) : r.names = found.map Declared.name := by
  unfold Matches at h
  unfold Registry.names
  generalize r.experiments = experiments at h ⊢
  induction h with
  | nil => rfl
  | cons here _ ih => rw [List.map_cons, List.map_cons, here.name, ih]

/-- nothing has failed, and what is registered is what was found -/
structure Agree (entries : EntryTable) (x : Extraction) (y : Loading) : Prop where
  extracted : x.error = none
  loaded : y.failure = none
  same : y.registry.Matches entries x.found

theorem Agree.empty (entries : EntryTable) : Agree entries .empty (.start .empty) := ⟨rfl, rfl, .nil⟩

/-- two links declare one parameter, with specs that are the same -/
def Source.Function.RepeatsEqually (f : Source.Function) (name : String) : Prop :=
  ∃ above upper below lower, f.decorators.mapM Decorator.link = .ok (above ++ .param upper :: below) ∧
    .param lower ∈ below ∧ upper.name = name ∧ lower.name = name ∧
    ∃ p q, upper.spec = .ok p ∧ lower.spec = .ok q ∧ q.same p = true

/-- a collision of two links of one function that declare the same -/
def Source.Module.Repeats (m : Source.Module) (e : ExtractError) : Prop :=
  ∃ f ∈ m.functions, ∃ name, e = .duplicateParam f.name name ∧ f.RepeatsEqually name

/-! ## Agreement is kept -/

namespace Source.Function

variable {f : Function}

/-- a name that comes back in a stack does so with the same settings -/
theorem repeatsEqually_of_stacked {e : Entry} {c : Chain} {d : ExperimentDraft} {above below : List Draft}
    {lower : Draft}
    (linked : f.decorators.mapM Decorator.link = .ok (.experiment d :: (above ++ lower :: below).map .param))
    (stacked : Stacked e (above ++ lower :: below) c) (back : lower.name ∈ above.map Draft.name) :
    f.RepeatsEqually lower.name := by
  obtain ⟨upper, hu, named⟩ := List.mem_map.1 back
  obtain ⟨first, between, rfl⟩ := List.mem_iff_append.1 hu
  rw [List.append_assoc, List.cons_append] at stacked linked
  obtain ⟨c', stacked⟩ := stacked.of_append
  have again : upper.name ∈ (between ++ lower :: below).map Draft.name := List.mem_map.2 ⟨lower, by simp, named.symm⟩
  obtain ⟨b, hb, same, specs⟩ := stacked.repeated again
  refine ⟨.experiment d :: first.map .param, upper, (between ++ lower :: below).map .param, b, ?_,
    List.mem_map_of_mem hb, named, same.trans named, specs⟩
  rw [linked, List.map_append, List.map_cons, List.cons_append]

end Source.Function

namespace Agree

variable {entries : EntryTable} (file : Option String) {x : Extraction} {y : Loading} {f : Source.Function}

/-- a function that neither path takes up changes nothing -/
theorem unchanged (h : Agree entries x y) {v : Verdict} (verdict : f.verdict = .ok v)
    (other : ∀ d params, v ≠ .kept d params) : Agree entries (x.step file f) y := by
  obtain ⟨error, found⟩ : (x.step file f).error = none ∧ (x.step file f).found = x.found :=
    Extraction.step_of_not_kept h.extracted verdict other
  exact ⟨error, h.loaded, found ▸ h.same⟩

/-- a kept function adds one experiment on either path -/
theorem registered (h : Agree entries x y) {d : ExperimentDraft} {c : Chain} {s : Registry}
    (kept : f.verdict = .ok (.kept d c.declared)) (bound : c.entry = f.entry entries)
    (added : y.registry.register d.name d.seed c = .ok s) : Agree entries (x.step file f) (.start s) := by
  obtain ⟨one, fresh, rfl⟩ := Registry.register_eq_ok_iff.1 added
  rw [h.same.names] at fresh
  rw [Extraction.step_of_kept h.extracted kept fresh]
  refine ⟨h.extracted, rfl, ?_⟩
  have arity : f.arity = 1 := by rwa [bound] at one
  refine List.rel_append h.same (.cons ⟨rfl, rfl, ?_⟩ .nil)
  change some c.entry = _
  rw [bound, Source.Function.entry, arity]

/-- a function that is carried out keeps the agreement, unless it repeats a parameter with the same settings -/
theorem step (h : Agree entries x y) (ok : (y.addFunction entries f).failure = none) :
    Agree entries (x.step file f) (y.addFunction entries f) ∨
      ∃ name, (x.step file f).error = some (.duplicateParam f.name name) ∧ f.RepeatsEqually name := by
  by_cases alone : f.decorators = [] ∨ f.isForeign = true
  · obtain ⟨v, verdict, other⟩ := Source.Function.verdict_of_alone alone
    rw [Loading.addFunction_of_alone alone]
    exact .inl (h.unchanged file verdict other)
  · rw [not_or, Bool.not_eq_true] at alone
    have carried := Loading.eq_start ok
    nth_rewrite 1 [Loading.eq_start h.loaded] at carried
    obtain ⟨sync, links, b, linked, applied, registry⟩ :=
      (Loading.addFunction_eq_start_iff alone.1 alone.2).1 carried
    rw [Loading.eq_start ok, ← registry]
    cases applied with
    | stack stacked =>
      -- nothing is registered, and the first link is no experiment
      have verdict := Source.Function.verdict_of_params linked
      exact .inl (Loading.eq_start h.loaded ▸ h.unchanged file verdict fun _ _ kept => (nomatch kept))
    | @experiment d ds c s stacked name added =>
      rcases Source.Function.verdict_of_links sync linked with
        ⟨distinct, -⟩ | ⟨above, lower, below, rfl, back, stopped⟩
      · have kept := Source.Function.verdict_eq_kept_iff.2
          ⟨sync, ds, linked, distinct, stacked.specs distinct, name⟩
        exact .inl (h.registered file kept stacked.entry added)
      · exact .inr ⟨lower.name, Extraction.step_of_error h.extracted stopped,
          Source.Function.repeatsEqually_of_stacked linked stacked back⟩

/-- and so do many functions -/
theorem addFunctions {fs : List Source.Function} (h : Agree entries x y)
    (ok : (y.addFunctions entries fs).failure = none) :
    Agree entries (x.addFunctions file fs) (y.addFunctions entries fs) ∨
      ∃ f ∈ fs, ∃ name, (x.addFunctions file fs).error = some (.duplicateParam f.name name) ∧
        f.RepeatsEqually name := by
  induction fs generalizing x y with
  | nil => exact .inl h
  | cons f fs ih =>
    change (Loading.addFunctions entries (y.addFunction entries f) fs).failure = none at ok
    have here : (y.addFunction entries f).failure = none := by
      by_contra failed
      rw [Loading.addFunctions_of_failure failed] at ok
      exact failed ok
    rcases h.step file here with kept | ⟨name, stopped, repeats⟩
    · rcases ih kept ok with all | ⟨g, hg, name, stopped, repeats⟩
      · exact .inl all
      · exact .inr ⟨g, List.mem_cons_of_mem f hg, name, stopped, repeats⟩
    · refine .inr ⟨f, List.mem_cons_self, name, ?_, repeats⟩
      change (Extraction.addFunctions file (x.step file f) fs).error = _
      rw [Extraction.addFunctions_of_error (by simp [stopped]), stopped]

/-- where extraction is not stopped either, the agreement is kept -/
theorem addFunctions_of_clear {fs : List Source.Function} (h : Agree entries x y)
    (clear : (x.addFunctions file fs).error = none) (ok : (y.addFunctions entries fs).failure = none) :
    Agree entries (x.addFunctions file fs) (y.addFunctions entries fs) := by
  rcases h.addFunctions file ok with all | ⟨f, hf, name, stopped, -⟩
  · exact all
  · rw [clear] at stopped
    cases stopped

/-- where only loading fails, the agreement is kept up to the function at which it does -/
theorem before_failure {fs : List Source.Function} (h : Agree entries x y)
    (clear : (x.addFunctions file fs).error = none) (failed : (y.addFunctions entries fs).failure ≠ none) :
    ∃ before f after, fs = before ++ f :: after ∧
      Agree entries (x.addFunctions file before) (y.addFunctions entries before) ∧
      (x.addFunctions file before).found <+: (x.addFunctions file fs).found ∧
      (y.addFunctions entries before).addFunction entries f = y.addFunctions entries fs := by
  obtain ⟨before, f, after, rfl, loaded, last⟩ := Loading.first_failure h.loaded failed
  refine ⟨before, f, after, rfl, ?_, ?_, last.symm⟩
  · exact h.addFunctions_of_clear file (Extraction.error_of_append before clear) loaded
  · rw [Extraction.addFunctions_append]
    exact Extraction.found_prefix _

/-- a text that is carried out can be read, and its functions keep the agreement -/
theorem addText {origin : String} {text : String} (h : Agree entries x y)
    (ok : (y.addText entries origin text).failure = none) : ∃ m, Source.Module.read? text = some m ∧
      (Agree entries (x.addText file text) (y.addText entries origin text) ∨
        ∃ e, (x.addText file text).error = some e ∧ m.Repeats e) := by
  cases read : Source.Module.read? text with
  | none =>
    rw [Loading.addText, if_neg (by simp [h.loaded]), read] at ok
    cases ok
  | some m =>
    rw [Loading.addText_of_read h.loaded read] at ok ⊢
    rw [Extraction.addText_of_read h.extracted read]
    refine ⟨m, rfl, ?_⟩
    rcases h.addFunctions file ok with all | ⟨f, hf, name, stopped, repeats⟩
    · exact .inl all
    · exact .inr ⟨_, stopped, f, hf, name, rfl, repeats⟩

variable {files : Files} {s : Survey}

/-- a file that is carried out can be read, and keeps the agreement -/
theorem addFile {path : String} (h : Agree entries s.extraction y) (read : s.unread = none)
    (ok : (y.add files (.file path entries)).failure = none) : (s.addFile files path).unread = none ∧
      ∃ text m, files.readText path = .ok text ∧ Source.Module.read? text = some m ∧
        (Agree entries (s.addFile files path).extraction (y.add files (.file path entries)) ∨
          ∃ e, (s.addFile files path).extraction.error = some e ∧ m.Repeats e) := by
  simp only [Loading.add, Survey.addFile, h.extracted, h.loaded, read, Option.isSome_none, Bool.false_eq_true,
    Bool.or_self, if_false] at ok ⊢
  cases content : files.readText path with
  | error e =>
    rw [content] at ok
    cases ok
  | ok text =>
    rw [content] at ok
    obtain ⟨m, parsed, outcome⟩ := h.addText (some path) ok
    exact ⟨rfl, text, m, rfl, parsed, outcome⟩

/-- and so do many files -/
theorem addFiles {paths : List String} (h : Agree entries s.extraction y) (read : s.unread = none)
    (ok : (paths.foldl (fun y path => y.add files (.file path entries)) y).failure = none) :
    (paths.foldl (Survey.addFile files) s).unread = none ∧
      (Agree entries (paths.foldl (Survey.addFile files) s).extraction
          (paths.foldl (fun y path => y.add files (.file path entries)) y) ∨
        ∃ path ∈ paths, ∃ text m e, files.readText path = .ok text ∧ Source.Module.read? text = some m ∧
          (paths.foldl (Survey.addFile files) s).extraction.error = some e ∧ m.Repeats e) := by
  induction paths generalizing s y with
  | nil => exact ⟨read, .inl h⟩
  | cons path paths ih =>
    rw [List.foldl_cons] at ok ⊢
    rw [List.foldl_cons]
    have here : (y.add files (.file path entries)).failure = none := by
      by_contra failed
      rw [Loading.addFiles_of_failure failed] at ok
      exact failed ok
    obtain ⟨read, text, m, content, parsed, kept | ⟨e, stopped, repeats⟩⟩ := h.addFile read here
    · obtain ⟨read, all | ⟨other, ho, outcome⟩⟩ := ih kept read ok
      · exact ⟨read, .inl all⟩
      · exact ⟨read, .inr ⟨other, List.mem_cons_of_mem path ho, outcome⟩⟩
    · -- what is refused here stops the survey, however the loading goes on
      have fixed : paths.foldl (Survey.addFile files) (s.addFile files path) = s.addFile files path :=
        List.foldl_fixed' (fun other => by rw [Survey.addFile, if_pos (by simp [stopped])]) paths
      rw [fixed]
      exact ⟨read, .inr ⟨path, List.mem_cons_self, text, m, e, content, parsed, stopped, repeats⟩⟩

end Agree

/-! ## Main result -/

/-- **The two paths agree.** Of a text that can be read: if it is carried out without failure, then extraction finds
exactly what is registered, or refuses a parameter that some function repeats with the same settings; and if extraction
succeeds where loading fails, then it fails at some function, and what the functions before it registered is what
is extracted from them. What holds of a text without failure holds of a directory. -/
theorem paths_agree (entries : EntryTable) :
    (∀ origin text m, Source.Module.read? text = some m →
      let loading := (Loading.start .empty).addText entries origin text
      let extraction := Extraction.ofText text
      (loading.result = .ok () →
        (∃ found, extraction.result = .ok found ∧ loading.registry.Matches entries found) ∨
          ∃ e, extraction.result = .error e ∧ m.Repeats e) ∧
      ∀ found failure, extraction.result = .ok found → loading.result = .error failure →
        ∃ before f after earlier, m.functions = before ++ f :: after ∧
          (Extraction.empty.addFunctions none before).result = .ok earlier ∧ earlier <+: found ∧
          let loaded := (Loading.start .empty).addFunctions entries before
          loaded.result = .ok () ∧ loaded.addFunction entries f = loading ∧ loaded.registry.Matches entries earlier) ∧
    ∀ cluster files root extension,
      let launched := (Launcher.start cluster (Declarations.discover files root extension entries)).load files
      let survey := Survey.ofDirectory files root extension
      launched.2 = .ok () →
        (∃ found, survey.result = .ok found ∧ launched.1.registry.Matches entries found) ∨
          ∃ path ∈ files.declarationFiles root extension, ∃ text m e, files.readText path = .ok text ∧
            Source.Module.read? text = some m ∧ survey.result = .error (.extraction e) ∧ m.Repeats e := by
  refine ⟨fun origin text m read => ?_, fun cluster files root extension => ?_⟩
  · intro loading extraction
    have loadingFrom : loading = (Loading.start .empty).addFunctions entries m.functions :=
      Loading.addText_of_read rfl read
    have extractionFrom : extraction = Extraction.empty.addFunctions none m.functions :=
      Extraction.addText_of_read rfl read
    constructor
    · intro success
      rw [loadingFrom, Loading.result_eq_ok_iff] at success
      rw [loadingFrom, extractionFrom]
      rcases (Agree.empty entries).addFunctions none success with all | ⟨f, hf, name, stopped, repeats⟩
      · exact .inl ⟨_, Extraction.result_eq_ok_iff.2 ⟨all.extracted, rfl⟩, all.same⟩
      · exact .inr ⟨_, Extraction.result_eq_error_iff.2 stopped, f, hf, name, rfl, repeats⟩
    · intro found failure extracted failed
      rw [extractionFrom, Extraction.result_eq_ok_iff] at extracted
      obtain ⟨clear, rfl⟩ := extracted
      rw [loadingFrom, Loading.result_eq_error_iff] at failed
      obtain ⟨before, f, after, functions, kept, earlier, last⟩ :=
        (Agree.empty entries).before_failure none clear (failed ▸ Option.some_ne_none failure)
      exact ⟨before, f, after, _, functions, Extraction.result_eq_ok_iff.2 ⟨kept.extracted, rfl⟩, earlier,
        Loading.result_eq_ok_iff.2 kept.loaded, last.trans loadingFrom.symm, kept.same⟩
  · intro launched survey success
    obtain ⟨registry, result⟩ := Launcher.load_discover cluster files root extension entries
    rw [result, Loading.result_eq_ok_iff] at success
    obtain ⟨read, all | ⟨path, hp, text, m, e, content, parsed, stopped, repeats⟩⟩ :=
      Agree.addFiles (s := .empty) (Agree.empty entries) rfl success
    · exact .inl ⟨_, Survey.result_eq_ok_iff.2 ⟨all.extracted, read, rfl⟩, registry ▸ all.same⟩
    · exact .inr ⟨path, hp, text, m, e, content, parsed, Survey.result_eq_extraction_iff.2 stopped, repeats⟩

def noHandlers : EntryTable := ⟨.empty, none⟩

def trainText : String := "@experiment('train')\n@param('size', options=['7b', '13b'])\ndef main(b): pass\n"

def trainFiles : Files := ⟨.directory [("train.py", .file (.text trainText))], "/"⟩

/-- the second function is no declaration, and cannot be carried out -/
def toppedText : String :=
  "@experiment('train')\ndef main(b): pass\n\n@param('size')\n@experiment('test')\ndef late(b): pass\n"

/-- a text and a directory that can be carried out, and a text that cannot -/
theorem paths_agree_train :
    (∃ found, (Extraction.ofText trainText).result = .ok found ∧
      ((Loading.start .empty).addText noHandlers "train.py" trainText).registry.Matches noHandlers found) ∧
    (∃ m before f after earlier, Source.Module.read? toppedText = some m ∧ m.functions = before ++ f :: after ∧
      (Extraction.empty.addFunctions none before).result = .ok earlier ∧
      ((Loading.start .empty).addFunctions noHandlers before).registry.Matches noHandlers earlier) ∧
    ∃ found, (Survey.ofDirectory trainFiles "/" "py").result = .ok found ∧
      ((Launcher.start .single (Declarations.discover trainFiles "/" "py" noHandlers)).load
        trainFiles).1.registry.Matches noHandlers found := by
  obtain ⟨texts, directories⟩ := paths_agree noHandlers
  obtain ⟨readable, loaded, clear, launched, surveyed⟩ : (Source.Module.read? trainText).isSome = true ∧
      ((Loading.start .empty).addText noHandlers "train.py" trainText).result = .ok () ∧
      (Extraction.ofText trainText).error = none ∧
      ((Launcher.start .single (Declarations.discover trainFiles "/" "py" noHandlers)).load trainFiles).2 = .ok () ∧
      (Survey.ofDirectory trainFiles "/" "py").extraction.error = none := by decide +kernel
  obtain ⟨readableTopped, failed, clearTopped⟩ : (Source.Module.read? toppedText).isSome = true ∧
      ((Loading.start .empty).addText noHandlers "train.py" toppedText).failure =
        some (.declaration (.aboveExperiment "late")) ∧
      (Extraction.ofText toppedText).error = none := by decide +kernel
  obtain ⟨m, read⟩ := Option.isSome_iff_exists.1 readable
  obtain ⟨topped, readTopped⟩ := Option.isSome_iff_exists.1 readableTopped
  refine ⟨?_, ?_, ?_⟩
  · rcases (texts "train.py" trainText m read).1 loaded with found | ⟨e, refused, -⟩
    · exact found
    · rw [Extraction.result_eq_error_iff, clear] at refused
      cases refused
  · obtain ⟨before, f, after, earlier, functions, extracted, -, -, -, same⟩ :=
      (texts "train.py" toppedText topped readTopped).2 _ _ (Extraction.result_eq_ok_iff.2 ⟨clearTopped, rfl⟩)
        (Loading.result_eq_error_iff.2 failed)
    exact ⟨topped, before, f, after, earlier, readTopped, functions, extracted, same⟩
  · rcases directories .single trainFiles "/" "py" launched with found | ⟨-, -, -, -, e, -, -, refused, -⟩
    · exact found
    · rw [Survey.result_eq_extraction_iff, surveyed] at refused
      cases refused

end Trialbook
