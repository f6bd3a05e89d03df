/-
ACCOUNTS: an extraction loses no declaration.

A function is sound (`Source.Function.isSound`) when all its decorators are links, and their drafts and names pass their
checks. What an eligible function that is sound declares is `Source.Function.Declares`; for one that is not,
`Source.Function.SkippedFor` gives the reason: the first decorator that is no link, else the first draft that is refused,
else the name.

Invariant (`Accounts`): the functions that an extraction has gone through and that are eligible are found, in order, if
they are sound, and skipped, in order, if they are not; nothing else is found or skipped.

Results:
- `Extractor.extractText_eq`: what a text is extracted to depends on no call before.
- `Source.Function.verdict_of_eligible`: a declaration that does not collide is kept just when it is sound.
- `Accounts.addFunctions`: an extraction that nothing stops keeps the account.
- `declarations_accounted`: the account of an extraction that succeeds, after any calls of the same extractor.
-/
import Trialbook.Declaration.Extractor
import Trialbook.Proofs.Collisions

namespace Trialbook

/-! ## Extractors -/

namespace Extractor

/-- what may be asked of an extractor, with the files at that time -/
inductive Call where
  | text (text : String)
  | file (files : Files) (path : String)
  | directory (files : Files) (root extension : String)

/-- an extractor after a call, whatever came of it -/
def after (x : Extractor) : Call → Extractor
  | .text text => (x.extractText text).1
  | .file files path => (x.extractFile files path).1
  | .directory files root extension => (x.extractDirectory files root extension).1

def run (x : Extractor) (calls : List Call) : Extractor := calls.foldl after x

/-- a call begins with an empty extraction, whatever the extractor remembers -/
theorem extractText_eq (x : Extractor) (text : String) :
    x.extractText text = (⟨(Extraction.ofText text).skipped⟩, (Extraction.ofText text).result) := rfl

end Extractor

/-! ## Sound declarations -/

/-- whether the draft or the name passes its check -/
def Link.isSound : Link → Bool
  | .experiment d => (checkName d.name).isOk
  | .param b => b.spec.isOk

/-- whether a decorator is a link that is sound -/
def Source.Decorator.isSound (d : Decorator) : Bool :=
  match d.link with
  | .ok l => l.isSound
  | .error _ => false

namespace Source.Function

variable {f : Function} {v : Verdict}

/-- whether all decorators are links that are sound -/
def isSound (f : Function) : Bool := f.decorators.all Decorator.isSound

/-- the experiment that the links declare, with the specs of the parameters in the order they are written -/
structure Declares (file : Option String) (f : Function) (x : Declared) : Prop where
  links : ∃ d drafts, f.Links (.experiment d :: drafts.map .param) ∧ x.name = d.name ∧ x.seed = d.seed ∧
    List.Forall₂ (fun b p => b.spec = .ok p) drafts x.params
  function : x.function = f.name
  line : x.line = f.line
  file : x.file = file

/-- why a declaration is skipped: the first decorator that is no link, else the first draft that is refused, else the
name -/
inductive SkippedFor (f : Function) : SkipReason → Prop where
  | link {above : List Decorator} {d : Decorator} {e : LinkError} :
    First (fun _ d => ∃ e, d.link = .error e) f.decorators above d → d.link = .error e → SkippedFor f (.unresolved e)
  | spec {d : ExperimentDraft} {drafts above : List Draft} {b : Draft} {e : SpecError} :
    f.Links (.experiment d :: drafts.map .param) → First (fun _ b => ∃ e, b.spec = .error e) drafts above b →
    b.spec = .error e → SkippedFor f (.invalidSpec e)
  | name {d : ExperimentDraft} {drafts : List Draft} {e : SpecError} : f.Links (.experiment d :: drafts.map .param) →
    (∀ b ∈ drafts, ∃ p, b.spec = .ok p) → checkName d.name = .error e → SkippedFor f (.invalidSpec e)

/-- the record of a declaration that is skipped -/
structure Leaves (file : Option String) (f : Function) (s : Skipped) : Prop where
  reason : f.SkippedFor s.reason
  function : s.function = f.name
  line : s.line = f.line
  file : s.file = file

theorem isSound_of_links {links : List Link} (h : f.Links links) : f.isSound = links.all Link.isSound := by
  unfold isSound
  unfold Links at h
  generalize f.decorators = decorators at h ⊢
  induction h with
  | nil => rfl
  | cons here _ ih => simp [Decorator.isSound, here, ih]

theorem isSound_of_unread {e : LinkError} (h : f.decorators.mapM Decorator.link = .error e) : f.isSound = false := by
  obtain ⟨above, d, ⟨⟨below, split⟩, -, -⟩, failed⟩ := mapM_eq_error_iff.1 h
  simp [isSound, split, Decorator.isSound, failed]

/-- an experiment on top of parameters is sound when its drafts and its name pass their checks -/
theorem isSound_iff_of_links {d : ExperimentDraft} {drafts : List Draft}
    (h : f.Links (.experiment d :: drafts.map .param)) :
    f.isSound = true ↔ (∀ b ∈ drafts, ∃ p, b.spec = .ok p) ∧ checkName d.name = .ok () := by
  rw [isSound_of_links h, List.all_cons, Bool.and_eq_true, and_comm, List.all_map, List.all_eq_true]
  refine and_congr (forall₂_congr fun b _ => ?_) ?_
  · cases spec : b.spec <;> simp [Link.isSound, spec, Except.isOk, Except.toBool]
  · cases name : checkName d.name <;> simp [Link.isSound, name, Except.isOk, Except.toBool]

/-- a declaration that does not collide is kept with what it declares if it is sound, else it is skipped -/
theorem verdict_of_eligible (file : Option String) (eligible : f.Eligible) (h : f.verdict = .ok v) :
    (f.isSound = true ∧ ∃ d params, v = .kept d params ∧
      f.Declares file ⟨d.name, d.seed, f.name, f.line, file, params⟩) ∨
      f.isSound = false ∧ ∃ reason, v = .skipped reason ∧ f.SkippedFor reason := by
  rcases verdict_of_declaration (isDeclaration_iff.2 eligible) h with
    ⟨e, unread, rfl⟩ | ⟨d, drafts, -, linked, -, rfl⟩
  · obtain ⟨above, x, first, failed⟩ := mapM_eq_error_iff.1 unread
    exact .inr ⟨isSound_of_unread unread, _, rfl, .link first failed⟩
  · have links : f.Links (.experiment d :: drafts.map .param) := mapM_eq_ok_iff.1 linked
    have sound := isSound_iff_of_links links
    unfold Gathered.verdict
    cases specs : drafts.mapM Draft.spec with
    | error e =>
      obtain ⟨above, b, first, failed⟩ := mapM_eq_error_iff.1 specs
      refine .inr ⟨?_, _, rfl, .spec links first failed⟩
      rw [← Bool.not_eq_true, sound]
      rintro ⟨valid, -⟩
      obtain ⟨below, rfl⟩ := first.split
      obtain ⟨p, valid⟩ := valid b (by simp)
      rw [failed] at valid
      cases valid
    | ok params =>
      have valid := mapM_eq_ok_iff.1 specs
      have all (b : Draft) (hb : b ∈ drafts) : ∃ p, b.spec = .ok p := by
        obtain ⟨p, -, spec⟩ := exists_mem_of_forall₂ valid.flip hb
        exact ⟨p, spec⟩
      cases name : checkName d.name with
      | error e =>
        refine .inr ⟨?_, _, by simp [name], .name links all name⟩
        rw [← Bool.not_eq_true, sound, name]
        rintro ⟨-, valid⟩
        cases valid
      | ok _ => exact .inl ⟨sound.2 ⟨all, name⟩, d, params, by simp [name], ⟨d, drafts, links, rfl, rfl, valid⟩, rfl, rfl, rfl⟩

end Source.Function

/-! ## Extractions -/

/-- every eligible function is found if it is sound, else skipped, in the order in which they come -/
structure Accounts (file : Option String) (before : List Source.Function) (x : Extraction) : Prop where
  found : List.Forall₂ (Source.Function.Declares file)
    ((before.filter fun f => f.Eligible).filter Source.Function.isSound) x.found
  skipped : List.Forall₂ (Source.Function.Leaves file)
    ((before.filter fun f => f.Eligible).filter fun f => !f.isSound) x.skipped

namespace Accounts

variable {file : Option String} {x : Extraction} {before : List Source.Function} {f : Source.Function}

theorem empty : Accounts file [] .empty := ⟨.nil, .nil⟩

/-- a function that is no declaration has no part in the account -/
theorem pass (h : Accounts file before x) (other : ¬ f.Eligible) : Accounts file (before ++ [f]) x where
  found := by simpa [List.filter_append, other] using h.found
  skipped := by simpa [List.filter_append, other] using h.skipped

theorem find {y : Declared} (h : Accounts file before x) (eligible : f.Eligible) (sound : f.isSound = true)
    (declares : f.Declares file y) : Accounts file (before ++ [f]) { x with found := x.found ++ [y] } where
  found := by simpa [List.filter_append, eligible, sound] using List.rel_append h.found (.cons declares .nil)
  skipped := by simpa [List.filter_append, eligible, sound] using h.skipped

theorem skip {s : Skipped} (h : Accounts file before x) (eligible : f.Eligible) (unsound : f.isSound = false)
    (leaves : f.Leaves file s) : Accounts file (before ++ [f]) { x with skipped := x.skipped ++ [s] } where
  found := by simpa [List.filter_append, eligible, unsound] using h.found
  skipped := by simpa [List.filter_append, eligible, unsound] using List.rel_append h.skipped (.cons leaves .nil)

theorem step (h : Accounts file before x) (clear : x.error = none) (free : (x.step file f).error = none) :
    Accounts file (before ++ [f]) (x.step file f) := by
  cases verdict : f.verdict with
  | error e =>
    rw [Extraction.step_of_error clear verdict] at free
    cases free
  | ok v =>
    by_cases eligible : f.Eligible
    · rcases f.verdict_of_eligible file eligible verdict with
        ⟨sound, d, params, rfl, declares⟩ | ⟨unsound, reason, rfl, why⟩
      · by_cases taken : d.name ∈ x.found.map Declared.name
        · rw [Extraction.step_of_kept_of_mem clear verdict taken] at free
          cases free
        · rw [Extraction.step_of_kept clear verdict taken]
          exact h.find eligible sound declares
      · rw [Extraction.step_of_skipped clear verdict]
        exact h.skip eligible unsound ⟨why, rfl, rfl, rfl⟩
    · have ignored := f.verdict_of_not_isDeclaration (Source.Function.isDeclaration_iff.not.2 eligible)
      rw [Extraction.step_of_ignored clear ignored]
      exact h.pass eligible

/-- an extraction that nothing stops accounts for every function it goes through -/
theorem addFunctions {fs : List Source.Function} (free : (Extraction.empty.addFunctions file fs).error = none) :
    Accounts file fs (Extraction.empty.addFunctions file fs) := by
  induction fs using List.reverseRecOn with
  | nil => exact .empty
  | append_singleton fs f ih =>
    have clear := Extraction.error_of_append fs free
    rw [Extraction.addFunctions_append] at free ⊢
    exact (ih clear).step clear free

end Accounts

/-! ## Main result -/

/-- **No declaration is lost.** Where extraction from a text succeeds, after any calls of the same extractor, the text
can be read, and its eligible functions are, in order, the experiments found, if they are sound, and the declarations
skipped, if they are not. Those found declare what their links say, with the parameters in the order they are written;
those skipped are so for the first decorator that is no link, else the first draft that is refused, else the name. -/
theorem declarations_accounted (calls : List Extractor.Call) (text : String) (found : List Declared)
    (free : ((Extractor.start.run calls).extractText text).2 = .ok found) :
    ∃ m, Source.Module.read? text = some m ∧
      List.Forall₂ (Source.Function.Declares none)
        ((m.functions.filter fun f => f.Eligible).filter Source.Function.isSound) found ∧
      List.Forall₂ (Source.Function.Leaves none) ((m.functions.filter fun f => f.Eligible).filter fun f => !f.isSound)
        ((Extractor.start.run calls).extractText text).1.skipped := by
  rw [Extractor.extractText_eq] at free ⊢
  obtain ⟨clear, rfl⟩ := Extraction.result_eq_ok_iff.1 free
  cases read : Source.Module.read? text with
  | none =>
    rw [Extraction.ofText, Extraction.addText, read] at clear
    cases clear
  | some m =>
    have run : Extraction.ofText text = Extraction.empty.addFunctions none m.functions :=
      Extraction.addText_of_read rfl read
    rw [run] at clear ⊢
    have account := Accounts.addFunctions clear
    exact ⟨m, rfl, account.found, account.skipped⟩

/-- a declaration that is sound, one with a decorator that is no link above an invalid parameter, one with an invalid
parameter under an invalid name, and a function that declares nothing -/
def mixedText : String :=
  "@experiment('train')\n@param('size')\ndef main(b): pass\n" ++
  "@experiment('check')\n@cached\n@param('c d')\ndef check(b): pass\n" ++
  "@experiment('a b')\n@param('c d')\ndef late(b): pass\n@param('size')\ndef part(b): pass\n"

/-- a call that leaves a declaration out and one that fails -/
def earlierCalls : List Extractor.Call := [.text "@experiment('a b')\ndef old(b): pass\n", .text "def ("]

theorem declarations_accounted_mixed : ∃ m found, Source.Module.read? mixedText = some m ∧
    found.map Declared.function = ["main"] ∧
    ((Extractor.start.run earlierCalls).extractText mixedText).1.skipped.map Skipped.function =
      ["check", "late"] ∧
    List.Forall₂ (Source.Function.Declares none)
      ((m.functions.filter fun f => f.Eligible).filter Source.Function.isSound) found ∧
    List.Forall₂ (Source.Function.Leaves none) ((m.functions.filter fun f => f.Eligible).filter fun f => !f.isSound)
      ((Extractor.start.run earlierCalls).extractText mixedText).1.skipped := by
  obtain ⟨kept, left⟩ :
      ((Extractor.start.run earlierCalls).extractText mixedText).2.map (·.map Declared.function) = .ok ["main"] ∧
      ((Extractor.start.run earlierCalls).extractText mixedText).1.skipped.map Skipped.function =
        ["check", "late"] := by decide +kernel
  cases free : ((Extractor.start.run earlierCalls).extractText mixedText).2 with
  | error e =>
    rw [free] at kept
    cases kept
  | ok found =>
    rw [free] at kept
    obtain ⟨m, read, declared, skipped⟩ := declarations_accounted earlierCalls mixedText found free
    exact ⟨m, found, read, Except.ok.inj kept, left, declared, skipped⟩

end Trialbook
