/-
SOUND EXTRACTIONS: what an extraction finds can be registered.

A declared experiment is sound (`Declared.Sound`) when its name is valid and its parameters are sound and stand under
names that differ. It is extracted (`Declared.Extracted`) when some call of some extractor succeeds and finds it.

Results:
- `Extraction.step_sound`: one function leaves an extraction sound, since it is kept only when all its checks pass.
- `Declared.Extracted.sound`: so whatever is extracted, from texts, files or directories, is sound.
-/
import Trialbook.Declaration.Extractor
import Trialbook.Proofs.Extractions
import Trialbook.Proofs.Stacks

namespace Trialbook

/-- the name is valid, and the parameters are sound, under names that differ -/
structure Declared.Sound (d : Declared) : Prop where
  name : checkName d.name = .ok ()
  params : SoundParams d.params

/-- drafts under names that differ have sound specs -/
theorem SoundParams.of_specs {ds : List Draft} {ps : List Spec} (distinct : (ds.map Draft.name).Nodup)
    (specs : ds.mapM Draft.spec = .ok ps) : SoundParams ps where
  sound p hp := by
    obtain ⟨d, -, checked⟩ := exists_mem_of_forall₂ (mapM_eq_ok_iff.1 specs) hp
    exact Draft.sound_of_spec checked
  distinct := Draft.names_of_specs specs ▸ distinct

/-! ## Extractions -/

namespace Extraction

variable {file : Option String} {x : Extraction}

/-- everything found is sound -/
def Sound (x : Extraction) : Prop := ∀ d ∈ x.found, d.Sound

theorem step_sound (h : x.Sound) (f : Source.Function) : (x.step file f).Sound := by
  unfold step
  split_ifs
  · exact h
  · split
    · exact h
    · exact h
    · exact h
    · rename_i d params kept
      split_ifs
      · exact h
      · obtain ⟨-, ds, -, distinct, specs, name⟩ := Source.Function.verdict_eq_kept_iff.1 kept
        intro y hy
        rcases List.mem_append.1 hy with hy | hy
        · exact h y hy
        · rw [List.mem_singleton.1 hy]
          exact ⟨name, .of_specs distinct specs⟩

theorem addFunctions_sound (h : x.Sound) (fs : List Source.Function) : (x.addFunctions file fs).Sound := by
  induction fs generalizing x with
  | nil => exact h
  | cons f fs ih => exact ih (step_sound h f)

theorem addText_sound (h : x.Sound) (text : String) : (x.addText file text).Sound := by
  unfold addText
  split_ifs
  · exact h
  · split
    · exact h
    · exact addFunctions_sound h _

end Extraction

theorem Survey.addFiles_sound {files : Files} {s : Survey} (h : s.extraction.Sound) (paths : List String) :
    (paths.foldl (Survey.addFile files) s).extraction.Sound := by
  induction paths generalizing s with
  | nil => exact h
  | cons path paths ih =>
    refine ih ?_
    unfold Survey.addFile
    split_ifs
    · exact h
    · split
      · exact h
      · exact Extraction.addText_sound h _

/-! ## Extractors -/

/-- found by a call of an extractor that succeeds -/
inductive Declared.Extracted (d : Declared) : Prop where
  | text {x : Extractor} {text : String} {found : List Declared} : (x.extractText text).2 = .ok found → d ∈ found →
    Extracted d
  | file {x : Extractor} {files : Files} {path : String} {found : List Declared} :
    (x.extractFile files path).2 = .ok found → d ∈ found → Extracted d
  | directory {x : Extractor} {files : Files} {root extension : String} {found : List Declared} :
    (x.extractDirectory files root extension).2 = .ok found → d ∈ found → Extracted d

theorem Declared.Extracted.sound {d : Declared} (h : d.Extracted) : d.Sound := by
  have empty (x : Extractor) : x.clear.begin.Sound := fun _ none => (nomatch none)
  cases h with
  | @text x text found success member =>
    obtain ⟨-, rfl⟩ := Extraction.result_eq_ok_iff.1 success
    exact Extraction.addText_sound (empty x) text d member
  | @file x files path found success member =>
    obtain ⟨-, -, rfl⟩ := Survey.result_eq_ok_iff.1 success
    exact Survey.addFiles_sound (s := ⟨x.clear.begin, none⟩) (empty x) [path] d member
  | @directory x files root extension found success member =>
    obtain ⟨-, -, rfl⟩ := Survey.result_eq_ok_iff.1 success
    exact Survey.addFiles_sound (s := ⟨x.clear.begin, none⟩) (empty x) _ d member

end Trialbook
