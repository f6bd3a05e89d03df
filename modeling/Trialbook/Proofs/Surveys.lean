/-
SURVEYS: extraction from a directory is extraction from its files, one after the other.

What an extraction makes of functions after a `base` is compared with what it makes of them alone (`Continues`): either
no name found alone was found before, and then the whole is the base followed by what is made alone; or the first
experiment whose name was found before stops the whole (`Clashes`). Names of experiments are all that goes from one file
to the next.

Results:
- `Continues.step`, `Continues.addText`: each function, and so each text, keeps the comparison.
- `Extraction.Own.addText`: what is found in a file has names that differ, and belongs to the file.
- `Survey.addFiles_of_alone`: files that can be surveyed alone are surveyed together, up to the first repeated name.
- `Survey.alone_of_addFiles`: files that can be surveyed together can be surveyed alone.
- `Extractor.directory_of_alone`, `Extractor.alone_of_directory`: the same for the declaration files of a directory.
- `directory_concatenates`: the two together.
-/
import Trialbook.Declaration.Extractor
import Trialbook.Proofs.Extractions
import Trialbook.Proofs.Walks

namespace Trialbook

/-- names that differ, after others that differ from them and from each other -/
theorem nodup_names_append {ds es : List Declared} (hd : (ds.map Declared.name).Nodup)
    (he : (es.map Declared.name).Nodup) (apart : ∀ e ∈ es, e.name ∉ ds.map Declared.name) : ((ds ++ es).map Declared.name).Nodup := by
  rw [List.map_append]
  refine List.nodup_append.2 ⟨hd, he, fun a ha b hb same => ?_⟩
  obtain ⟨e, member, rfl⟩ := List.mem_map.1 hb
  exact apart e member (same ▸ ha)

namespace Extraction

variable {base one whole x : Extraction} {file : Option String}

/-- names found so far -/
def names (x : Extraction) : List String := x.found.map Declared.name

/-- what was found and left out before, and what came then -/
def followedBy (base x : Extraction) : Extraction := ⟨base.found ++ x.found, base.skipped ++ x.skipped, x.error⟩

/-! ## Going on after a base -/

/-- the first of the experiments whose name was found before -/
structure Clashes (base : Extraction) (found above : List Declared) (d : Declared) : Prop where
  split : ∃ below, found = above ++ d :: below
  apart : ∀ y ∈ above, y.name ∉ base.names
  taken : d.name ∈ base.names

/-- how the whole of an extraction goes on after a base, given what comes of it alone -/
inductive Continues (base one whole : Extraction) : Prop where
  | follows : (∀ d ∈ one.found, d.name ∉ base.names) → whole = base.followedBy one → Continues base one whole
  | stopped {above : List Declared} {d : Declared} : base.Clashes one.found above d →
    whole.error = some (.duplicateExperiment d.name) → Continues base one whole

theorem Clashes.mono {found more above : List Declared} {d : Declared} (h : base.Clashes found above d)
    (longer : found <+: more) : base.Clashes more above d := by
  obtain ⟨below, rfl⟩ := h.split
  obtain ⟨later, rfl⟩ := longer
  exact ⟨⟨below ++ later, by simp⟩, h.apart, h.taken⟩

theorem step_of_stopped (stopped : x.error ≠ none) (f : Source.Function) : x.step file f = x := by
  rw [Extraction.step, if_pos (Option.isSome_iff_ne_none.2 stopped)]

namespace Continues

/-- nothing alone leaves the base as it is -/
theorem start (clear : base.error = none) : Continues base .empty base := by
  refine .follows (fun _ member => absurd member List.not_mem_nil) ?_
  rw [followedBy, empty, List.append_nil, List.append_nil, ← clear]

theorem step (h : Continues base one whole) (f : Source.Function) :
    Continues base (one.step file f) (whole.step file f) := by
  cases h with
  | stopped clash error =>
    have longer : one.found <+: (one.step file f).found := found_prefix [f]
    rw [step_of_stopped (x := whole) (by simp [error])]
    exact .stopped (clash.mono longer) error
  | follows apart same =>
    subst same
    by_cases clear : one.error = none
    · have clear' : (base.followedBy one).error = none := clear
      cases verdict : f.verdict with
      | error e =>
        refine .follows ?_ ?_
        · simpa [Extraction.step, clear, verdict] using apart
        · simp [Extraction.step, followedBy, clear, verdict]
      | ok v =>
        cases v with
        | ignored =>
          rw [step_of_ignored clear verdict, step_of_ignored clear' verdict]
          exact .follows apart rfl
        | skipped reason =>
          rw [step_of_skipped clear verdict, step_of_skipped clear' verdict]
          exact .follows apart (by simp [followedBy])
        | kept d params =>
          have names : (base.followedBy one).found.map Declared.name = base.names ++ one.names :=
            List.map_append
          by_cases again : d.name ∈ one.names
          · -- the name is repeated within what comes alone, so both stop
            have same : (one.step file f).found = one.found ∧
                (base.followedBy one).step file f = base.followedBy (one.step file f) := by
              obtain ⟨e, he, same⟩ := List.mem_map.1 again
              have any : (one.found.any fun e => e.name == d.name) = true :=
                List.any_eq_true.2 ⟨e, he, beq_iff_eq.2 same⟩
              simp [Extraction.step, followedBy, clear, verdict, any]
            rw [same.2]
            exact .follows (by rwa [same.1]) rfl
          · rw [step_of_kept clear verdict again]
            by_cases taken : d.name ∈ base.names
            · have stops : ((base.followedBy one).step file f).error = some (.duplicateExperiment d.name) :=
                step_of_kept_of_mem clear' verdict (names ▸ List.mem_append_left _ taken)
              exact .stopped (d := ⟨d.name, d.seed, f.name, f.line, file, params⟩) ⟨⟨[], rfl⟩, apart, taken⟩ stops
            · have fresh : d.name ∉ (base.followedBy one).found.map Declared.name := by
                rw [names, List.mem_append]
                exact not_or.2 ⟨taken, again⟩
              rw [step_of_kept clear' verdict fresh]
              refine .follows (fun y hy => ?_) (by simp [followedBy])
              rcases List.mem_append.1 hy with hy | hy
              · exact apart y hy
              · rw [List.mem_singleton.1 hy]
                exact taken
    · rw [step_of_stopped clear, step_of_stopped (x := base.followedBy one) clear]
      exact .follows apart rfl

theorem addFunctions (h : Continues base one whole) (fs : List Source.Function) :
    Continues base (one.addFunctions file fs) (whole.addFunctions file fs) := by
  induction fs generalizing one whole with
  | nil => exact h
  | cons f fs ih => exact ih (h.step f)

/-- a text after a base, and alone -/
theorem addText (clear : base.error = none) (file : Option String) (text : String) :
    Continues base (Extraction.empty.addText file text) (base.addText file text) := by
  cases read : Source.Module.read? text with
  | none =>
    have unreadable (x : Extraction) (clear : x.error = none) :
        x.addText file text = { x with error := some (.unreadable (file.getD "<source>")) } := by
      rw [Extraction.addText, if_neg (by simp [clear]), read]
    rw [unreadable base clear, unreadable .empty rfl]
    refine .follows (fun _ member => absurd member List.not_mem_nil) ?_
    simp [followedBy, empty]
  | some m =>
    rw [addText_of_read clear read, addText_of_read (x := .empty) rfl read]
    exact (start clear).addFunctions m.functions

/-- the whole goes on only if the extraction alone does -/
theorem of_clear (h : Continues base one whole) (clear : whole.error = none) : one.error = none := by
  cases h with
  | follows _ same =>
    subst same
    exact clear
  | stopped _ error =>
    rw [error] at clear
    cases clear

end Continues

/-! ## What belongs to a file -/

/-- what is found has names that differ, and everything belongs to the file -/
structure Own (file : Option String) (x : Extraction) : Prop where
  distinct : x.names.Nodup
  found : ∀ d ∈ x.found, d.file = file
  skipped : ∀ s ∈ x.skipped, s.file = file

namespace Own

theorem empty : Own file .empty :=
  ⟨List.nodup_nil, fun _ member => absurd member List.not_mem_nil, fun _ member => absurd member List.not_mem_nil⟩

theorem stop (h : Own file x) (e : ExtractError) : Own file { x with error := some e } :=
  ⟨h.distinct, h.found, h.skipped⟩

theorem step (h : Own file x) (f : Source.Function) : Own file (x.step file f) := by
  unfold Extraction.step
  split_ifs
  · exact h
  · split
    · exact h.stop _
    · exact h
    · refine ⟨h.distinct, h.found, fun s hs => ?_⟩
      rcases List.mem_append.1 hs with hs | hs
      · exact h.skipped s hs
      · rw [List.mem_singleton.1 hs]
    · rename_i d params kept
      split_ifs with taken
      · exact h.stop _
      · refine ⟨?_, fun y hy => ?_, h.skipped⟩
        · have fresh : d.name ∉ x.names := by
            intro member
            obtain ⟨e, he, same⟩ := List.mem_map.1 member
            exact taken (List.any_eq_true.2 ⟨e, he, beq_iff_eq.2 same⟩)
          refine nodup_names_append h.distinct (List.nodup_singleton _) fun y hy => ?_
          rw [List.mem_singleton.1 hy]
          exact fresh
        · rcases List.mem_append.1 hy with hy | hy
          · exact h.found y hy
          · rw [List.mem_singleton.1 hy]

theorem addFunctions (h : Own file x) (fs : List Source.Function) : Own file (x.addFunctions file fs) := by
  induction fs generalizing x with
  | nil => exact h
  | cons f fs ih => exact ih (h.step f)

theorem addText (h : Own file x) (text : String) : Own file (x.addText file text) := by
  unfold Extraction.addText
  split_ifs
  · exact h
  · split
    · exact h.stop _
    · exact h.addFunctions _

end Own

end Extraction

/-! ## Repeated names -/

/-- the first experiment whose name stands before it -/
structure FirstRepeat (ds above : List Declared) (d : Declared) : Prop where
  split : ∃ below, ds = above ++ d :: below
  distinct : (above.map Declared.name).Nodup
  repeated : d.name ∈ above.map Declared.name

theorem FirstRepeat.not_distinct {ds above : List Declared} {d : Declared} (h : FirstRepeat ds above d) :
    ¬ (ds.map Declared.name).Nodup := by
  obtain ⟨below, rfl⟩ := h.split
  rw [List.map_append, List.map_cons]
  intro distinct
  exact (List.disjoint_of_nodup_append distinct) h.repeated List.mem_cons_self

theorem Extraction.Clashes.firstRepeat {base : Extraction} {found above : List Declared} {d : Declared}
    (h : base.Clashes found above d) (distinct : base.names.Nodup) (own : (found.map Declared.name).Nodup)
    (rest : List Declared) : FirstRepeat (base.found ++ (found ++ rest)) (base.found ++ above) d := by
  obtain ⟨below, rfl⟩ := h.split
  refine ⟨⟨below ++ rest, by simp⟩, ?_, ?_⟩
  · rw [List.map_append] at own
    exact nodup_names_append distinct (List.nodup_append.1 own).1 h.apart
  · rw [List.map_append]
    exact List.mem_append_left _ h.taken

/-! ## Files -/

namespace Survey

variable {files : Files} {s : Survey} {path : String} {paths : List String} {found : List Declared}
  {parts : List (List Declared)}

theorem addFiles_of_stopped (stopped : s.extraction.error ≠ none ∨ s.unread ≠ none) :
    paths.foldl (addFile files) s = s := by
  refine List.foldl_fixed' (fun path => ?_) paths
  rw [addFile, if_pos]
  rw [Bool.or_eq_true, Option.isSome_iff_ne_none, Option.isSome_iff_ne_none]
  exact stopped.symm

theorem addFile_of_unreadable (clear : s.extraction.error = none) (read : s.unread = none) {e : FileError}
    (content : files.readText path = .error e) : s.addFile files path = { s with unread := some e } := by
  rw [addFile, if_neg (by simp [clear, read]), content]

theorem addFile_of_readable (clear : s.extraction.error = none) (read : s.unread = none) {text : String}
    (content : files.readText path = .ok text) :
    s.addFile files path = { s with extraction := s.extraction.addText (some path) text } := by
  rw [addFile, if_neg (by simp [clear, read]), content]

/-- a file after others, and alone -/
theorem addFile_continues (files : Files) (clear : s.extraction.error = none) (read : s.unread = none) (path : String) :
    s.extraction.Continues (ofFile files path).extraction (s.addFile files path).extraction ∧
      (s.addFile files path).unread = (ofFile files path).unread := by
  rw [ofFile]
  cases content : files.readText path with
  | error e =>
    rw [addFile_of_unreadable clear read content, addFile_of_unreadable rfl rfl content]
    exact ⟨.start clear, rfl⟩
  | ok text =>
    rw [addFile_of_readable clear read content, addFile_of_readable rfl rfl content]
    exact ⟨.addText clear (some path) text, read⟩

theorem own_ofFile (files : Files) (path : String) : (ofFile files path).extraction.Own (some path) := by
  unfold ofFile addFile
  split_ifs
  · exact .empty
  · split
    · exact .empty
    · exact .addText .empty _

theorem readable_of_ofFile (alone : (ofFile files path).result = .ok found) :
    ∃ text, files.readText path = .ok text := by
  obtain ⟨-, read, -⟩ := result_eq_ok_iff.1 alone
  cases content : files.readText path with
  | ok text => exact ⟨text, rfl⟩
  | error e =>
    rw [ofFile, addFile_of_unreadable rfl rfl content] at read
    cases read

/-- files that can be surveyed alone, after others: everything is found in turn, or a repeated name stops the survey -/
theorem addFiles_of_alone (alone : List.Forall₂ (fun path part => (ofFile files path).result = .ok part) paths parts)
    (clear : s.extraction.error = none) (read : s.unread = none) (distinct : s.extraction.names.Nodup) :
    (((s.extraction.found ++ parts.flatten).map Declared.name).Nodup ∧
      (paths.foldl (addFile files) s).result = .ok (s.extraction.found ++ parts.flatten) ∧
      (paths.foldl (addFile files) s).skipped = s.skipped ++ paths.flatMap fun path => (ofFile files path).skipped) ∨
    ∃ above d, FirstRepeat (s.extraction.found ++ parts.flatten) above d ∧
      (paths.foldl (addFile files) s).extraction.error = some (.duplicateExperiment d.name) := by
  induction alone generalizing s with
  | nil =>
    refine .inl ⟨?_, ?_, ?_⟩
    · rw [List.flatten_nil, List.append_nil]
      exact distinct
    · exact result_eq_ok_iff.2 ⟨clear, read, by simp⟩
    · simp
  | @cons path part paths parts here _ ih =>
    obtain ⟨clearOne, readOne, rfl⟩ := result_eq_ok_iff.1 here
    obtain ⟨goesOn, unread⟩ := addFile_continues files clear read path
    have own := (own_ofFile files path).distinct
    rw [List.foldl_cons, List.flatten_cons]
    cases goesOn with
    | follows apart same =>
      have foundNext : (s.addFile files path).extraction.found =
          s.extraction.found ++ (ofFile files path).extraction.found := by rw [same]; rfl
      have skippedNext : (s.addFile files path).skipped = s.skipped ++ (ofFile files path).skipped := by
        rw [skipped, same]; rfl
      have distinctNext : (s.addFile files path).extraction.names.Nodup := by
        rw [Extraction.names, foundNext]
        exact nodup_names_append distinct own apart
      have next := ih (s := s.addFile files path) (by rw [same]; exact clearOne) (unread.trans readOne) distinctNext
      simpa only [foundNext, skippedNext, List.append_assoc, List.flatMap_cons] using next
    | @stopped above d clash error =>
      refine .inr ⟨_, d, clash.firstRepeat distinct own parts.flatten, ?_⟩
      rw [addFiles_of_stopped (.inl (by simp [error])), error]

/-- files that are surveyed together without being stopped can be surveyed alone -/
theorem alone_of_addFiles (ok : (paths.foldl (addFile files) s).result = .ok found) :
    ∃ parts, List.Forall₂ (fun path part => (ofFile files path).result = .ok part) paths parts := by
  induction paths generalizing s with
  | nil => exact ⟨[], .nil⟩
  | cons path paths ih =>
    have notStopped {paths : List String} {t : Survey} (ok : (paths.foldl (addFile files) t).result = .ok found) :
        t.extraction.error = none ∧ t.unread = none := by
      by_contra stopped
      rw [addFiles_of_stopped (not_and_or.1 stopped)] at ok
      obtain ⟨clear, read, -⟩ := result_eq_ok_iff.1 ok
      exact stopped ⟨clear, read⟩
    obtain ⟨clear, read⟩ := notStopped ok
    rw [List.foldl_cons] at ok
    obtain ⟨clearNext, readNext⟩ := notStopped ok
    obtain ⟨goesOn, unread⟩ := addFile_continues files clear read path
    have alone := result_eq_ok_iff.2 ⟨goesOn.of_clear clearNext, unread.symm.trans readNext, rfl⟩
    obtain ⟨parts, others⟩ := ih ok
    exact ⟨_, .cons alone others⟩

/-- what is found is found in one of the files -/
theorem exists_file_of_alone (alone : List.Forall₂ (fun path part => (ofFile files path).result = .ok part) paths parts)
    {d : Declared} (member : d ∈ parts.flatten) :
    ∃ path ∈ paths, d ∈ (ofFile files path).extraction.found ∧ d.file = some path := by
  obtain ⟨part, hp, hd⟩ := List.mem_flatten.1 member
  obtain ⟨path, hpath, here⟩ := exists_mem_of_forall₂ alone hp
  obtain ⟨-, -, rfl⟩ := result_eq_ok_iff.1 here
  exact ⟨path, hpath, hd, (own_ofFile files path).found d hd⟩

theorem nodup_flatten_of_alone
    (alone : List.Forall₂ (fun path part => (ofFile files path).result = .ok part) paths parts)
    (distinct : paths.Nodup) : parts.flatten.Nodup := by
  induction alone with
  | nil => exact List.nodup_nil
  | @cons path part paths parts here others ih =>
    obtain ⟨fresh, distinct⟩ := List.nodup_cons.1 distinct
    obtain ⟨-, -, rfl⟩ := result_eq_ok_iff.1 here
    have own := own_ofFile files path
    rw [List.flatten_cons]
    refine List.nodup_append.2 ⟨own.distinct.of_map _, ih distinct, ?_⟩
    rintro d hd e he rfl
    obtain ⟨other, member, -, file⟩ := exists_file_of_alone others he
    rw [own.found d hd] at file
    exact fresh (Option.some.inj file ▸ member)

/-- a name that is repeated first is declared in two files, since no file repeats one -/
theorem files_of_firstRepeat
    (alone : List.Forall₂ (fun path part => (ofFile files path).result = .ok part) paths parts)
    (distinct : paths.Nodup) {above : List Declared} {d : Declared} (h : FirstRepeat parts.flatten above d) :
    ∃ earlier ∈ above, earlier.name = d.name ∧ ∃ path ∈ paths, ∃ path' ∈ paths, path ≠ path' ∧
      earlier.file = some path ∧ d.file = some path' := by
  have once := nodup_flatten_of_alone alone distinct
  obtain ⟨below, split⟩ := h.split
  obtain ⟨earlier, member, same⟩ := List.mem_map.1 h.repeated
  have memberFirst : earlier ∈ parts.flatten := split ▸ List.mem_append_left _ member
  have memberLast : d ∈ parts.flatten := split ▸ List.mem_append_right _ List.mem_cons_self
  obtain ⟨path, hp, found, file⟩ := exists_file_of_alone alone memberFirst
  obtain ⟨path', hp', found', file'⟩ := exists_file_of_alone alone memberLast
  refine ⟨earlier, member, same, path, hp, path', hp', ?_, file, file'⟩
  rintro rfl
  obtain rfl : earlier = d := List.inj_on_of_nodup_map (own_ofFile files path).distinct found found' same
  rw [split] at once
  exact (List.disjoint_of_nodup_append once) member List.mem_cons_self

end Survey

/-! ## Main result -/

namespace Extractor

variable {files : Files} {root extension : String} {x y : Extractor} {found : List Declared} {parts : List (List Declared)}

/-- if the files can be extracted from alone, only a repeated name stops the directory -/
theorem directory_of_alone (each : List.Forall₂ (fun path part => (y.extractFile files path).2 = .ok part)
    (files.declarationFiles root extension) parts) (x : Extractor) :
    ((parts.flatten.map Declared.name).Nodup ∧
      (x.extractDirectory files root extension).2 = .ok parts.flatten ∧
      (x.extractDirectory files root extension).1.skipped =
        (files.declarationFiles root extension).flatMap fun path => (y.extractFile files path).1.skipped) ∨
    ∃ above d, FirstRepeat parts.flatten above d ∧
      (x.extractDirectory files root extension).2 = .error (.extraction (.duplicateExperiment d.name)) := by
  rcases Survey.addFiles_of_alone (s := .empty) each rfl rfl List.nodup_nil with found | ⟨above, d, first, error⟩
  · exact .inl found
  · exact .inr ⟨above, d, first, Survey.result_eq_extraction_iff.2 error⟩

/-- if a directory can be extracted from, so can its files alone, and this is what comes of them -/
theorem alone_of_directory (ok : (x.extractDirectory files root extension).2 = .ok found) (y : Extractor) :
    ∃ parts, List.Forall₂ (fun path part => (y.extractFile files path).2 = .ok part)
        (files.declarationFiles root extension) parts ∧
      (parts.flatten.map Declared.name).Nodup ∧ found = parts.flatten ∧
      (x.extractDirectory files root extension).1.skipped =
        (files.declarationFiles root extension).flatMap fun path => (y.extractFile files path).1.skipped := by
  obtain ⟨parts, each⟩ := Survey.alone_of_addFiles (s := .empty) ok
  rcases directory_of_alone (y := y) each x with ⟨distinct, whole, skipped⟩ | ⟨above, d, -, error⟩
  · exact ⟨parts, each, distinct, Except.ok.inj (ok.symm.trans whole), skipped⟩
  · rw [ok] at error
    cases error

end Extractor

/-- **A directory is its files.** Extraction from a directory succeeds just when all its declaration files can be read,
each can be extracted from alone, and no name is declared twice in them. Then what is found is what is found in each
file, in their order, and so is what is left out; both carry their file. If each file can be extracted from alone and
the directory cannot, then the reason is the first name that is repeated, which two files declare. Calls of extractors
before do not matter. -/
theorem directory_concatenates (files : Files) (proper : files.top.Proper) (root extension : String) (x y : Extractor) :
    let paths := files.declarationFiles root extension
    let whole := x.extractDirectory files root extension
    let alone := fun path => y.extractFile files path
    ((∃ found, whole.2 = .ok found) ↔ (∀ path ∈ paths, ∃ text, files.readText path = .ok text) ∧
      ∃ parts, List.Forall₂ (fun path part => (alone path).2 = .ok part) paths parts ∧
        (parts.flatten.map Declared.name).Nodup) ∧
    (∀ found, whole.2 = .ok found →
      ∃ parts, List.Forall₂ (fun path part => (alone path).2 = .ok part ∧ ∀ d ∈ part, d.file = some path) paths parts ∧
        found = parts.flatten ∧ whole.1.skipped = (paths.flatMap fun path => (alone path).1.skipped) ∧
        ∀ path ∈ paths, ∀ s ∈ (alone path).1.skipped, s.file = some path) ∧
    ∀ parts e, List.Forall₂ (fun path part => (alone path).2 = .ok part) paths parts → whole.2 = .error e →
      ∃ above d, FirstRepeat parts.flatten above d ∧ e = .extraction (.duplicateExperiment d.name) ∧
        ∃ earlier ∈ above, earlier.name = d.name ∧ ∃ path ∈ paths, ∃ path' ∈ paths, path ≠ path' ∧
          earlier.file = some path ∧ d.file = some path' := by
  intro paths whole alone
  have distinct : paths.Nodup := files.nodup_declarationFiles proper root extension
  refine ⟨⟨?_, ?_⟩, ?_, ?_⟩
  · rintro ⟨found, ok⟩
    obtain ⟨parts, each, different, -, -⟩ := Extractor.alone_of_directory ok y
    refine ⟨fun path hp => ?_, parts, each, different⟩
    obtain ⟨part, -, here⟩ := exists_mem_of_forall₂ each.flip hp
    exact Survey.readable_of_ofFile here
  · rintro ⟨-, parts, each, different⟩
    rcases Extractor.directory_of_alone each x with ⟨-, ok, -⟩ | ⟨above, d, first, -⟩
    · exact ⟨_, ok⟩
    · exact absurd different first.not_distinct
  · intro found ok
    obtain ⟨parts, each, -, concatenated, skipped⟩ := Extractor.alone_of_directory ok y
    refine ⟨parts, ?_, concatenated, skipped, fun path _ => (Survey.own_ofFile files path).skipped⟩
    refine each.imp fun path part here => ⟨here, ?_⟩
    obtain ⟨-, -, rfl⟩ := Survey.result_eq_ok_iff.1 here
    exact (Survey.own_ofFile files path).found
  · intro parts e each failed
    rcases Extractor.directory_of_alone each x with ⟨-, ok, -⟩ | ⟨above, d, first, error⟩
    · rw [ok] at failed
      cases failed
    · refine ⟨above, d, first, ?_, Survey.files_of_firstRepeat each distinct first⟩
      exact Except.error.inj (failed.symm.trans error)

/-- files that go together, each with a declaration that is left out, and files that declare the same name -/
def pairsTree : List (String × Node) :=
  [("clash", .directory [("b.py", .file (.text "@experiment('fit')\ndef late(b): pass\n")),
      ("a.py", .file (.text "@experiment('tune')\ndef f(b): pass\n@experiment('fit')\ndef early(b): pass\n"))]),
    ("good", .directory [
      ("b.py", .file (.text "@experiment('test')\ndef g(b): pass\n@experiment('c d')\ndef h(b): pass\n")),
      ("a.py", .file (.text "@experiment('fit')\ndef f(b): pass\n@experiment('fit')\n@cached\ndef again(b): pass\n"))])]

def pairsFiles : Files := ⟨.directory pairsTree, "/"⟩

theorem pairsFiles_proper : pairsFiles.top.Proper := by
  refine .directory (by decide) (by decide) (List.forall_mem_cons.2 ⟨?_, List.forall_mem_singleton.2 ?_⟩)
  · exact .directory (by decide) (by decide) (List.forall_mem_cons.2 ⟨.file _, List.forall_mem_singleton.2 (.file _)⟩)
  · exact .directory (by decide) (by decide) (List.forall_mem_cons.2 ⟨.file _, List.forall_mem_singleton.2 (.file _)⟩)

theorem pairsWays_sorted : [["b.py"], ["a.py"]].mergeSort (fun a b => !decide (b < a)) = [["a.py"], ["b.py"]] := by
  have before : ["a.py"] < ["b.py"] := by decide
  simp [List.mergeSort, before]

theorem pairsFiles_good : pairsFiles.declarationFiles "good" "py" = ["good/a.py", "good/b.py"] :=
  congrArg (List.map (List.foldl Path.join "good")) pairsWays_sorted

theorem pairsFiles_clash : pairsFiles.declarationFiles "clash" "py" = ["clash/a.py", "clash/b.py"] :=
  congrArg (List.map (List.foldl Path.join "clash")) pairsWays_sorted

theorem directory_concatenates_pairs :
    pairsFiles.top.Proper ∧
    (∃ found parts, (Extractor.start.extractDirectory pairsFiles "good" "py").2 = .ok found ∧
      found.map Declared.function = ["f", "g"] ∧
      (Extractor.start.extractDirectory pairsFiles "good" "py").1.skipped.map Skipped.function = ["again", "h"] ∧
      List.Forall₂ (fun path part => (Extractor.start.extractFile pairsFiles path).2 = .ok part ∧
        ∀ d ∈ part, d.file = some path) ["good/a.py", "good/b.py"] parts ∧ found = parts.flatten) ∧
    ∃ (above : List Declared) (d : Declared), d.name = "fit" ∧
      (Extractor.start.extractDirectory pairsFiles "clash" "py").2 = .error (.extraction (.duplicateExperiment d.name)) ∧
      ∃ earlier ∈ above, earlier.name = d.name ∧ ∃ path ∈ pairsFiles.declarationFiles "clash" "py",
        ∃ path' ∈ pairsFiles.declarationFiles "clash" "py", path ≠ path' ∧ earlier.file = some path ∧
          d.file = some path' := by
  refine ⟨pairsFiles_proper, ?_, ?_⟩
  · obtain ⟨functions, left⟩ :
        (Extractor.start.extractDirectory pairsFiles "good" "py").2.map (·.map Declared.function) = .ok ["f", "g"] ∧
        (Extractor.start.extractDirectory pairsFiles "good" "py").1.skipped.map Skipped.function = ["again", "h"] := by
      rw [Extractor.extractDirectory, pairsFiles_good]
      decide +kernel
    cases ok : (Extractor.start.extractDirectory pairsFiles "good" "py").2 with
    | error e =>
      rw [ok] at functions
      cases functions
    | ok found =>
      rw [ok] at functions
      obtain ⟨parts, each, flatten, -⟩ :=
        (directory_concatenates pairsFiles pairsFiles_proper "good" "py" .start .start).2.1 found ok
      rw [pairsFiles_good] at each
      exact ⟨found, parts, rfl, Except.ok.inj functions, left, each, flatten⟩
  · have failed : (Extractor.start.extractDirectory pairsFiles "clash" "py").2 =
        .error (.extraction (.duplicateExperiment "fit")) := by
      rw [Extractor.extractDirectory, pairsFiles_clash]
      decide +kernel
    let a : List Declared :=
      [⟨"tune", none, "f", 2, some "clash/a.py", []⟩, ⟨"fit", none, "early", 4, some "clash/a.py", []⟩]
    let b : List Declared := [⟨"fit", none, "late", 2, some "clash/b.py", []⟩]
    have alone : (Extractor.start.extractFile pairsFiles "clash/a.py").2 = .ok a ∧
        (Extractor.start.extractFile pairsFiles "clash/b.py").2 = .ok b := by decide +kernel
    obtain ⟨above, d, first, same, files⟩ :=
      (directory_concatenates pairsFiles pairsFiles_proper "clash" "py" .start .start).2.2 [a, b] _
        (by rw [pairsFiles_clash]; exact .cons alone.1 (.cons alone.2 .nil)) failed
    have named : "fit" = d.name := by
      simpa only [Failure.extraction.injEq, ExtractError.duplicateExperiment.injEq] using same
    exact ⟨above, d, named.symm, by rw [failed, named], files⟩

end Trialbook
