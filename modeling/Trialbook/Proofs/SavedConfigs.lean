/-
SAVED CONFIGURATIONS: a configuration that is saved is loaded again as it was.

The project's file has a line for each setting that is given (`Config.settings`), and is read as those settings, whatever
the texts are. It can be put where nothing stands in the way of its directory (`Config.Writable`), and is then what its
path leads to. So a configuration that needs no normalising comes back from it, if nothing but the project's file gives
any setting.

Results:
- `Toml.Document.read?_settings`: a document of lines with different keys is read as the texts under them.
- `Config.save_eq_error`, `Config.save_spec`: when a configuration can be saved, and what is there then.
- `Config.Saved.readText`: the project's file then holds what was written.
- `Config.saved_config_loads`: saving and loading.
-/
import Trialbook.Proofs.FileChanges
import Trialbook.Proofs.Layering
import Trialbook.Proofs.TomlTexts

namespace Trialbook

/-! ## Lines -/

namespace Toml

variable {key value : String} {rest cs : List Char}

/-- a key that needs no quotes -/
structure IsBareKey (key : String) : Prop where
  some : key ≠ ""
  plain : ∀ c ∈ key.toList, isKeyChar c = true

instance (key : String) : Decidable (IsBareKey key) :=
  decidable_of_iff (key ≠ "" ∧ key.toList.all isKeyChar = true)
    ⟨fun h => ⟨h.1, List.all_eq_true.1 h.2⟩, fun h => ⟨h.some, List.all_eq_true.2 h.plain⟩⟩

/-- the first character of such a key begins nothing else -/
theorem IsBareKey.exists_cons (bare : IsBareKey key) : ∃ k ks, key.toList = k :: ks ∧ k ≠ ' ' ∧ k ≠ '\t' ∧ k ≠ '"' ∧
    k ≠ '\'' ∧ k ≠ '#' ∧ k ≠ '\n' ∧ k ≠ '\r' ∧ k ≠ '[' ∧ k ≠ '\uFEFF' := by
  cases chars : key.toList with
  | nil => exact absurd (String.toList_eq_nil_iff.1 chars) bare.some
  | cons k ks =>
    have plain := bare.plain k (chars ▸ List.mem_cons_self)
    have apart (c : Char) (special : isKeyChar c = false) : k ≠ c := by
      rintro rfl
      rw [special] at plain
      cases plain
    exact ⟨k, ks, rfl, apart _ rfl, apart _ rfl, apart _ rfl, apart _ rfl, apart _ rfl, apart _ rfl, apart _ rfl,
      apart _ rfl, apart _ rfl⟩

theorem afterBlanks_cons {c : Char} (space : c ≠ ' ') (tab : c ≠ '\t') (cs : List Char) :
    afterBlanks (c :: cs) = c :: cs := by
  simp [afterBlanks, space, tab]

theorem keyPart?_line (bare : IsBareKey key) (rest : List Char) :
    keyPart? (key.toList ++ ' ' :: rest) = some (key, ' ' :: rest) := by
  have word : (key.toList ++ ' ' :: rest).takeWhile isKeyChar = key.toList := by
    have blank : isKeyChar ' ' = false := by decide
    rw [List.takeWhile_append_of_pos bare.plain, List.takeWhile_cons_of_neg (by simp [blank]), List.append_nil]
  obtain ⟨k, ks, chars, -, -, double, single, -⟩ := bare.exists_cons
  have filled : key.toList ≠ [] := by simp [chars]
  unfold keyPart?
  split
  next same => exact absurd (List.cons.inj (by simpa [chars] using same)).1 double
  next same => exact absurd (List.cons.inj (by simpa [chars] using same)).1 single
  next => simp [word, filled]

/-- the key of a line -/
theorem key?_line (bare : IsBareKey key) (rest : List Char) :
    key? (key.toList ++ " = ".toList ++ rest) = some ([], key, '=' :: ' ' :: rest) := by
  have blanks : afterBlanks (key.toList ++ ' ' :: '=' :: ' ' :: rest) = key.toList ++ ' ' :: '=' :: ' ' :: rest := by
    obtain ⟨k, ks, chars, space, tab, -⟩ := bare.exists_cons
    rw [chars, List.cons_append, afterBlanks_cons space tab]
  have gap : afterBlanks (' ' :: '=' :: ' ' :: rest) = '=' :: ' ' :: rest := by simp [afterBlanks]
  have parts : keyParts? (depthLimit - 1) (key.toList ++ ' ' :: '=' :: ' ' :: rest) =
      some ([key], '=' :: ' ' :: rest) := by
    rw [depthLimit, keyParts?, blanks, keyPart?_line bare]
    simp only [Option.bind_eq_bind, Option.bind_some, gap]
    rfl
  have shape : key.toList ++ " = ".toList ++ rest = key.toList ++ ' ' :: '=' :: ' ' :: rest := by
    rw [List.append_assoc]
    rfl
  rw [shape, key?, parts]
  rfl

/-- what is written for a text begins with a quote -/
theorem exists_written (cs : List Char) : ∃ more, written cs = '"' :: more ∨ written cs = '\'' :: more := by
  unfold written
  split
  · exact ⟨_, .inl rfl⟩
  · exact ⟨_, .inr rfl⟩
  · exact ⟨_, .inl rfl⟩
  · exact ⟨_, .inr rfl⟩

/-- the text of a line -/
theorem value?_written (n depth : Nat) (text rest : List Char) :
    value? (n + 1) depth (written text ++ '\n' :: rest) = some (.text (String.ofList text), '\n' :: rest) := by
  have double : ('\n' :: rest).head? ≠ some '"' := by simp
  have single : ('\n' :: rest).head? ≠ some '\'' := by simp
  have read := text?_written text double single
  obtain ⟨more, begins | begins⟩ := exists_written text
  · rw [begins, List.cons_append] at read ⊢
    rw [value?, read]
    rfl
  · rw [begins, List.cons_append] at read ⊢
    rw [value?, read]
    rfl

namespace Document

/-- a line with a fresh key puts its text under it -/
theorem entry?_line {entries : Entries} (bare : IsBareKey key) (fresh : entries.lookup key = none) :
    entry? ⟨entries, []⟩ (Config.line key value ++ rest) = some (⟨entries ++ [(key, .text value)], []⟩, rest) := by
  have shape : Config.line key value ++ rest =
      key.toList ++ " = ".toList ++ (written value.toList ++ '\n' :: rest) := by
    simp [Config.line]
  have blanks : afterBlanks (' ' :: (written value.toList ++ '\n' :: rest)) = written value.toList ++ '\n' :: rest := by
    obtain ⟨more, begins | begins⟩ := exists_written value.toList <;> rw [begins] <;> rfl
  rw [shape, entry?, key?_line bare]
  simp only [Option.bind_eq_bind, Option.bind_some, expect, if_true, blanks, value?_written, String.ofList_toList]
  have ends : afterLine? ('\n' :: rest) = some rest := rfl
  simp [ends, Entries.within, Entries.put, fresh]

theorem lines?_line {n : Nat} {entries : Entries} (bare : IsBareKey key) (fresh : entries.lookup key = none) :
    lines? (n + 1) ⟨entries, []⟩ (Config.line key value ++ rest) =
      lines? n ⟨entries ++ [(key, .text value)], []⟩ rest := by
  have read : entry? ⟨entries, []⟩ (Config.line key value ++ rest) = _ := entry?_line bare fresh
  obtain ⟨k, ks, chars, space, tab, -, -, hash, feed, carriage, bracket, -⟩ := bare.exists_cons
  have begins : ∃ more, Config.line key value ++ rest = k :: more := ⟨_, by rw [Config.line, chars]; rfl⟩
  obtain ⟨more, begins⟩ := begins
  rw [begins] at read ⊢
  rw [lines?, afterBlanks_cons space tab]
  split
  next same => cases same
  next same => exact absurd (List.cons.inj same).1 hash
  next same => exact absurd (List.cons.inj same).1 feed
  next same => exact absurd (List.cons.inj same).1 carriage
  next same => exact absurd (List.cons.inj same).1 bracket
  next same => exact absurd (List.cons.inj same).1 bracket
  next => rw [read, Option.bind_some]

/-- lines with fresh and different keys put their texts under them, one after the other -/
theorem lines?_settings {settings : List (String × String)} {n : Nat} {entries : Entries}
    (bare : ∀ s ∈ settings, IsBareKey s.1) (distinct : (settings.map Prod.fst).Nodup)
    (fresh : ∀ s ∈ settings, entries.lookup s.1 = none) (enough : settings.length < n) :
    lines? n ⟨entries, []⟩ (settings.flatMap fun s => Config.line s.1 s.2) =
      some ⟨entries ++ settings.map fun s => (s.1, .text s.2), []⟩ := by
  induction settings generalizing n entries with
  | nil =>
    obtain ⟨n, rfl⟩ := Nat.exists_eq_add_of_lt enough
    simp [lines?, afterBlanks]
  | cons s settings ih =>
    obtain ⟨n, rfl⟩ := Nat.exists_eq_add_of_lt enough
    obtain ⟨bareHere, bareLater⟩ := List.forall_mem_cons.1 bare
    obtain ⟨freshHere, freshLater⟩ := List.forall_mem_cons.1 fresh
    obtain ⟨apart, distinct⟩ := List.nodup_cons.1 distinct
    -- the key of a later line is not that of this one
    have free : ∀ t ∈ settings, (entries ++ [(s.1, Item.text s.2)]).lookup t.1 = none := by
      intro t member
      have other : t.1 ≠ s.1 := fun same => apart (same ▸ List.mem_map_of_mem member)
      rw [List.lookup_append, freshLater t member, Table.lookup_cons_ne other, Option.none_or, List.lookup_nil]
    have fuel : settings.length < settings.length + 1 + n := by omega
    rw [List.flatMap_cons, List.length_cons, lines?_line bareHere freshHere, ih bareLater distinct free fuel,
      List.append_assoc]
    rfl

/-- a document of lines with different keys is read as the texts under them -/
theorem read?_settings {settings : List (String × String)} (bare : ∀ s ∈ settings, IsBareKey s.1)
    (distinct : (settings.map Prod.fst).Nodup) :
    read? (String.ofList (settings.flatMap fun s => Config.line s.1 s.2)) =
      some (settings.map fun s => (s.1, .text s.2)) := by
  have length (settings : List (String × String)) :
      settings.length ≤ (settings.flatMap fun s => Config.line s.1 s.2).length := by
    rw [List.length_flatMap, ← List.length_map (f := fun s => (Config.line s.1 s.2).length)]
    apply List.length_le_sum_of_one_le
    intro n member
    obtain ⟨s, -, rfl⟩ := List.mem_map.1 member
    rw [Config.line, List.length_append]
    exact Nat.le_add_left 1 _
  have whole := @lines?_settings settings _ [] bare distinct (fun _ _ => rfl) (Nat.lt_succ_of_le (length settings))
  rw [read?, String.toList_ofList]
  split
  next more marked =>
    -- no byte-order mark is passed over, as keys have none
    cases settings with
    | nil => cases marked
    | cons s settings =>
      obtain ⟨k, ks, chars, -, -, -, -, -, -, -, -, unmarked⟩ := (bare s List.mem_cons_self).exists_cons
      rw [List.flatMap_cons, Config.line, chars] at marked
      exact absurd (List.cons.inj marked).1 unmarked
  next => rw [whole]; rfl

end Document

end Toml

namespace Config

variable {c : Config} {files files' saved : Files} {workspace : String} {e : Environment}

/-- the texts that a configuration gives, by their keys -/
def settings (c : Config) : List (String × String) :=
  (c.projectName.map fun name => (Field.projectName.key, name)).toList ++
    [(Field.declarationsDir.key, c.declarationsDir), (Field.fileExtension.key, c.fileExtension)]

/-- what a configuration gives for each field -/
def given (c : Config) : Given
  | .projectName => c.projectName
  | .declarationsDir => some c.declarationsDir
  | .fileExtension => some c.fileExtension

theorem written_eq (c : Config) : c.written = String.ofList (c.settings.flatMap fun s => line s.1 s.2) := by
  cases name : c.projectName <;> simp [written, settings, name, Field.key]

theorem lookup_settings (c : Config) (f : Field) : c.settings.lookup f.key = c.given f := by
  rw [settings]
  cases f with
  | projectName =>
    change _ = c.projectName
    cases c.projectName <;> rfl
  | declarationsDir => cases c.projectName <;> rfl
  | fileExtension => cases c.projectName <;> rfl

theorem keys_settings (c : Config) :
    (c.settings.map Prod.fst).Sublist [Field.projectName.key, Field.declarationsDir.key, Field.fileExtension.key] := by
  rw [settings]
  cases c.projectName with
  | none => exact List.sublist_cons_self _ _
  | some name => exact List.Sublist.refl _

theorem lookup_map_text (settings : List (String × String)) (key : String) :
    (settings.map fun s => (s.1, Toml.Item.text s.2)).lookup key = (settings.lookup key).map .text := by
  induction settings with
  | nil => rfl
  | cons s settings ih =>
    rw [List.map_cons, List.lookup_cons, List.lookup_cons, ih]
    cases key == s.1 <;> rfl

/-- the project's file is read as what the configuration gives -/
theorem read?_written (c : Config) : ∃ entries, Toml.Document.read? c.written = some entries ∧
    ∀ f : Field, entries.lookup f.key = (c.given f).map .text := by
  have keys := c.keys_settings
  have allBare : ∀ key ∈ [Field.projectName.key, Field.declarationsDir.key, Field.fileExtension.key],
      Toml.IsBareKey key := by decide
  have bare : ∀ s ∈ c.settings, Toml.IsBareKey s.1 :=
    fun s member => allBare s.1 (keys.subset (List.mem_map_of_mem member))
  have distinct : (c.settings.map Prod.fst).Nodup := keys.nodup (by decide)
  refine ⟨_, by rw [written_eq, Toml.Document.read?_settings bare distinct], fun f => ?_⟩
  rw [lookup_map_text, lookup_settings]

/-! ## Saving -/

/-- the names of the project's directory -/
def directoryNames (files : Files) (workspace : String) : List String :=
  Path.along (Path.parts (Path.join files.here workspace)) ++ [".expkit"]

/-- the names of the project's file -/
def fileNames (files : Files) (workspace : String) : List String := directoryNames files workspace ++ ["config.toml"]

/-- nothing stands in the way of the project's file: the top of the tree is a directory, no file stands where the path of
the project leads through, nor in the place of its directory, and no directory stands in the place of its file, also none
that the path itself leads through -/
structure Writable (files : Files) (workspace : String) : Prop where
  way : files.Opens (Path.parts (Path.join files.here workspace))
  directory : ∀ content, files.top.look? (directoryNames files workspace) ≠ some (.file content)
  file : files.top.look? (fileNames files workspace) ≠ some .directory
  apart : ∀ before, before <+: Path.parts (Path.join files.here workspace) →
    Path.along before ≠ fileNames files workspace

/-- files with a project's file, to which its path leads -/
structure Saved (files : Files) (workspace : String) (c : Config) (saved : Files) : Prop where
  here : saved.here = files.here
  way : ∀ before, before <+: Path.parts (Path.join files.here workspace) →
    saved.top.look? (Path.along before) = some .directory
  directory : saved.top.look? (directoryNames files workspace) = some .directory
  file : saved.top.look? (fileNames files workspace) = some (.file (.text c.written))

/-- once the project's path is made, saving is putting a file -/
theorem save_of_makePath {names : List String} (made : files.makePath workspace = .ok (files', names)) (c : Config) :
    save files workspace c = files'.write (names ++ [".expkit"]) "config.toml" (.text c.written) := by
  rw [save, made]
  rfl

/-- where nothing stands in the way, the project's file can be saved -/
theorem save_spec (c : Config) (writable : Writable files workspace) :
    ∃ saved, save files workspace c = .ok saved ∧ Saved files workspace c saved := by
  have top : files.top.look? [] = some .directory := by
    have clear := writable.way [] List.nil_prefix
    cases root : files.top with
    | directory entries => rfl
    | file content => exact absurd (by rw [root]; rfl) (clear content)
  obtain ⟨files', made, led⟩ := (Files.makeAlong_spec top _).2 writable.way
  have there := led.made _ (List.prefix_refl _)
  have clear : files'.top.IsClear (directoryNames files workspace) := by
    intro before start content
    rcases List.prefix_concat_iff.1 start with rfl | above
    · exact mt (led.file_iff writable.way _).1 (writable.directory content)
    · rw [Node.look?_above there above]
      exact nofun
  have free : files'.top.look? (fileNames files workspace) ≠ some .directory := by
    have apart := led.kept (fileNames files workspace) fun before start same => writable.apart before start same.symm
    rw [apart]
    exact writable.file
  obtain ⟨saved, wrote, here, seen⟩ := Files.write_spec (.text c.written) clear free
  have ends : directoryNames files workspace ≠ fileNames files workspace := by simp [fileNames]
  refine ⟨saved, ?_, here.trans led.here, fun before start => ?_, ?_, ?_⟩
  · rw [save_of_makePath made]
    exact wrote
  · rw [seen, ← fileNames, if_neg (writable.apart before start), led.made before start, ite_self]
  · rw [seen, ← fileNames, if_neg ends, if_pos (List.prefix_refl _)]
  · rw [seen, ← fileNames, if_pos rfl]

/-- what stands in the way keeps a configuration from being saved -/
theorem save_eq_error (c : Config) (blocked : ¬ Writable files workspace) :
    ∃ e, save files workspace c = .error e := by
  cases root : files.top with
  | file content =>
    cases made : files.makePath workspace with
    | error e => exact ⟨e, by rw [save, made]; rfl⟩
    | ok reached =>
      have closed : ¬ reached.1.top.IsClear (reached.2 ++ [".expkit"]) :=
        Files.top_of_makeAlong root made ▸ Node.not_isClear_file content _
      rw [save_of_makePath made]
      exact Files.write_eq_error (.inl closed)
  | directory entries =>
    have top : files.top.look? [] = some .directory := by rw [root]; rfl
    obtain ⟨stop, go⟩ := Files.makeAlong_spec top (Path.parts (Path.join files.here workspace))
    by_cases opens : files.Opens (Path.parts (Path.join files.here workspace))
    · obtain ⟨files', made, led⟩ := go opens
      have stands : ¬ files'.top.IsClear (directoryNames files workspace) ∨
          files'.top.look? (fileNames files workspace) = some .directory := by
        by_contra free
        obtain ⟨clear, file⟩ := not_or.1 free
        refine blocked ⟨opens, fun content => ?_, mt led.directory_of file, fun before start same => ?_⟩
        · exact mt (led.file_iff opens _).2 (not_not.1 clear _ (List.prefix_refl _) content)
        · exact file (same ▸ led.made before start)
      rw [save_of_makePath made]
      exact Files.write_eq_error stands
    · obtain ⟨e, stopped⟩ := stop opens
      refine ⟨e, ?_⟩
      rw [save, Files.makePath, stopped]
      rfl

/-- the project's file then holds what was written -/
theorem Saved.readText (h : Saved files workspace c saved) : saved.readText (path workspace) = .ok c.written := by
  obtain ⟨place, reached, top, coherent, names⟩ := Place.followAlong h.way
  have found : saved.reach workspace = .ok place := by rw [Files.reach, h.here, reached]
  have directory : place.top.look? (place.names ++ [".expkit"]) = some .directory := by
    rw [top, names]
    exact h.directory
  obtain ⟨inner, entered, top', coherent', names'⟩ := Place.follow_name coherent directory (by decide) (by decide)
  have file : inner.top.look? (inner.names ++ ["config.toml"]) = some (.file (.text c.written)) := by
    rw [top', top, names', names]
    exact h.file
  obtain ⟨last, arrived, top'', coherent'', names''⟩ := Place.follow_name coherent' file (by decide) (by decide)
  have content : last.node = .file (.text c.written) := by
    rw [← names'', ← top'', Node.look?_eq_file_iff, Place.at?_names coherent''] at file
    exact Option.some.inj file
  have leads : saved.find (path workspace) = .ok last := by
    have directoryName : Path.IsName ".expkit" := by decide
    have fileName : Path.IsName "config.toml" := by decide
    rw [path, Files.find_join fileName, Files.reach_join directoryName, found]
    change (place.follow ".expkit").bind _ = _
    rw [entered]
    exact arrived
  simp only [Files.readText, leads, bind, Except.bind, content]
  rfl

theorem environmentGives_nothing (none : ∀ v ∈ e.entries, ¬ Layer.variablePrefix.toList <+: Layer.lowered v.1) :
    EnvironmentGives e .nothing where
  silent f _ v member concerns := by
    have begins : Layer.variablePrefix.toList <+: f.variableName := by
      rw [Field.variableName, String.toList_append]
      exact List.prefix_append _ _
    rcases concerns with same | ⟨separator, -, more, -⟩
    · exact none v member (same ▸ begins)
    · exact none v member ((begins.trans (List.prefix_append _ _)).trans more)
  speaks f text given := nomatch given

/-- the places of a process in which only the project's file gives anything, which is a whole configuration -/
def solely (c : Config) : Places where
  caller := .nothing
  environment := .nothing
  project := c.given
  user := .nothing

theorem chosen_solely (c : Config) : c.solely.chosen .projectName = c.projectName := by
  rw [Places.chosen_eq]
  change none.or (none.or (c.projectName.or (none.or none))) = _
  simp

/-- **A saved configuration loads as it was.** Let a configuration be as a check leaves it, with any texts. If nothing
stands in the way of the project's file, the configuration is saved, whatever that file held before; and every process
that has no user's file, and no variable whose name begins with the program's prefix, then loads that configuration if
its caller gives nothing. If something does stand in the way, saving fails. -/
theorem saved_config_loads {c : Config} (checked : c.check = .ok c) (files : Files) (workspace : String) :
    (Writable files workspace → ∃ saved, save files workspace c = .ok saved ∧
      ∀ s : Session, (∀ user, userPath? s = some user → saved.isFile user = false) →
        (∀ v ∈ s.environment.entries, ¬ Layer.variablePrefix.toList <+: Layer.lowered v.1) →
        load saved s (some workspace) Layer.empty = .ok c) ∧
    (¬ Writable files workspace → ∃ e, save files workspace c = .error e) := by
  refine ⟨fun writable => ?_, save_eq_error c⟩
  obtain ⟨saved, ok, written⟩ := save_spec c writable
  refine ⟨saved, ok, fun s noUser noVariables => ?_⟩
  obtain ⟨entries, read, given⟩ := c.read?_written
  have user : FileGives saved (userPath? s) .nothing := by
    cases path : userPath? s with
    | none => exact .nowhere
    | some user => exact .absent (noUser user path)
  have places : c.solely.Of saved s (some workspace) :=
    { environment := environmentGives_nothing noVariables, project := .present written.readText read given, user }
  have loaded : load saved s (some workspace) Layer.empty =
      check ⟨c.solely.chosen .projectName, c.declarationsDir, c.fileExtension⟩ :=
    load_eq places rfl rfl
  rw [loaded, chosen_solely]
  exact checked

/-- texts that no style holds as they stand: quotes of both kinds, backslashes, line breaks, control characters -/
def hardConfig : Config := ⟨some "\x27\x27\x27\\ \"\"\"\"\r\n\t\x00\x7f\u00e9\"\"", "a\\'b'", "\"py\""⟩

/-- a project whose file is no text -/
def worn : Files :=
  ⟨.directory [("work", .directory [(".expkit", .directory [("config.toml", .file .bytes)]), ("notes", .file .bytes)])],
    "/work"⟩

/-- a process with a home and a variable of nearly the program's name -/
def plainEnvironment : Environment := ⟨[("HOME", "/home"), ("EXPKIT", "x")]⟩

theorem writable_worn : Writable worn "new/../." where
  way before start content := by
    have clear : ∀ before ∈ (Path.parts (Path.join worn.here "new/../.")).inits,
        worn.top.look? (Path.along before) ∈ [none, some .directory] := by decide +kernel
    intro seen
    have there := clear before ((List.mem_inits _ _).2 start)
    rw [seen] at there
    simp at there
  directory content := by
    have there : worn.top.look? (directoryNames worn "new/../.") = some .directory := by decide +kernel
    rw [there]
    exact nofun
  file := by decide +kernel
  apart before start := by
    have apart : ∀ before ∈ (Path.parts (Path.join worn.here "new/../.")).inits,
        Path.along before ≠ fileNames worn "new/../." := by decide +kernel
    exact apart before ((List.mem_inits _ _).2 start)

theorem not_writable_worn : ¬ Writable worn "notes" := by
  intro writable
  have seen : worn.top.look? (Path.along (Path.parts (Path.join worn.here "notes"))) = some (.file .bytes) := by
    decide +kernel
  exact writable.way _ (List.prefix_refl _) .bytes seen

theorem saved_config_loads_hard : hardConfig.check = .ok hardConfig ∧
    (∃ saved, save worn "new/../." hardConfig = .ok saved ∧
      load saved plainEnvironment (some "new/../.") Layer.empty = .ok hardConfig) ∧
    ∃ e, save worn "notes" hardConfig = .error e := by
  have checked : hardConfig.check = .ok hardConfig := by decide +kernel
  obtain ⟨saved, ok, loads⟩ := (saved_config_loads checked worn "new/../.").1 writable_worn
  have noUser : (save worn "new/../." hardConfig).toOption.map (·.isFile "/home/.config/expkit/config.toml") =
      some false := by decide +kernel
  have noVariables : ∀ v ∈ plainEnvironment.entries, ¬ Layer.variablePrefix.toList <+: Layer.lowered v.1 := by
    decide +kernel
  have user : userPath? plainEnvironment = some "/home/.config/expkit/config.toml" := by decide +kernel
  rw [ok] at noUser
  refine ⟨checked, ⟨saved, ok, loads plainEnvironment (fun path found => ?_) noVariables⟩, ?_⟩
  · obtain rfl : "/home/.config/expkit/config.toml" = path := Option.some.inj (user.symm.trans found)
    exact Option.some.inj noUser
  · exact (saved_config_loads checked worn "notes").2 not_writable_worn

end Config

end Trialbook
