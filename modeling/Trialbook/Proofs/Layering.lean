/-
LAYERING: every field of a configuration comes from the highest place that gives it.

A place gives texts for some of the fields (`Given`). From the highest to the lowest the places are the caller, the
environment, the project's file, the user's file and the program itself. A file gives nothing if it is not there
(`FileGives`); of the variables of an environment that concern a field the last one counts (`EnvironmentGives`). Files
that cannot be read, and settings that are no texts, are not considered here.

Results:
- `Layer.dotted_eq_append`, `Layer.concerns_of_keyOf?`: a key tells what the name of its variable looks like.
- `Given.layer_above`: laying one layer over another keeps the fields apart.
- `FileGives.layers`, `EnvironmentGives.layer`: what files and environments give is what is read from them.
- `load_eq`: so loading is checking what is chosen field by field.
- `load_takes_highest`: the outcomes of loading, in terms of the texts chosen.
-/
import Mathlib.Tactic
import Trialbook.Config.Config
import Trialbook.Proofs.SplitTexts
import Trialbook.Proofs.Traversals

namespace Trialbook

namespace Config

/-- a field that can be set -/
inductive Field where
  | projectName
  | declarationsDir
  | fileExtension
  deriving DecidableEq, Repr

/-- the key of a field -/
def Field.key : Field → String
  | .projectName => "project_name"
  | .declarationsDir => "declarations_dir"
  | .fileExtension => "file_extension"

/-- the name of the variable for a field, in lower case -/
def Field.variableName (f : Field) : List Char := (Layer.variablePrefix ++ f.key).toList

end Config

/-! ## Layers -/

namespace Layer

open Config (Field)

variable {f : Field} {name text : String} {cs : List Char}

/-- what a layer says about a field -/
def get (l : Layer) : Field → Option Setting
  | .projectName => l.projectName
  | .declarationsDir => l.declarationsDir
  | .fileExtension => l.fileExtension

theorem eq_of_get {l m : Layer} (h : ∀ f, l.get f = m.get f) : l = m := by
  obtain ⟨name, directory, extension⟩ := l
  obtain rfl : name = m.projectName := h .projectName
  obtain rfl : directory = m.declarationsDir := h .declarationsDir
  obtain rfl : extension = m.fileExtension := h .fileExtension
  rfl

@[simp] theorem get_empty : empty.get f = none := by cases f <;> rfl

@[simp] theorem get_above (upper lower : Layer) : (upper.above lower).get f = (upper.get f).or (lower.get f) := by
  cases f <;> rfl

@[simp] theorem get_ofLookup (lookup : String → Option Setting) : (ofLookup lookup).get f = lookup f.key := by
  cases f <;> rfl

/-! ## Names of variables -/

/-- a name without letter case and without blanks at its ends -/
def lowered (name : String) : List Char := (Text.trim name.toList).map Char.toLower

/-- the name of a variable is that of a field, in any letter case and with or without blanks around it, or goes on after
a dot or two underscores -/
def Concerns (name : String) (f : Field) : Prop :=
  lowered name = f.variableName ∨ ∃ separator ∈ [['.'], ['_', '_']],
    f.variableName ++ separator <+: lowered name ∧ lowered name ≠ f.variableName ++ separator

instance (name : String) (f : Field) : Decidable (Concerns name f) := inferInstanceAs (Decidable (_ ∨ _))

theorem dotted_eq_nil (h : dotted cs = []) : cs = [] := by
  unfold dotted at h
  split at h
  · cases h
  · cases h
  · rfl

/-- what stands before a dot is as it was, and the dot was a dot or two underscores -/
theorem dotted_eq_append {key tail : List Char} (plain : '.' ∉ key) (h : dotted cs = key ++ tail) :
    ∃ more, cs = key ++ more ∧ dotted more = tail := by
  induction key generalizing cs with
  | nil => exact ⟨cs, rfl, h⟩
  | cons k key ih =>
    obtain ⟨other, later⟩ := not_or.1 (mt List.mem_cons.2 plain)
    unfold dotted at h
    split at h
    · exact absurd (List.cons.inj h).1 other
    · obtain ⟨rfl, same⟩ := List.cons.inj h
      obtain ⟨more, rfl, rest⟩ := ih later same
      exact ⟨more, rfl, rest⟩
    · cases h

theorem dotted_eq_cons {tail : List Char} (h : dotted cs = '.' :: tail) :
    ∃ separator ∈ [['.'], ['_', '_']], ∃ more, cs = separator ++ more ∧ dotted more = tail := by
  unfold dotted at h
  split at h
  · exact ⟨['_', '_'], by simp, _, rfl, (List.cons.inj h).2⟩
  · obtain ⟨rfl, same⟩ := List.cons.inj h
    exact ⟨['.'], by simp, _, rfl, same⟩
  · cases h

theorem keyOf?_eq_some_iff {parts : List String} : keyOf? name = some parts ↔
    ∃ cs, lowered name = variablePrefix.toList ++ cs ∧ Text.split '.' (dotted cs) = parts.map String.toList ∧
      ∀ part ∈ parts, part ≠ "" := by
  have length : variablePrefix.length = variablePrefix.toList.length := rfl
  constructor
  · intro h
    simp only [keyOf?] at h
    split_ifs at h with starts void
    obtain ⟨cs, whole⟩ := List.isPrefixOf_iff_prefix.1 starts
    rw [← whole, length, List.drop_left] at h void
    obtain rfl := Option.some.inj h
    refine ⟨cs, whole.symm, by simp, fun part hp none => void ?_⟩
    obtain ⟨piece, member, rfl⟩ := List.mem_map.1 hp
    refine List.any_eq_true.2 ⟨piece, member, ?_⟩
    simpa using none
  · rintro ⟨cs, whole, pieces, some⟩
    have solid : ¬ (Text.split '.' (dotted cs)).any List.isEmpty = true := by
      rw [pieces]
      simpa using fun member => some "" member rfl
    rw [lowered] at whole
    simp only [keyOf?]
    rw [whole, if_pos (List.isPrefixOf_iff_prefix.2 ⟨cs, rfl⟩), length, List.drop_left, if_neg solid, pieces]
    simp

theorem keyOf?_of_variableName (h : lowered name = f.variableName) : keyOf? name = some [f.key] := by
  refine keyOf?_eq_some_iff.2 ⟨f.key.toList, ?_, ?_, ?_⟩
  · rw [h, Field.variableName, String.toList_append]
  · cases f <;> decide
  · cases f <;> decide

theorem concerns_of_keyOf? {rest : List String} (h : keyOf? name = some (f.key :: rest)) : Concerns name f := by
  obtain ⟨cs, whole, pieces, some⟩ := keyOf?_eq_some_iff.1 h
  rw [List.map_cons] at pieces
  have plain : '.' ∉ f.key.toList := Text.not_mem_of_mem_split (pieces ▸ List.mem_cons_self)
  have joined := Text.intercalate_split '.' (dotted cs)
  rw [pieces] at joined
  cases rest with
  | nil =>
    have all : dotted cs = f.key.toList ++ [] := by simpa using joined.symm
    obtain ⟨more, rfl, none⟩ := dotted_eq_append plain all
    obtain rfl := dotted_eq_nil none
    left
    rw [whole, List.append_nil, Field.variableName, String.toList_append]
  | cons part rest =>
    rw [List.map_cons, List.intercalate_cons_cons, List.append_assoc, List.singleton_append] at joined
    obtain ⟨_, rfl, dot⟩ := dotted_eq_append plain joined.symm
    obtain ⟨separator, member, more, rfl, inner⟩ := dotted_eq_cons dot
    have begins : f.variableName ++ separator ++ more = lowered name := by
      rw [whole, Field.variableName, String.toList_append]
      simp only [List.append_assoc]
    refine .inr ⟨separator, member, ⟨more, begins⟩, fun ends => ?_⟩
    obtain rfl : more = [] := by simpa [ends] using begins
    refine some part (by simp) (String.toList_inj.1 ?_)
    cases rest <;> simpa [dotted] using inner.symm

/-- a variable says nothing about fields that it does not concern -/
theorem get_ofVariable_of_not_concerns (h : ¬ Concerns name f) (text : String) :
    (ofVariable name text).get f = none := by
  have other {key : String} {rest : List String} (found : keyOf? name = some (key :: rest)) : f.key ≠ key := by
    rintro rfl
    exact h (concerns_of_keyOf? found)
  unfold ofVariable
  split
  · rename_i key found
    rw [get_ofLookup, if_neg (other found)]
  · rename_i key rest _ found
    rw [get_ofLookup, if_neg (other found)]
  · exact get_empty

theorem get_ofVariable_of_variableName (h : lowered name = f.variableName) (text : String) :
    (ofVariable name text).get f = some (Setting.ofVariable text) := by
  rw [ofVariable, keyOf?_of_variableName h]
  simp

/-- variables that do not concern a field leave it as it is -/
theorem get_foldl_ofVariable {vs : List (String × String)} (none : ∀ v ∈ vs, ¬ Concerns v.1 f) (lower : Layer) :
    (vs.foldl (fun lower v => (ofVariable v.1 v.2).above lower) lower).get f = lower.get f := by
  induction vs generalizing lower with
  | nil => rfl
  | cons v vs ih =>
    obtain ⟨here, later⟩ := List.forall_mem_cons.1 none
    rw [List.foldl_cons, ih later, get_above, get_ofVariable_of_not_concerns here, Option.none_or]

end Layer

namespace Config

/-! ## What places give -/

/-- texts for some of the fields -/
def Given : Type := Field → Option String

namespace Given

def nothing : Given := fun _ => none

/-- what the program itself gives -/
def standard : Given
  | .projectName => none
  | .declarationsDir => some "src"
  | .fileExtension => some "py"

/-- the layer that says just this -/
def layer (g : Given) : Layer :=
  ⟨(g .projectName).map .text, (g .declarationsDir).map .text, (g .fileExtension).map .text⟩

/-- each field from the higher of two places, if it gives it -/
def above (upper lower : Given) : Given := fun f => (upper f).or (lower f)

@[simp] theorem get_layer (g : Given) (f : Field) : g.layer.get f = (g f).map .text := by cases f <;> rfl

theorem layer_standard : standard.layer = .standard := rfl

theorem layer_above (upper lower : Given) : upper.layer.above lower.layer = (upper.above lower).layer := by
  refine Layer.eq_of_get fun f => ?_
  rw [Layer.get_above, get_layer, get_layer, get_layer, above]
  cases upper f <;> rfl

end Given

/-- what a file gives, if there is a path and a file -/
inductive FileGives (files : Files) : Option String → Given → Prop
  | nowhere : FileGives files none .nothing
  | absent {path : String} : files.isFile path = false → FileGives files (some path) .nothing
  | present {path text : String} {entries : Toml.Entries} {g : Given} : files.readText path = .ok text →
    Toml.Document.read? text = some entries → (∀ f, entries.lookup f.key = (g f).map .text) →
    FileGives files (some path) g

/-- what an environment gives: for each field the text of the last variable that concerns it, which has its name -/
structure EnvironmentGives (e : Environment) (g : Given) : Prop where
  silent : ∀ f, g f = none → ∀ v ∈ e.entries, ¬ Layer.Concerns v.1 f
  speaks : ∀ f text, g f = some text → ∃ before name value after, e.entries = before ++ (name, value) :: after ∧
    Layer.lowered name = f.variableName ∧ Setting.ofVariable value = .text text ∧
    ∀ v ∈ after, ¬ Layer.Concerns v.1 f

/-- what each place gives, the program itself apart -/
structure Places where
  caller : Given
  environment : Given
  project : Given
  user : Given

namespace Places

/-- each field from the highest place that gives it -/
def chosen (p : Places) : Given := fun f =>
  [p.caller, p.environment, p.project, p.user, .standard].findSome? fun place => place f

/-- what the files and the environment of a session give -/
structure Of (files : Files) (s : Session) (workspace : Option String) (p : Places) : Prop where
  environment : EnvironmentGives s.environment p.environment
  project : FileGives files (workspace.map path) p.project
  user : FileGives files (userPath? s) p.user

theorem chosen_eq (p : Places) :
    p.chosen = p.caller.above (p.environment.above (p.project.above (p.user.above .standard))) := by
  funext f
  simp only [chosen, Given.above, List.findSome?_cons, List.findSome?_nil]
  cases p.caller f <;> cases p.environment f <;> cases p.project f <;> cases p.user f <;> cases Given.standard f <;> rfl

theorem exists_chosen (p : Places) {f : Field} {text : String} (h : Given.standard f = some text) :
    ∃ text, p.chosen f = some text := by
  cases chosen : p.chosen f with
  | some text => exact ⟨text, rfl⟩
  | none =>
    have last := List.findSome?_eq_none_iff.1 chosen .standard (by simp)
    rw [h] at last
    cases last

end Places

variable {files : Files} {e : Environment} {s : Session} {workspace : Option String}

theorem isFile_of_readText {path text : String} (h : files.readText path = .ok text) : files.isFile path = true := by
  obtain ⟨place, found, read⟩ := bind_eq_ok_iff.1 h
  rw [Files.isFile, found]
  cases node : place.node with
  | file content => simp [node, Node.isDirectory]
  | directory entries =>
    rw [node] at read
    cases read

theorem map_ofItem_eq_iff {item? : Option Toml.Item} {text? : Option String} :
    item?.map Setting.ofItem = text?.map .text ↔ item? = text?.map .text := by
  cases item? with
  | none => cases text? <;> simp
  | some item => cases item <;> cases text? <;> simp [Setting.ofItem]

theorem FileGives.layers {path? : Option String} {g : Given} (h : FileGives files path? g) :
    ∃ layers, path?.toList.mapM (fileLayer files) = .ok layers ∧
      ∀ lower : Layer, layers.foldl (fun lower upper => upper.above lower) lower = g.layer.above lower := by
  have one {path : String} {l : Layer} (h : fileLayer files path = .ok l) :
      (some path).toList.mapM (fileLayer files) = .ok [l] := mapM_eq_ok_iff.2 (.cons h .nil)
  cases h with
  | nowhere => exact ⟨[], rfl, fun lower => Layer.eq_of_get fun f => by simp [Given.nothing]⟩
  | absent none =>
    refine ⟨[.empty], one ?_, fun lower => rfl⟩
    rw [fileLayer, none]
    rfl
  | @present path text entries g content read given =>
    have same : Layer.ofEntries entries = g.layer := by
      refine Layer.eq_of_get fun f => ?_
      rw [Layer.ofEntries, Layer.get_ofLookup, Given.get_layer]
      exact map_ofItem_eq_iff.2 (given f)
    refine ⟨[g.layer], one ?_, fun lower => rfl⟩
    rw [fileLayer, if_pos (isFile_of_readText content), content]
    simp only [read, same]

theorem EnvironmentGives.layer {g : Given} (h : EnvironmentGives e g) : Layer.ofEnvironment e = g.layer := by
  refine Layer.eq_of_get fun f => ?_
  rw [Given.get_layer, Layer.ofEnvironment]
  cases given : g f with
  | none =>
    rw [Layer.get_foldl_ofVariable (h.silent f given), Layer.get_empty]
    rfl
  | some text =>
    obtain ⟨before, name, value, after, split, named, reads, last⟩ := h.speaks f text given
    rw [split, List.foldl_append, List.foldl_cons, Layer.get_foldl_ofVariable last, Layer.get_above,
      Layer.get_ofVariable_of_variableName named, reads]
    rfl

theorem ofLayer_layer {g : Given} {directory extension : String} (hd : g .declarationsDir = some directory)
    (he : g .fileExtension = some extension) :
    ofLayer g.layer = .ok ⟨g .projectName, directory, extension⟩ := by
  cases name : g .projectName <;> simp [ofLayer, Given.layer, hd, he, name, text, bind, Except.bind, pure, Except.pure]

/-! ## Checking -/

/-- every text is some dots and a rest that begins with none -/
theorem exists_dots (cs : List Char) : ∃ dots rest, cs = List.replicate dots '.' ++ rest ∧ rest.head? ≠ some '.' := by
  induction cs with
  | nil => exact ⟨0, [], rfl, by simp⟩
  | cons c cs ih =>
    by_cases dot : c = '.'
    · obtain ⟨dots, rest, rfl, ends⟩ := ih
      exact ⟨dots + 1, rest, by rw [dot, List.replicate_succ, List.cons_append], ends⟩
    · exact ⟨0, c :: cs, rfl, by simpa using dot⟩

theorem dropWhile_dots {dots : Nat} {rest : List Char} (ends : rest.head? ≠ some '.') :
    (List.replicate dots '.' ++ rest).dropWhile (· == '.') = rest := by
  induction dots with
  | zero =>
    cases rest with
    | nil => rfl
    | cons c rest =>
      have other : ¬ c = '.' := by simpa using ends
      simp [other]
  | succ dots ih =>
    rw [List.replicate_succ, List.cons_append, List.dropWhile_cons_of_pos (by simp)]
    exact ih

theorem check_of_directory_eq_empty {c : Config} (directory : c.declarationsDir = "") :
    c.check = .error (.missingField "declarations_dir") := by
  simp [check, directory]

/-- checking goes by what follows the dots of the extension -/
theorem check_of_dots {c : Config} {dots : Nat} {rest : List Char} (directory : c.declarationsDir ≠ "")
    (split : c.fileExtension.toList = List.replicate dots '.' ++ rest) (ends : rest.head? ≠ some '.') :
    c.check = if rest = [] then .error (.missingField "file_extension") else
      .ok ⟨if c.projectName = some "" then none else c.projectName, c.declarationsDir, String.ofList rest⟩ := by
  have name : (c.projectName.filter fun s => !s.isEmpty) = if c.projectName = some "" then none else c.projectName := by
    cases c.projectName with
    | none => rfl
    | some s => by_cases none : s = "" <;> simp [none]
  rw [check, split, dropWhile_dots ends, name]
  simp [directory]

/-- the three outcomes of a check: no directory, an extension of dots, or a configuration without dots and empty names -/
theorem check_outcome (c : Config) :
    (c.declarationsDir = "" ∧ c.check = .error (.missingField "declarations_dir")) ∨
    (c.declarationsDir ≠ "" ∧ (∀ x ∈ c.fileExtension.toList, x = '.') ∧
      c.check = .error (.missingField "file_extension")) ∨
    (c.declarationsDir ≠ "" ∧ (∃ x ∈ c.fileExtension.toList, x ≠ '.') ∧
      ∃ dots rest, c.fileExtension.toList = List.replicate dots '.' ++ rest ∧ rest.head? ≠ some '.' ∧ rest ≠ [] ∧
        c.check = .ok ⟨if c.projectName = some "" then none else c.projectName, c.declarationsDir,
          String.ofList rest⟩) := by
  by_cases empty : c.declarationsDir = ""
  · exact .inl ⟨empty, check_of_directory_eq_empty empty⟩
  · obtain ⟨dots, rest, split, ends⟩ := exists_dots c.fileExtension.toList
    have checked := check_of_dots empty split ends
    cases rest with
    | nil =>
      refine .inr (.inl ⟨empty, fun x hx => ?_, checked⟩)
      rw [split, List.append_nil] at hx
      exact List.eq_of_mem_replicate hx
    | cons x rest =>
      have letter : x ∈ c.fileExtension.toList := by simp [split]
      have other : x ≠ '.' := by simpa using ends
      exact .inr (.inr ⟨empty, ⟨x, letter, other⟩, dots, x :: rest, split, ends, List.cons_ne_nil x rest, checked⟩)

/-- a checked configuration has been checked -/
theorem check_check {c d : Config} (h : c.check = .ok d) : d.check = .ok d := by
  rcases check_outcome c with ⟨-, refused⟩ | ⟨-, -, refused⟩ | ⟨directory, -, dots, rest, -, ends, some, fine⟩
  · rw [refused] at h
    cases h
  · rw [refused] at h
    cases h
  · have same := Except.ok.inj (fine.symm.trans h)
    -- no dots are left before the extension, and no empty name
    have kept : d.declarationsDir ≠ "" := same ▸ directory
    have bare : d.fileExtension.toList = List.replicate 0 '.' ++ rest := same ▸ String.toList_ofList
    rw [check_of_dots kept bare ends, if_neg some]
    subst same
    by_cases named : c.projectName = .some "" <;> simp [named]

/-! ## Main result -/

/-- loading is checking what is chosen field by field -/
theorem load_eq {p : Places} (h : p.Of files s workspace) {directory extension : String}
    (hd : p.chosen .declarationsDir = some directory) (he : p.chosen .fileExtension = some extension) :
    load files s workspace p.caller.layer = check ⟨p.chosen .projectName, directory, extension⟩ := by
  obtain ⟨user, readUser, overUser⟩ := h.user.layers
  obtain ⟨project, readProject, overProject⟩ := h.project.layers
  have read : (paths s workspace).mapM (fileLayer files) = .ok (user ++ project) := by
    rw [paths, List.mapM_append, readUser, readProject]
    rfl
  have whole : p.caller.layer.above ((Layer.ofEnvironment s.environment).above
      ((user ++ project).foldl (fun lower upper => upper.above lower) Layer.standard)) = p.chosen.layer := by
    rw [List.foldl_append, overUser, overProject, h.environment.layer, ← Given.layer_standard, Given.layer_above,
      Given.layer_above, Given.layer_above, Given.layer_above, p.chosen_eq]
  rw [load, read]
  simp only [bind, Except.bind]
  rw [whole, ofLayer_layer hd he]

/-- **Each field from the highest place that gives it.** Whatever the caller, the environment, the project's file and
the user's file give, loading chooses a directory and an extension, each from the highest place that gives it. It
refuses the directory just when the one chosen is empty, else the extension just when the one chosen has nothing but
dots. Else it gives the directory, the extension without the dots before it, and the name chosen, which is none if it is
empty, also when a lower place gives one. To check the outcome again changes nothing. -/
theorem load_takes_highest {p : Places} (h : p.Of files s workspace) :
    let loaded := load files s workspace p.caller.layer
    ∃ directory extension, p.chosen .declarationsDir = some directory ∧ p.chosen .fileExtension = some extension ∧
      (loaded = .error (.missingField "declarations_dir") ↔ directory = "") ∧
      (loaded = .error (.missingField "file_extension") ↔ directory ≠ "" ∧ ∀ c ∈ extension.toList, c = '.') ∧
      (directory ≠ "" → (∃ c ∈ extension.toList, c ≠ '.') →
        ∃ dots rest, extension.toList = List.replicate dots '.' ++ rest ∧ rest.head? ≠ some '.' ∧
          loaded = .ok ⟨if p.chosen .projectName = some "" then none else p.chosen .projectName, directory,
            String.ofList rest⟩) ∧
      ∀ c, loaded = .ok c → c.check = .ok c := by
  intro loaded
  obtain ⟨directory, hd⟩ := p.exists_chosen (f := .declarationsDir) rfl
  obtain ⟨extension, he⟩ := p.exists_chosen (f := .fileExtension) rfl
  have checked : loaded = check ⟨p.chosen .projectName, directory, extension⟩ := load_eq h hd he
  have outcome := check_outcome ⟨p.chosen .projectName, directory, extension⟩
  refine ⟨directory, extension, hd, he, ?_⟩
  have again (c : Config) (ok : loaded = .ok c) : c.check = .ok c := check_check (checked.symm.trans ok)
  rw [← checked] at outcome
  rcases outcome with ⟨empty, refused⟩ | ⟨some, bare, refused⟩ | ⟨some, letter, dots, rest, split, ends, -, fine⟩
  · have extensionStands : loaded ≠ .error (.missingField "file_extension") := by simp [refused]
    exact ⟨iff_of_true refused empty, iff_of_false extensionStands fun h => h.1 empty, fun some => absurd empty some, again⟩
  · have directoryStands : loaded ≠ .error (.missingField "declarations_dir") := by simp [refused]
    refine ⟨iff_of_false directoryStands some, iff_of_true refused ⟨some, bare⟩, ?_, again⟩
    rintro - ⟨c, hc, other⟩
    exact absurd (bare c hc) other
  · have directoryStands : loaded ≠ .error (.missingField "declarations_dir") := by simp [fine]
    have extensionStands : loaded ≠ .error (.missingField "file_extension") := by simp [fine]
    refine ⟨iff_of_false directoryStands some, iff_of_false extensionStands ?_, fun _ _ => ?_, again⟩
    · rintro ⟨-, bare⟩
      obtain ⟨c, hc, other⟩ := letter
      exact other (bare c hc)
    · exact ⟨dots, rest, split, ends, fine⟩

/-- a user's file with a name and a directory -/
def layeredUser : String := "project_name = \"llama\"\ndeclarations_dir = \"experiments\"\n"

/-- a project's file that gives an extension with dots before it, and a name in a table -/
def layeredProject : String := "file_extension = '..pyi'\n[other]\nproject_name = 1\n"

def layeredFiles : Files :=
  ⟨.directory [
    ("home", .directory [(".config", .directory [("expkit", .directory [
      ("config.toml", .file (.text layeredUser))])])]),
    ("work", .directory [(".expkit", .directory [("config.toml", .file (.text layeredProject))])])], "/"⟩

/-- an account with a home that no variable names, and two variables that have the name of one field -/
def layeredSession : Session :=
  ⟨⟨[("HOME", ""), ("EXPKIT_DECLARATIONS_DIR", "7"), (" Expkit_Declarations_Dir ", " lab "),
    ("EXPKIT_DECLARATIONS", "x"), ("DECLARATIONS_DIR", "y")]⟩, some "/home"⟩

/-- what is given there, with a caller who gives an empty name -/
def layered : Places where
  caller f := if f = .projectName then some "" else none
  environment f := if f = .declarationsDir then some "lab" else none
  project f := if f = .fileExtension then some "..pyi" else none
  user
    | .projectName => some "llama"
    | .declarationsDir => some "experiments"
    | .fileExtension => none

theorem fileGives_of_settings {path text : String} {g : Given} (content : files.readText path = .ok text)
    (read : (Toml.Document.read? text).isSome = true)
    (given : ∀ f : Field, (((Toml.Document.read? text).getD []).lookup f.key).map Setting.ofItem = (g f).map .text) :
    FileGives files (some path) g := by
  obtain ⟨entries, read⟩ := Option.isSome_iff_exists.1 read
  rw [read] at given
  exact .present content read fun f => map_ofItem_eq_iff.1 (given f)

theorem layered_of : layered.Of layeredFiles layeredSession (some "/work") where
  environment :=
    { silent := by
        intro f none
        cases f with
        | projectName => decide +kernel
        | declarationsDir => cases none
        | fileExtension => decide +kernel
      speaks := by
        intro f text given
        cases f with
        | projectName => cases given
        | declarationsDir =>
          cases given
          exact ⟨[("HOME", ""), ("EXPKIT_DECLARATIONS_DIR", "7")], " Expkit_Declarations_Dir ", " lab ",
            [("EXPKIT_DECLARATIONS", "x"), ("DECLARATIONS_DIR", "y")], rfl, by decide +kernel, by decide +kernel,
            by decide +kernel⟩
        | fileExtension => cases given }
  project := by
    have content : layeredFiles.readText (path "/work") = .ok layeredProject := by decide +kernel
    refine fileGives_of_settings content (by decide +kernel) fun f => ?_
    cases f <;> decide +kernel
  user := by
    have content : layeredFiles.readText "/home/.config/expkit/config.toml" = .ok layeredUser := by decide +kernel
    have found : userPath? layeredSession = some "/home/.config/expkit/config.toml" := by decide +kernel
    rw [found]
    refine fileGives_of_settings content (by decide +kernel) fun f => ?_
    cases f <;> decide +kernel

theorem load_takes_highest_layered :
    layered.Of layeredFiles layeredSession (some "/work") ∧
      load layeredFiles layeredSession (some "/work") layered.caller.layer = .ok ⟨none, "lab", "pyi"⟩ := by
  obtain ⟨directory, extension, hd, he, -, -, fine, -⟩ := load_takes_highest layered_of
  obtain rfl : "lab" = directory := Option.some.inj hd
  obtain rfl : "..pyi" = extension := Option.some.inj he
  have letter : ∃ c ∈ "..pyi".toList, c ≠ '.' := ⟨'p', by decide +kernel, by decide⟩
  obtain ⟨dots, rest, split, ends, ok⟩ := fine (by decide) letter
  obtain rfl : ['p', 'y', 'i'] = rest := by
    rw [← dropWhile_dots ends, ← split]
    decide +kernel
  exact ⟨layered_of, ok⟩

end Config

end Trialbook
