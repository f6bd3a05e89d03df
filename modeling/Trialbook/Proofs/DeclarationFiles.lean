/-
DECLARATION FILES: which files a walk lists, and in what order.

A file is listed when it stands at or below the start, no name on its way from there is passed over, and its name has
the extension (`Files.Lists`). The name of the start itself does not matter. A tree may be rearranged (`Node.Rearranged`)
without anyone noticing: its directories hold the same, in another order.

Results:
- `Path.extension?_eq_some_iff`: what follows the last dot of a name, if something stands before that dot.
- `Node.Proper.mem_walk_iff`: a walk comes to the files whose ways have no name that is passed over.
- `Files.mem_declarationFiles_iff`, `Files.declarationFiles_increasing`: these files, each once, part by part in order.
- `Files.declarationFiles_of_rearranged`: the order in which directories hold their entries has no bearing on the list.
- `declaration_files_listed`: all this together, and that extraction and loading go through the same list.
-/
import Mathlib.Data.List.TakeWhile
import Trialbook.Declaration.Extractor
import Trialbook.Proofs.Places
import Trialbook.Registry.Loading

namespace Trialbook

/-! ## Names -/

/-- the extension of a name follows its last dot, and something stands before that dot -/
def HasExtension (name extension : String) : Prop :=
  ∃ stem, stem ≠ [] ∧ name.toList = stem ++ '.' :: extension.toList ∧ '.' ∉ extension.toList

theorem Path.extension?_eq_some_iff {name extension : String} :
    Path.extension? name = some extension ↔ HasExtension name extension := by
  constructor
  · intro found
    simp only [Path.extension?, Text.drop_length_takeWhile] at found
    split at found
    · rename_i c before rest
      split_ifs at found with bare
      obtain rfl := Text.eq_of_dropWhile_ne rest
      obtain rfl := Option.some.inj found
      have whole := List.takeWhile_append_dropWhile (p := (· != '.')) (l := name.toList.reverse)
      have single : '.' ∉ name.toList.reverse.takeWhile (· != '.') := fun member =>
        absurd (List.mem_takeWhile_imp member) (by decide)
      rw [rest] at whole
      generalize name.toList.reverse.takeWhile (· != '.') = after at whole single
      refine ⟨before.reverse, by simpa using bare, ?_, by simpa using single⟩
      rw [String.toList_ofList, ← List.reverse_reverse name.toList, ← whole]
      simp
    · cases found
  · rintro ⟨stem, some, whole, single⟩
    have reversed : name.toList.reverse = extension.toList.reverse ++ '.' :: stem.reverse := by rw [whole]; simp
    have after : name.toList.reverse.takeWhile (· != '.') = extension.toList.reverse := by
      rw [reversed, Text.takeWhile_ne_append (mt List.mem_reverse.1 single)]
    have before : stem.reverse.isEmpty = false := by simpa using some
    simp only [Path.extension?, after]
    rw [reversed, List.drop_left]
    simp [before, String.ofList_toList]

theorem isPassedOver_iff {name : String} :
    isPassedOver name = true ↔ name.toList.head? = some '.' ∨ name = "__pycache__" := by
  simp [isPassedOver]

theorem Path.IsName.step {name : String} (h : Path.IsName name) (seen : isPassedOver name = false) :
    Path.IsStep name where
  toIsName := h
  stays := by
    rintro rfl
    cases seen
  rises := by
    rintro rfl
    cases seen

/-! ## Walks -/

namespace Node

variable {n m : Node} {way : List String} {entries : List (String × Node)}

/-- a walk comes to the files whose ways have no name that is passed over -/
theorem Proper.mem_walk_iff (h : n.Proper) :
    way ∈ n.walk ↔ (∃ content, n.at? way = some (.file content)) ∧ ∀ name ∈ way, isPassedOver name = false := by
  induction way generalizing n with
  | nil =>
    cases n with
    | file content => simp [walk]
    | directory entries => simp [walk, walkEntries_eq]
  | cons name way ih =>
    cases n with
    | file content => simp [walk, at?]
    | directory entries =>
      cases h with
      | directory distinct names proper =>
        rw [walk, walkEntries_eq, List.mem_flatMap, List.forall_mem_cons]
        constructor
        · rintro ⟨e, member, way⟩
          split_ifs at way with seen
          · cases way
          obtain ⟨rest, below, same⟩ := List.mem_map.1 way
          obtain ⟨rfl, rfl⟩ := List.cons.inj same
          obtain ⟨⟨content, there⟩, plain⟩ := (ih (proper e member)).1 below
          refine ⟨⟨content, ?_⟩, by simpa using seen, plain⟩
          rw [at?, (Table.lookup_eq_some_iff_mem distinct).2 member]
          exact there
        · rintro ⟨⟨content, there⟩, seen, plain⟩
          obtain ⟨inner, found, there⟩ := Option.bind_eq_some_iff.1 there
          have member := (Table.lookup_eq_some_iff_mem distinct).1 found
          refine ⟨(name, inner), member, ?_⟩
          rw [if_neg (by simp [seen])]
          exact List.mem_map_of_mem ((ih (proper _ member)).2 ⟨⟨content, there⟩, plain⟩)

/-! ## Rearranged trees -/

/-- the same tree, but for the order in which its directories hold their entries -/
inductive Rearranged : Node → Node → Prop where
  | same (n : Node) : Rearranged n n
  | order {a b : List (String × Node)} : a.Perm b → Rearranged (.directory a) (.directory b)
  | inside {before after : List (String × Node)} {name : String} {n m : Node} : Rearranged n m →
    Rearranged (.directory (before ++ (name, n) :: after)) (.directory (before ++ (name, m) :: after))
  | again {a b c : Node} : Rearranged a b → Rearranged b c → Rearranged a c

namespace Rearranged

theorem back (h : Rearranged n m) : Rearranged m n := by
  induction h with
  | same n => exact .same n
  | order perm => exact .order perm.symm
  | inside _ ih => exact .inside ih
  | again _ _ first second => exact .again second first

/-- the ways of a walk are the same -/
theorem walk_perm (h : Rearranged n m) : n.walk.Perm m.walk := by
  induction h with
  | same n => exact .refl _
  | order perm =>
    rw [walk, walk, walkEntries_eq, walkEntries_eq]
    exact perm.flatMap_right _
  | inside _ ih =>
    simp only [walk, walkEntries_eq, List.flatMap_append, List.flatMap_cons]
    refine .append_left _ (.append_right _ ?_)
    split
    · exact .refl _
    · exact ih.map _
  | again _ _ first second => exact first.trans second

theorem proper (h : Rearranged n m) (tree : n.Proper) : m.Proper := by
  induction h with
  | same n => exact tree
  | order perm =>
    cases tree with
    | directory distinct names inner =>
      exact .directory ((perm.map Prod.fst).nodup_iff.1 distinct) (fun e he => names e (perm.mem_iff.2 he))
        fun e he => inner e (perm.mem_iff.2 he)
  | @inside before after name n m _ ih =>
    cases tree with
    | directory distinct names inner =>
      have keys : (before ++ (name, m) :: after).map Prod.fst = (before ++ (name, n) :: after).map Prod.fst := by simp
      have origin {e : String × Node} (he : e ∈ before ++ (name, m) :: after) :
          e = (name, m) ∨ e ∈ before ++ (name, n) :: after := by
        simp only [List.mem_append, List.mem_cons] at he ⊢
        tauto
      refine .directory (keys ▸ distinct) (fun e he => ?_) fun e he => ?_
      · obtain rfl | member := origin he
        · exact names (name, n) (by simp)
        · exact names e member
      · obtain rfl | member := origin he
        · exact ih (inner (name, n) (by simp))
        · exact inner e member
  | again _ _ first second => exact second (first tree)

/-- a directory holds under each name what the other holds, rearranged -/
theorem held (h : Rearranged n m) {a : List (String × Node)} (directory : n = .directory a) :
    ∃ b, m = .directory b ∧ ∀ e ∈ a, ∃ inner, (e.1, inner) ∈ b ∧ Rearranged e.2 inner := by
  induction h generalizing a with
  | same n => exact ⟨a, directory, fun e he => ⟨e.2, he, .same _⟩⟩
  | order perm =>
    obtain rfl := Node.directory.inj directory
    exact ⟨_, rfl, fun e he => ⟨e.2, perm.mem_iff.1 he, .same _⟩⟩
  | @inside before after name n m inner _ =>
    obtain rfl := Node.directory.inj directory
    refine ⟨_, rfl, fun e he => ?_⟩
    simp only [List.mem_append, List.mem_cons] at he ⊢
    obtain before | rfl | after := he
    · exact ⟨e.2, .inl before, .same _⟩
    · exact ⟨m, by simp, inner⟩
    · exact ⟨e.2, .inr (.inr after), .same _⟩
  | again _ _ first second =>
    obtain ⟨b, rfl, inB⟩ := first directory
    obtain ⟨c, rfl, inC⟩ := second rfl
    refine ⟨c, rfl, fun e he => ?_⟩
    obtain ⟨inner, member, one⟩ := inB e he
    obtain ⟨last, found, two⟩ := inC _ member
    exact ⟨last, found, .again one two⟩

end Rearranged

end Node

/-! ## Places in rearranged trees -/

/-- the same place in a rearranged tree -/
structure Place.Rearranged (p q : Place) : Prop where
  top : p.top.Rearranged q.top
  trail : List.Forall₂ (fun a b => a.1 = b.1 ∧ a.2.Rearranged b.2) p.trail q.trail

namespace Place.Rearranged

variable {p q p' : Place}

theorem node (h : p.Rearranged q) : p.node.Rearranged q.node := by
  obtain ⟨top, trail⟩ := p
  obtain ⟨otherTop, otherTrail⟩ := q
  obtain ⟨tops, trails⟩ := h
  cases trails with
  | nil => exact tops
  | cons first _ => exact first.2

theorem follow (h : p.Rearranged q) (tree : q.node.Proper) {part : String} (ok : p.follow part = .ok p') :
    ∃ q', q.follow part = .ok q' ∧ p'.Rearranged q' := by
  obtain ⟨entries, directory, cases⟩ := follow_eq_ok_iff.1 ok
  obtain ⟨others, other, held⟩ := h.node.held directory
  obtain ⟨stays, rfl⟩ | ⟨steps, rises, rfl⟩ | ⟨steps, enters, n, found, rfl⟩ := cases
  · exact ⟨q, follow_eq_ok_iff.2 ⟨others, other, .inl ⟨stays, rfl⟩⟩, h⟩
  · have above := List.forall₂_drop 1 h.trail
    rw [List.drop_one, List.drop_one] at above
    exact ⟨_, follow_eq_ok_iff.2 ⟨others, other, .inr (.inl ⟨steps, rises, rfl⟩)⟩, h.top, above⟩
  · obtain ⟨before, after, split, -⟩ := List.lookup_eq_some_iff.1 found
    obtain ⟨m, member, inner⟩ := held (part, n) (by simp [split])
    rw [other] at tree
    cases tree with
    | directory distinct _ _ =>
      have found := (Table.lookup_eq_some_iff_mem distinct).2 member
      exact ⟨_, follow_eq_ok_iff.2 ⟨others, other, .inr (.inr ⟨steps, enters, m, found, rfl⟩)⟩, h.top,
        .cons ⟨rfl, inner⟩ h.trail⟩

theorem followAll (h : p.Rearranged q) (tree : q.Proper) {parts : List String}
    (ok : parts.foldlM Place.follow p = .ok p') : ∃ q', parts.foldlM Place.follow q = .ok q' ∧ p'.Rearranged q' := by
  induction parts generalizing p q with
  | nil =>
    obtain rfl := Except.ok.inj ok
    exact ⟨q, rfl, h⟩
  | cons part parts ih =>
    rw [List.foldlM_cons] at ok
    obtain ⟨next, here, ok⟩ := bind_eq_ok_iff.1 ok
    obtain ⟨other, there, same⟩ := h.follow tree.node here
    obtain ⟨last, later, ends⟩ := ih same (tree.follow there) ok
    exact ⟨last, by rw [List.foldlM_cons]; exact bind_eq_ok_iff.2 ⟨other, there, later⟩, ends⟩

end Place.Rearranged

namespace Node.Proper

/-- names in a proper tree are names of files -/
theorem names_of_at? {n m : Node} (h : n.Proper) {way : List String} (there : n.at? way = some m) :
    ∀ name ∈ way, Path.IsName name := by
  induction way generalizing n with
  | nil => exact fun name none => (nomatch none)
  | cons name way ih =>
    cases h with
    | file content => cases there
    | directory distinct names inner =>
      obtain ⟨next, found, there⟩ := Option.bind_eq_some_iff.1 there
      have member := (Table.lookup_eq_some_iff_mem distinct).1 found
      exact List.forall_mem_cons.2 ⟨names _ member, ih (inner _ member) there⟩

end Node.Proper

/-! ## Lists of files -/

namespace Files

variable {files : Files} {start extension path : String} {place : Place} {way : List String}

/-- a path from the start to a file with the extension, along names that are not passed over -/
inductive Lists (files : Files) (start extension : String) : String → Prop where
  | file {place : Place} {way : List String} {content : Content} {name : String} : files.find start = .ok place →
    place.node.at? way = some (.file content) → (∀ name ∈ way, name.toList.head? ≠ some '.' ∧ name ≠ "__pycache__") →
    Path.name? (way.foldl Path.join start) = some name → HasExtension name extension →
    Lists files start extension (way.foldl Path.join start)

/-- the ways to the files of a list, in order -/
def ways (start extension : String) (n : Node) : List (List String) :=
  (n.walk.filter fun way => (way.getLast?.or (Path.name? start)).bind Path.extension? == some extension).mergeSort
    fun a b => !decide (b < a)

theorem declarationFiles_eq (found : files.find start = .ok place) :
    files.declarationFiles start extension =
      (ways start extension place.node).map fun way => way.foldl Path.join start := by
  rw [declarationFiles, found]
  rfl

theorem mem_ways_iff {n : Node} (tree : n.Proper) : way ∈ ways start extension n ↔
    (∃ content, n.at? way = some (.file content)) ∧ (∀ name ∈ way, isPassedOver name = false) ∧
      ∃ name, Path.name? (way.foldl Path.join start) = some name ∧ HasExtension name extension := by
  rw [ways, (List.mergeSort_perm _ _).mem_iff, List.mem_filter, tree.mem_walk_iff, and_assoc]
  refine and_congr_right fun ⟨content, there⟩ => and_congr_right fun seen => ?_
  have steps (name : String) (hn : name ∈ way) : Path.IsStep name :=
    (tree.names_of_at? there name hn).step (seen name hn)
  rw [Path.name?_foldl_join steps, beq_iff_eq, Option.bind_eq_some_iff]
  exact exists_congr fun name => and_congr_right fun _ => Path.extension?_eq_some_iff

theorem not_decide_iff {a b : List String} : (!decide (b < a)) = true ↔ ¬ b < a := by
  rw [Bool.not_eq_true', decide_eq_false_iff_not]

theorem ways_sorted (n : Node) : (ways start extension n).Pairwise fun a b => ¬ b < a := by
  have trans (a b c : List String) (first : (!decide (b < a)) = true) (second : (!decide (c < b)) = true) :
      (!decide (c < a)) = true := by
    rw [not_decide_iff, List.not_lt] at first second ⊢
    exact List.le_trans first second
  have total (a b : List String) : (!decide (b < a) || !decide (a < b)) = true := by
    rw [Bool.or_eq_true, not_decide_iff, not_decide_iff, List.not_lt, List.not_lt]
    exact List.le_total a b
  exact (List.pairwise_mergeSort trans total _).imp fun before => not_decide_iff.1 before

/-- no way is before another that is before it -/
theorem eq_of_not_lt {a b : List String} (before : ¬ b < a) (after : ¬ a < b) : a = b :=
  List.le_antisymm (List.not_lt.1 before) (List.not_lt.1 after)

theorem ways_increasing {n : Node} (tree : n.Proper) : (ways start extension n).Pairwise (· < ·) := by
  have once : (ways start extension n).Nodup :=
    (List.mergeSort_perm _ _).nodup_iff.2 (tree.nodup_walk.filter _)
  refine (ways_sorted n).imp₂ (fun a b before other => ?_) once
  exact Decidable.byContradiction fun after => other (eq_of_not_lt before after)

/-- two lists of the same ways in order are the same list -/
theorem ways_of_rearranged {n m : Node} (h : n.Rearranged m) : ways start extension m = ways start extension n := by
  refine List.Perm.eq_of_pairwise (fun a b _ _ => eq_of_not_lt) (ways_sorted m) (ways_sorted n) ?_
  exact (List.mergeSort_perm _ _).trans ((h.back.walk_perm.filter _).trans (List.mergeSort_perm _ _).symm)

theorem find_of_rearranged {top : Node} (h : files.top.Rearranged top) (proper : files.top.Proper)
    (found : files.find path = .ok place) : ∃ q, { files with top }.find path = .ok q ∧ place.Rearranged q := by
  unfold find at found ⊢
  split_ifs at found ⊢
  have start : Place.Rearranged ⟨files.top, []⟩ ⟨top, []⟩ := ⟨h, .nil⟩
  have tree : Place.Proper ⟨top, []⟩ := ⟨h.proper proper, fun e none => (nomatch none)⟩
  exact start.followAll tree found

/-- the list does not change with the order in which directories hold their entries -/
theorem declarationFiles_of_rearranged {top : Node} (h : files.top.Rearranged top) (proper : files.top.Proper)
    (start extension : String) :
    { files with top }.declarationFiles start extension = files.declarationFiles start extension := by
  cases found : files.find start with
  | ok place =>
    obtain ⟨other, there, same⟩ := find_of_rearranged h proper found
    rw [declarationFiles_eq found, declarationFiles_eq there, ways_of_rearranged same.node]
  | error e =>
    cases there : { files with top }.find start with
    | error e' => rw [declarationFiles, declarationFiles, found, there]
    | ok other =>
      obtain ⟨place, here, -⟩ := find_of_rearranged h.back (h.proper proper) there
      rw [found] at here
      cases here

theorem mem_declarationFiles_iff (proper : files.top.Proper) :
    path ∈ files.declarationFiles start extension ↔ files.Lists start extension path := by
  constructor
  · intro member
    cases found : files.find start with
    | error e =>
      rw [declarationFiles, found] at member
      cases member
    | ok place =>
      rw [declarationFiles_eq found] at member
      obtain ⟨way, listed, rfl⟩ := List.mem_map.1 member
      obtain ⟨⟨content, there⟩, seen, name, named, extended⟩ := (mem_ways_iff (find_proper proper found)).1 listed
      exact .file found there (fun name hn => not_or.1 (mt isPassedOver_iff.2 (by simp [seen name hn]))) named extended
  · rintro ⟨found, there, seen, named, extended⟩
    rw [declarationFiles_eq found]
    refine List.mem_map_of_mem ((mem_ways_iff (find_proper proper found)).2 ?_)
    refine ⟨⟨_, there⟩, fun name hn => ?_, _, named, extended⟩
    rw [← Bool.not_eq_true, isPassedOver_iff, not_or]
    exact seen name hn

/-- the paths are in order, part by part -/
theorem declarationFiles_increasing (proper : files.top.Proper) (start extension : String) :
    (files.declarationFiles start extension).Pairwise fun a b => Path.components a < Path.components b := by
  cases found : files.find start with
  | error e =>
    rw [declarationFiles, found]
    exact .nil
  | ok place =>
    have tree := find_proper proper found
    rw [declarationFiles_eq found, List.pairwise_map]
    refine (ways_increasing tree).imp_of_mem fun {a b} ha hb before => ?_
    have steps (way : List String) (listed : way ∈ ways start extension place.node) :
        ∀ name ∈ way, Path.IsStep name := by
      obtain ⟨⟨content, there⟩, seen, -⟩ := (mem_ways_iff tree).1 listed
      exact fun name hn => (tree.names_of_at? there name hn).step (seen name hn)
    rw [Path.components_foldl_join (steps a ha), Path.components_foldl_join (steps b hb)]
    exact List.append_left_lt before

/-- the paths lead to files -/
theorem isFile_of_lists (proper : files.top.Proper) (h : files.Lists start extension path) :
    files.isFile path = true := by
  obtain ⟨found, there, seen, -, -⟩ := h
  have steps (name : String) (hn : name ∈ _) : Path.IsStep name :=
    ((find_proper proper found).names_of_at? there name hn).step
      (by rw [← Bool.not_eq_true, isPassedOver_iff, not_or]; exact seen name hn)
  obtain ⟨place, led, file⟩ := find_foldl_join steps found there
  rw [isFile, led]
  simp [file, Node.isDirectory]

end Files

/-! ## Main result -/

/-- **Which files are declarations.** Exactly the files at or below the start are listed whose name has the extension
and whose way from the start passes through no name that begins with a dot or is the name of a cache directory. Each is
listed once, in the order of the paths part by part, and its path leads to it; how the directories order their entries
makes no difference. Loading discovers these paths, and extraction goes through them in the same order. -/
theorem declaration_files_listed (files : Files) (proper : files.top.Proper) (start extension : String) :
    let listed := files.declarationFiles start extension
    (∀ path, path ∈ listed ↔ files.Lists start extension path) ∧
    (∀ path ∈ listed, files.isFile path = true) ∧
    listed.Nodup ∧ (listed.Pairwise fun a b => Path.components a < Path.components b) ∧
    (∀ top, files.top.Rearranged top → { files with top }.declarationFiles start extension = listed) ∧
    (∀ entries, Declarations.discover files start extension entries = listed.map fun path => .file path entries) ∧
    ∀ x : Extractor,
      let survey := listed.foldl (Survey.addFile files) ⟨x.clear.begin, none⟩
      x.extractDirectory files start extension = (⟨survey.skipped⟩, survey.result) := by
  intro listed
  refine ⟨fun path => Files.mem_declarationFiles_iff proper, fun path member => ?_,
    Files.nodup_declarationFiles proper start extension, Files.declarationFiles_increasing proper start extension,
    fun top h => Files.declarationFiles_of_rearranged h proper start extension, fun entries => rfl, fun x => rfl⟩
  exact Files.isFile_of_lists proper ((Files.mem_declarationFiles_iff proper).1 member)

/-- a directory whose list is in another order than the texts of the paths, among names that are passed over -/
def benchInner : List (String × Node) :=
  [("b.py", .file (.text "")), (".x.py", .file (.text "")), ("notes.txt", .file (.text ""))]

def benchEntries : List (String × Node) :=
  [("a-b.py", .file (.text "")), ("__pycache__", .directory [("y.py", .file .bytes)]), (".py", .file (.text "")),
    ("a", .directory benchInner)]

def benchFiles : Files := ⟨.directory [("lab", .directory benchEntries)], "/"⟩

/-- the same files, each directory the other way round -/
def benchTurned : Node :=
  .directory [("lab", .directory [("a", .directory benchInner.reverse), (".py", .file (.text "")),
    ("__pycache__", .directory [("y.py", .file .bytes)]), ("a-b.py", .file (.text ""))])]

theorem benchFiles_proper : benchFiles.top.Proper := by
  have files : ∀ e ∈ benchInner, e.2.Proper := by
    simp only [benchInner, List.forall_mem_cons]
    exact ⟨.file _, .file _, .file _, by simp⟩
  have inner : (Node.directory benchInner).Proper := .directory (by decide) (by decide) files
  have cache : (Node.directory [("y.py", .file .bytes)]).Proper :=
    .directory (by decide) (by decide) (List.forall_mem_singleton.2 (.file _))
  have outer : ∀ e ∈ benchEntries, e.2.Proper := by
    simp only [benchEntries, List.forall_mem_cons]
    exact ⟨.file _, cache, .file _, inner, by simp⟩
  refine .directory (by decide) (by decide) (List.forall_mem_singleton.2 ?_)
  exact .directory (by decide) (by decide) outer

theorem benchTurned_rearranged : benchFiles.top.Rearranged benchTurned := by
  have inner : (Node.directory benchInner).Rearranged (.directory benchInner.reverse) :=
    .order (List.reverse_perm _).symm
  have entries : (Node.directory benchEntries).Rearranged
      (.directory (benchEntries.take 3 ++ [("a", .directory benchInner.reverse)])) :=
    @Node.Rearranged.inside (benchEntries.take 3) [] _ _ _ inner
  refine @Node.Rearranged.inside [] [] _ _ _ (.again entries (.order ?_))
  exact (List.reverse_perm _).symm

theorem benchFiles_listed : benchFiles.declarationFiles "lab" "py" = ["lab/a/b.py", "lab/a-b.py"] := by
  have sorted : [["a-b.py"], ["a", "b.py"]].mergeSort (fun a b => !decide (b < a)) = [["a", "b.py"], ["a-b.py"]] := by
    have before : ["a", "b.py"] < ["a-b.py"] := by decide
    simp [List.mergeSort, before]
  exact congrArg (List.map (List.foldl Path.join "lab")) sorted

theorem declaration_files_listed_bench :
    benchFiles.top.Proper ∧ benchFiles.declarationFiles "lab" "py" = ["lab/a/b.py", "lab/a-b.py"] ∧
    benchFiles.Lists "lab" "py" "lab/a/b.py" ∧ ¬ benchFiles.Lists "lab" "py" "lab/.py" ∧
    benchFiles.top.Rearranged benchTurned ∧
      { benchFiles with top := benchTurned }.declarationFiles "lab" "py" = ["lab/a/b.py", "lab/a-b.py"] := by
  obtain ⟨listed, -, -, -, turned, -⟩ := declaration_files_listed benchFiles benchFiles_proper "lab" "py"
  rw [benchFiles_listed] at listed turned
  exact ⟨benchFiles_proper, benchFiles_listed, (listed _).1 (by decide), fun h => absurd ((listed _).2 h) (by decide),
    benchTurned_rearranged, turned benchTurned benchTurned_rearranged⟩

end Trialbook
