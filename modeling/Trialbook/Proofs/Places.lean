/-
PLACES: where paths lead, told by names from the top.

`Node.at?` is what stands in a tree at the end of names, each looked up in turn. The way to a place is one through its
tree (`Place.Coherent`), so that a place is what stands at its names.

Results:
- `Path.parts_join`, `Path.join_join`: the parts of a path with one more name.
- `Files.find_join`: a path with one more name leads one name further.
- `Files.find_foldl_join`: a path with more names leads to what stands at them.
- `Place.at?_names`: a place is what stands at its names.
-/
import Trialbook.Proofs.Tables
import Trialbook.Proofs.Walks

namespace Trialbook

/-! ## Parts of paths -/

namespace Path

variable {base name part : String} {way : List String}

/-- a name that leads further, neither staying nor going up -/
structure IsStep (name : String) : Prop extends IsName name where
  stays : name ≠ "."
  rises : name ≠ ".."

theorem IsStep.not_isStay (h : IsStep name) : isStay name = false := by
  simp [isStay, h.some, h.stays]

/-- a path with one more name has one more part, but for an empty part at its end -/
theorem parts_join (h : IsName name) (base : String) : ∃ before, (parts base = before ∨ parts base = before ++ [""]) ∧
    parts (join base name) = before ++ [name] := by
  have last : Text.split '/' name.toList = [name.toList] := Text.split_of_not_mem h.single
  have single : (Text.split '/' name.toList).map String.ofList = [name] := by rw [last]; simp
  rw [parts, parts, toList_join h]
  by_cases slash : base.toList.getLast? = some '/'
  · obtain ⟨front, whole⟩ := List.getLast?_eq_some_iff.1 slash
    refine ⟨(Text.split '/' front).map String.ofList, .inr ?_, ?_⟩
    · rw [whole, Text.split_append_cons, List.map_append]
      rfl
    · rw [gap, if_pos (by simp [slash]), List.append_nil, whole, List.append_assoc, List.singleton_append,
        Text.split_append_cons, List.map_append, single]
  · by_cases empty : base = ""
    · subst empty
      exact ⟨[], .inr rfl, by simpa [gap] using single⟩
    · refine ⟨_, .inl rfl, ?_⟩
      rw [gap, if_neg (by simp [slash, empty]), List.append_assoc, List.singleton_append, Text.split_append_cons,
        List.map_append, single]

theorem gap_eq (base : String) : gap base = if base.toList.getLast?.getD '/' = '/' then [] else ['/'] := by
  by_cases empty : base = ""
  · subst empty
    rfl
  · have some : base.toList ≠ [] := mt String.toList_eq_nil_iff.1 empty
    obtain ⟨c, last⟩ := Option.ne_none_iff_exists'.1 (mt List.getLast?_eq_none_iff.1 some)
    simp [gap, empty, last]

/-- a path that ends in what is joined to another has the same gap after it -/
theorem gap_join_of_relative (relative : isAbsolute name = false) (base : String) : gap (join base name) = gap name := by
  rw [gap_eq, gap_eq name, toList_join_of_relative relative]
  cases last : name.toList.getLast? with
  | some c => rw [List.getLast?_append, last]; rfl
  | none =>
    have void := List.getLast?_eq_none_iff.1 last
    rw [void, List.append_nil, gap_eq]
    split
    next slash => simp [slash]
    next => simp

/-- joining one name after the other, or both at once -/
theorem join_join (h : IsName name) (here path : String) : join here (join path name) = join (join here path) name := by
  refine String.toList_inj.1 ?_
  by_cases absolute : isAbsolute path = true
  · have goesOn : isAbsolute (join path name) = true := by
      obtain ⟨rest, begins⟩ := List.head?_eq_some_iff.1 (beq_iff_eq.1 absolute)
      rw [isAbsolute, toList_join h, begins]
      rfl
    rw [join, if_pos goesOn, join.eq_def here path, if_pos absolute]
  · have relative : isAbsolute path = false := by simpa using absolute
    have relativeOn : isAbsolute (join path name) = false := by
      cases chars : path.toList with
      | nil =>
        have empty : path = "" := String.toList_eq_nil_iff.1 chars
        have same : join path name = name := String.toList_inj.1 (by rw [toList_join h, empty]; rfl)
        rw [same]
        exact h.relative
      | cons c cs =>
        rw [isAbsolute, chars] at relative
        rw [isAbsolute, toList_join h, chars]
        exact relative
    rw [toList_join_of_relative relativeOn, toList_join h, toList_join h, toList_join_of_relative relative,
      gap_join_of_relative relative]
    simp only [List.append_assoc]

/-- the parts of a path that lead somewhere -/
def components (path : String) : List String := (parts path).filter fun part => !isStay part

theorem components_join (h : IsStep name) (base : String) : components (join base name) = components base ++ [name] := by
  obtain ⟨before, whole | whole, more⟩ := parts_join h.toIsName base
  · rw [components, more, components, whole, List.filter_append]
    simp [h.not_isStay]
  · rw [components, more, components, whole, List.filter_append, List.filter_append]
    have empty : isStay "" = true := rfl
    simp [h.not_isStay, empty]

theorem components_foldl_join (steps : ∀ name ∈ way, IsStep name) (base : String) :
    components (way.foldl join base) = components base ++ way := by
  induction way generalizing base with
  | nil => simp
  | cons name way ih =>
    obtain ⟨here, later⟩ := List.forall_mem_cons.1 steps
    rw [List.foldl_cons, ih later, components_join here, List.append_assoc, List.singleton_append]

/-- the name of a path with one more name is that name -/
theorem name?_join (h : IsStep name) (base : String) : name? (join base name) = some name := by
  have last : (components (join base name)).getLast? = some name := by rw [components_join h]; simp
  rw [name?, ← components, last]
  split
  · rename_i same
    exact absurd (Option.some.inj same) h.rises
  · rfl

theorem name?_foldl_join (steps : ∀ name ∈ way, IsStep name) (base : String) :
    name? (way.foldl join base) = way.getLast?.or (name? base) := by
  rcases List.eq_nil_or_concat way with rfl | ⟨before, name, rfl⟩
  · rfl
  · rw [List.concat_eq_append, List.foldl_concat, name?_join (steps name (by simp)), List.getLast?_concat]
    rfl

end Path

/-! ## Nodes at names -/

namespace Node

variable {n m : Node} {name : String} {entries : List (String × Node)} {a b : List String}

/-- what stands at the end of names -/
def at? : Node → List String → Option Node
  | n, [] => some n
  | .file _, _ :: _ => none
  | .directory entries, name :: way => (entries.lookup name).bind (at? · way)

@[simp] theorem at?_nil (n : Node) : n.at? [] = some n := by cases n <;> rfl

theorem at?_append (n : Node) (a b : List String) : n.at? (a ++ b) = (n.at? a).bind (at? · b) := by
  induction a generalizing n with
  | nil => simp
  | cons name a ih =>
    cases n with
    | file content => rfl
    | directory entries =>
      rw [List.cons_append, at?, at?]
      cases entries.lookup name with
      | none => rfl
      | some inner => exact ih inner

end Node

/-! ## Following paths -/

namespace Place

variable {p q : Place} {name part : String}

/-- the way to a place is one through its tree -/
inductive Coherent (top : Node) : List (String × Node) → Prop where
  | start : Coherent top []
  | enter {trail : List (String × Node)} {entries : List (String × Node)} {name : String} {n : Node} :
    Coherent top trail → (Place.mk top trail).node = .directory entries → entries.lookup name = some n →
    Coherent top ((name, n) :: trail)

/-- a place is what stands at its names -/
theorem at?_names (h : Coherent p.top p.trail) : p.top.at? p.names = some p.node := by
  obtain ⟨top, trail⟩ := p
  change Coherent top trail at h
  induction h with
  | start => rfl
  | @enter trail entries name n _ directory found ih =>
    have whole : (Place.mk top ((name, n) :: trail)).names = (Place.mk top trail).names ++ [name] := by simp [names]
    rw [whole, Node.at?_append]
    change (top.at? (Place.mk top trail).names).bind _ = _
    rw [ih, directory, Option.bind_some, Node.at?, found]
    simp [node]

theorem Coherent.tail {top : Node} {trail : List (String × Node)} (h : Coherent top trail) :
    Coherent top trail.tail := by
  cases h with
  | start => exact .start
  | enter h => exact h

theorem follow_file {content : Content} (file : p.node = .file content) (part : String) :
    p.follow part = .error .notADirectory := by
  rw [follow, file]

/-- where a part leads from a directory: it stays, goes up, or enters what has its name -/
theorem follow_eq_ok_iff : p.follow part = .ok q ↔ ∃ entries, p.node = .directory entries ∧
    ((Path.isStay part = true ∧ q = p) ∨
      (Path.isStay part = false ∧ part = ".." ∧ q = { p with trail := p.trail.tail }) ∨
      (Path.isStay part = false ∧ part ≠ ".." ∧ ∃ n, entries.lookup part = some n ∧
        q = { p with trail := (part, n) :: p.trail })) := by
  cases node : p.node with
  | file content => simp [follow_file node]
  | directory entries =>
    rw [follow, node]
    by_cases stays : Path.isStay part = true
    · simp [stays, eq_comm]
    by_cases rises : part = ".."
    · subst rises
      simp [stays, eq_comm]
    · cases found : entries.lookup part <;> simp [stays, rises, found, eq_comm]

end Place

namespace Files

variable {files : Files} {path name : String} {place : Place}

/-- where a path leads; the empty path leads to the directory of the process -/
def reach (files : Files) (path : String) : Except FileError Place :=
  (Path.parts (Path.join files.here path)).foldlM Place.follow ⟨files.top, []⟩

theorem find_eq (some : path ≠ "") : files.find path = files.reach path := by
  rw [find, if_neg (by simpa using some), reach]

/-- a path with one more name leads one name further -/
theorem reach_join (h : Path.IsName name) (files : Files) (path : String) :
    files.reach (Path.join path name) = (files.reach path).bind fun place => place.follow name := by
  rw [reach, Path.join_join h, reach]
  obtain ⟨before, whole | whole, more⟩ := Path.parts_join h (Path.join files.here path)
  · rw [more, whole, List.foldlM_append]
    simp only [List.foldlM_cons, List.foldlM_nil, bind_pure]
    rfl
  · rw [more, whole, List.foldlM_append, List.foldlM_append]
    simp only [List.foldlM_cons, List.foldlM_nil, bind_pure]
    -- the empty part stays in a directory, and beyond a file no name leads either
    cases before.foldlM Place.follow ⟨files.top, []⟩ with
    | error e => rfl
    | ok place =>
      change place.follow name = (place.follow "").bind fun place => place.follow name
      cases node : place.node with
      | file content => rw [Place.follow_file node, Place.follow_file node]; rfl
      | directory entries =>
        have stays : place.follow "" = .ok place := Place.follow_eq_ok_iff.2 ⟨entries, node, .inl ⟨rfl, rfl⟩⟩
        rw [stays]
        rfl

theorem join_ne_empty (h : Path.IsName name) (path : String) : Path.join path name ≠ "" := by
  intro empty
  have chars := congrArg String.toList empty
  rw [Path.toList_join h] at chars
  exact h.toList_ne_nil (List.append_eq_nil_iff.1 chars).2

theorem find_join (h : Path.IsName name) (files : Files) (path : String) :
    files.find (Path.join path name) = (files.reach path).bind fun place => place.follow name := by
  rw [find_eq (join_ne_empty h path), reach_join h]

/-- a path with more names leads to what stands at them -/
theorem reach_foldl_join {way : List String} {n : Node} (steps : ∀ name ∈ way, Path.IsStep name)
    (reached : files.reach path = .ok place) (there : place.node.at? way = some n) :
    ∃ q, files.reach (way.foldl Path.join path) = .ok q ∧ q.node = n := by
  induction way generalizing path place with
  | nil =>
    rw [Node.at?_nil] at there
    exact ⟨place, reached, Option.some.inj there⟩
  | cons name way ih =>
    obtain ⟨here, later⟩ := List.forall_mem_cons.1 steps
    cases node : place.node with
    | file content => rw [node] at there; cases there
    | directory entries =>
      rw [node] at there
      obtain ⟨inner, found, there⟩ := Option.bind_eq_some_iff.1 there
      have follows : place.follow name = .ok { place with trail := (name, inner) :: place.trail } :=
        Place.follow_eq_ok_iff.2 ⟨entries, node, .inr (.inr ⟨here.not_isStay, here.rises, inner, found, rfl⟩)⟩
      have next : files.reach (Path.join path name) = .ok ⟨place.top, (name, inner) :: place.trail⟩ := by
        rw [reach_join here.toIsName, reached]
        exact follows
      exact ih later next there

theorem find_foldl_join {way : List String} {n : Node} (steps : ∀ name ∈ way, Path.IsStep name)
    (found : files.find path = .ok place) (there : place.node.at? way = some n) :
    ∃ q, files.find (way.foldl Path.join path) = .ok q ∧ q.node = n := by
  have start : path ≠ "" := by
    rintro rfl
    cases found
  have some : way.foldl Path.join path ≠ "" := by
    rcases List.eq_nil_or_concat way with rfl | ⟨before, name, rfl⟩
    · exact start
    · rw [List.concat_eq_append, List.foldl_concat]
      exact join_ne_empty (steps name (by simp)).toIsName _
  rw [find_eq start] at found
  rw [find_eq some]
  exact reach_foldl_join steps found there

end Files

end Trialbook
