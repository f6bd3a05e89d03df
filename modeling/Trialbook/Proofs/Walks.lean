/-
WALKS: no file is met twice.

A tree is proper (`Node.Proper`) when every directory in it holds each name once and all its names are names of files:
not empty, without slashes. Every tree that a process sees is so.

Results:
- `Files.find_proper`: a path in a proper tree leads to a proper tree.
- `Node.nodup_walk`: the ways of a walk differ.
- `Path.foldl_join_inj`: ways that differ give paths that differ.
- `Files.nodup_declarationFiles`: so the declaration files have different paths.
-/
import Mathlib.Tactic
import Trialbook.Files.Walk
import Trialbook.Proofs.SplitTexts
import Trialbook.Proofs.Traversals

namespace Trialbook

/-! ## Names -/

namespace Path

/-- a name that a file may have -/
structure IsName (name : String) : Prop where
  some : name ≠ ""
  single : '/' ∉ name.toList

instance (name : String) : Decidable (IsName name) :=
  decidable_of_iff (name ≠ "" ∧ '/' ∉ name.toList) ⟨fun h => ⟨h.1, h.2⟩, fun h => ⟨h.some, h.single⟩⟩

variable {base name : String} {way : List String}

/-- what stands between a path and a name that is joined to it -/
def gap (base : String) : List Char :=
  if base.isEmpty || base.toList.getLast? == some '/' then [] else ['/']

theorem IsName.toList_ne_nil (h : IsName name) : name.toList ≠ [] := by
  intro none
  exact h.some (String.toList_inj.1 none)

theorem toList_join_of_relative (relative : isAbsolute name = false) (base : String) :
    (join base name).toList = base.toList ++ gap base ++ name.toList := by
  by_cases slash : (base.isEmpty || base.toList.getLast? == some '/') = true
  · simp [join, relative, gap, slash]
  · simp [join, relative, gap, slash]

theorem IsName.relative (h : IsName name) : isAbsolute name = false := by
  cases chars : name.toList with
  | nil => exact absurd chars h.toList_ne_nil
  | cons c cs =>
    have other : c ≠ '/' := by
      rintro rfl
      exact h.single (chars ▸ List.mem_cons_self)
    simpa [isAbsolute, chars] using other

theorem toList_join (h : IsName name) (base : String) :
    (join base name).toList = base.toList ++ gap base ++ name.toList := toList_join_of_relative h.relative base

/-- a slash stands after a name, since no name ends in one -/
theorem gap_join (h : IsName name) (base : String) : gap (join base name) = ['/'] := by
  have chars := toList_join h base
  have last : (join base name).toList.getLast? = name.toList.getLast? := by
    rw [chars, List.getLast?_append_of_ne_nil _ h.toList_ne_nil]
  have noSlash : name.toList.getLast? ≠ some '/' := by
    intro slash
    exact h.single (List.mem_of_getLast? slash)
  have some : (join base name).isEmpty = false := by
    rw [← Bool.not_eq_true, String.isEmpty_iff, ← String.toList_inj, chars]
    simp [h.some]
  rw [gap, last, some]
  simpa using noSlash

/-- the path at the end of a way is the names on it, with slashes between them -/
theorem toList_foldl_join (some : way ≠ []) (names : ∀ name ∈ way, IsName name) (base : String) :
    (way.foldl join base).toList = base.toList ++ gap base ++ ['/'].intercalate (way.map String.toList) := by
  induction way generalizing base with
  | nil => exact absurd rfl some
  | cons name way ih =>
    obtain ⟨here, later⟩ := List.forall_mem_cons.1 names
    rw [List.foldl_cons]
    cases way with
    | nil =>
      rw [List.foldl_nil, toList_join here]
      simp
    | cons next way =>
      rw [ih (List.cons_ne_nil next way) later, toList_join here, gap_join here]
      simp [List.intercalate_cons_cons]

/-- different ways from one place lead to different paths -/
theorem foldl_join_inj {a b : List String} (ha : ∀ name ∈ a, IsName name) (hb : ∀ name ∈ b, IsName name)
    (h : a.foldl join base = b.foldl join base) : a = b := by
  have names (way : List String) (hw : ∀ name ∈ way, IsName name) : ∀ piece ∈ way.map String.toList, '/' ∉ piece := by
    intro piece hp
    obtain ⟨name, hn, rfl⟩ := List.mem_map.1 hp
    exact (hw name hn).single
  have leaves (way : List String) (hw : ∀ name ∈ way, IsName name) (some : way ≠ []) : way.foldl join base ≠ base := by
    intro same
    have chars := toList_foldl_join some hw base
    rw [same, List.append_assoc] at chars
    have none := (List.append_eq_nil_iff.1 (List.self_eq_append_right.1 chars)).2
    have pieces := Text.split_intercalate (by simpa using some) (names way hw)
    have empty : [] ∈ way.map String.toList := by
      rw [← pieces, none]
      exact List.mem_singleton_self []
    obtain ⟨name, hn, empty⟩ := List.mem_map.1 empty
    exact (hw name hn).toList_ne_nil empty
  by_cases noA : a = []
  · by_contra other
    subst noA
    exact leaves b hb (Ne.symm other) h.symm
  · by_cases noB : b = []
    · subst noB
      exact absurd h (leaves a ha noA)
    · have chars := congrArg String.toList h
      rw [toList_foldl_join noA ha, toList_foldl_join noB hb, List.append_cancel_left_eq] at chars
      have pieces := congrArg (Text.split '/') chars
      rw [Text.split_intercalate (by simpa using noA) (names a ha),
        Text.split_intercalate (by simpa using noB) (names b hb)] at pieces
      exact List.map_injective_iff.2 (fun _ _ => String.toList_inj.1) pieces

end Path

/-! ## Proper trees -/

namespace Node

/-- every directory holds names of files, each once -/
inductive Proper : Node → Prop where
  | file (content : Content) : Proper (.file content)
  | directory {entries : List (String × Node)} : (entries.map Prod.fst).Nodup → (∀ e ∈ entries, Path.IsName e.1) →
    (∀ e ∈ entries, Proper e.2) → Proper (.directory entries)

theorem walkEntries_eq (entries : List (String × Node)) : walkEntries entries =
    entries.flatMap fun e => if isPassedOver e.1 then [] else e.2.walk.map (e.1 :: ·) := by
  induction entries with
  | nil => rfl
  | cons e entries ih => rw [walkEntries, ih, List.flatMap_cons]

namespace Proper

variable {n : Node}

theorem nodup_walk (h : n.Proper) : n.walk.Nodup := by
  induction h with
  | file content => exact List.nodup_singleton []
  | directory distinct names _ ih =>
    rw [walk, walkEntries_eq, List.nodup_flatMap]
    constructor
    · intro e he
      split_ifs
      · exact List.nodup_nil
      · exact (ih e he).map (List.cons_injective)
    · -- ways into different entries differ in their first name
      refine (List.pairwise_map.1 distinct).imp fun {a b} other => ?_
      intro way ha hb
      dsimp only at ha hb
      split_ifs at ha hb
      · cases ha
      · cases ha
      · cases hb
      · obtain ⟨wayA, -, rfl⟩ := List.mem_map.1 ha
        obtain ⟨wayB, -, same⟩ := List.mem_map.1 hb
        exact other (List.cons.inj same).1.symm

theorem names_of_mem_walk (h : n.Proper) {way : List String} (member : way ∈ n.walk) :
    ∀ name ∈ way, Path.IsName name := by
  induction h generalizing way with
  | file content =>
    obtain rfl := List.mem_singleton.1 member
    exact fun name none => (nomatch none)
  | directory _ names _ ih =>
    rw [walk, walkEntries_eq] at member
    obtain ⟨e, he, member⟩ := List.mem_flatMap.1 member
    split_ifs at member
    · cases member
    · obtain ⟨rest, below, rfl⟩ := List.mem_map.1 member
      exact List.forall_mem_cons.2 ⟨names e he, ih e he below⟩

end Proper

end Node

/-! ## Paths in proper trees -/

/-- every node on the way to a place is proper -/
structure Place.Proper (p : Place) : Prop where
  top : p.top.Proper
  trail : ∀ e ∈ p.trail, e.2.Proper

theorem Place.Proper.node {p : Place} (h : p.Proper) : p.node.Proper := by
  unfold Place.node
  split
  · rename_i trail
    exact h.trail _ (trail ▸ List.mem_cons_self)
  · exact h.top

theorem Place.Proper.follow {p q : Place} (h : p.Proper) {part : String} (ok : p.follow part = .ok q) : q.Proper := by
  unfold Place.follow at ok
  split at ok
  · cases ok
  · rename_i entries node
    split_ifs at ok
    · cases ok
      exact h
    · cases ok
      exact ⟨h.top, fun e he => h.trail e (List.mem_of_mem_tail he)⟩
    · split at ok
      · rename_i n found
        cases ok
        have directory := h.node
        rw [node] at directory
        cases directory with
        | directory _ _ inner =>
          refine ⟨h.top, List.forall_mem_cons.2 ⟨?_, h.trail⟩⟩
          obtain ⟨before, after, split, -⟩ := List.lookup_eq_some_iff.1 found
          exact inner (part, n) (split ▸ List.mem_append_right before List.mem_cons_self)
      · cases ok

namespace Files

theorem find_proper {files : Files} (proper : files.top.Proper) {path : String} {place : Place}
    (found : files.find path = .ok place) : place.node.Proper := by
  unfold find at found
  split_ifs at found
  have start : Place.Proper ⟨files.top, []⟩ := ⟨proper, fun e none => (nomatch none)⟩
  have ends : place.Proper := foldlM_keeps (fun p part q hp ok => hp.follow ok) start found
  exact ends.node

/-- no file is listed twice -/
theorem nodup_declarationFiles {files : Files} (proper : files.top.Proper) (start extension : String) :
    (files.declarationFiles start extension).Nodup := by
  unfold declarationFiles
  split
  · exact List.nodup_nil
  · rename_i place found
    have tree := find_proper proper found
    refine List.Nodup.map_on ?_ ?_
    · intro a ha b hb same
      have walkedA := (List.mem_filter.1 ((List.mergeSort_perm _ _).mem_iff.1 ha)).1
      have walkedB := (List.mem_filter.1 ((List.mergeSort_perm _ _).mem_iff.1 hb)).1
      exact Path.foldl_join_inj (tree.names_of_mem_walk walkedA) (tree.names_of_mem_walk walkedB) same
    · exact (List.mergeSort_perm _ _).nodup_iff.2 (tree.nodup_walk.filter _)

end Files

end Trialbook
