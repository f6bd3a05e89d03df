/-
TABLES: what they hold.

- `get?_ofList`: a table made of entries holds, under each key, the last value given for it.
- `get?_ofList_of_nodup`: when no key is given twice, the order of the entries has no bearing on what the table holds.
- `mem_entries_iff`: the entries of a table are what look-up finds.
-/
import Mathlib.Tactic
import Trialbook.Table

namespace Trialbook.Table

variable {α : Type}

/-! ## Tables made of entries -/

/-- later entries replace earlier ones, and those replace what was there -/
theorem get?_foldl_insert (t : Table α) (entries : List (String × α)) (k : String) :
    (entries.foldl (fun t e => t.insert e.1 e.2) t).get? k = (entries.reverse.lookup k).or (t.get? k) := by
  induction entries generalizing t with
  | nil => rfl
  | cons e rest ih =>
    obtain ⟨key, value⟩ := e
    rw [List.foldl_cons, ih, get?_insert, List.reverse_cons, List.lookup_append, Option.or_assoc]
    by_cases h : k = key <;> simp [lookup_cons_ne, h]

theorem get?_ofList (entries : List (String × α)) (k : String) :
    (ofList entries).get? k = entries.reverse.lookup k := by
  rw [ofList, get?_foldl_insert, get?_empty, Option.or_none]

/-- where no key stands twice, look-up finds exactly the members -/
theorem lookup_eq_some_iff_mem {entries : List (String × α)} (h : (entries.map Prod.fst).Nodup) {k : String} {v : α} :
    entries.lookup k = some v ↔ (k, v) ∈ entries := by
  induction entries with
  | nil => simp
  | cons e rest ih =>
    obtain ⟨key, value⟩ := e
    obtain ⟨fresh, others⟩ := List.nodup_cons.1 h
    by_cases hk : k = key
    · subst hk
      have absent : (k, v) ∉ rest := fun hm => fresh (List.mem_map.2 ⟨(k, v), hm, rfl⟩)
      simp [absent, eq_comm]
    · simp [lookup_cons_ne hk, ih others, hk]

theorem get?_ofList_of_nodup {entries : List (String × α)} (h : (entries.map Prod.fst).Nodup) {k : String} {v : α} :
    (ofList entries).get? k = some v ↔ (k, v) ∈ entries := by
  have reversed : (entries.reverse.map Prod.fst).Nodup := by
    rw [List.map_reverse]; exact List.nodup_reverse.2 h
  rw [get?_ofList, lookup_eq_some_iff_mem reversed, List.mem_reverse]

/-! ## Entries -/

theorem nodup_keys (t : Table α) : (t.entries.map Prod.fst).Nodup := by
  refine List.pairwise_map.2 (t.ordered.imp fun {a b} before equal => ?_)
  exact String.lt_irrefl a.1 (by rw [equal] at before ⊢; exact before)

theorem mem_entries_iff (t : Table α) {k : String} {v : α} : (k, v) ∈ t.entries ↔ t.get? k = some v :=
  (lookup_eq_some_iff_mem t.nodup_keys).symm

end Trialbook.Table
