/-
TABLES: values under texts as keys, one value a key, in the order of the keys.

`insert` puts a value under a key and replaces what was there; `get?` finds it. The order of the keys is that of their
characters, so a table has one form whatever the order of the insertions. An insertion changes what is under its own key
and nothing else (`get?_insert`).
-/
namespace Trialbook

/-- values under keys, in increasing order of the keys -/
structure Table (α : Type) where
  entries : List (String × α)
  ordered : entries.Pairwise fun a b => a.1 < b.1
  deriving DecidableEq, Repr

namespace Table

variable {α : Type}

def empty : Table α := ⟨[], .nil⟩

/-- puts a value under a key into entries in order -/
def put (key : String) (value : α) : List (String × α) → List (String × α)
  | [] => [(key, value)]
  | (k, v) :: rest =>
    if key < k then (key, value) :: (k, v) :: rest
    else if key = k then (key, value) :: rest
    else (k, v) :: put key value rest

theorem mem_put {key : String} {value : α} {entries : List (String × α)} {e : String × α}
    (h : e ∈ put key value entries) : e = (key, value) ∨ e ∈ entries := by
  induction entries with
  | nil => simpa [put] using h
  | cons head rest ih =>
    simp only [put] at h
    split at h
    · simpa using h
    · split at h <;> simp only [List.mem_cons] at h ⊢
      · rcases h with h | h
        · exact .inl h
        · exact .inr (.inr h)
      · rcases h with h | h
        · exact .inr (.inl h)
        · rcases ih h with h | h
          · exact .inl h
          · exact .inr (.inr h)

theorem put_ordered {key : String} {value : α} {entries : List (String × α)}
    (h : entries.Pairwise fun a b => a.1 < b.1) : (put key value entries).Pairwise fun a b => a.1 < b.1 := by
  induction entries with
  | nil => simp [put]
  | cons head rest ih =>
    obtain ⟨first, others⟩ := List.pairwise_cons.1 h
    simp only [put]
    split
    next before =>
      refine List.pairwise_cons.2 ⟨fun e he => ?_, h⟩
      rcases List.mem_cons.1 he with rfl | he
      · exact before
      · exact String.lt_trans before (first e he)
    next notBefore =>
      split
      next equal =>
        subst equal
        exact List.pairwise_cons.2 ⟨first, others⟩
      next different =>
        refine List.pairwise_cons.2 ⟨fun e he => ?_, ih others⟩
        rcases mem_put he with rfl | he
        · exact Decidable.byContradiction fun notAfter =>
            different (String.le_antisymm (String.not_lt.1 notAfter) (String.not_lt.1 notBefore))
        · exact first e he

/-- puts a value under a key -/
def insert (t : Table α) (key : String) (value : α) : Table α :=
  ⟨put key value t.entries, put_ordered t.ordered⟩

/-- the value under a key -/
def get? (t : Table α) (key : String) : Option α := t.entries.lookup key

/-- the table of entries of which later ones replace earlier ones -/
def ofList (entries : List (String × α)) : Table α :=
  entries.foldl (fun t e => t.insert e.1 e.2) empty

/-! ## What insertion changes -/

theorem lookup_cons_ne {key k : String} (h : k ≠ key) (value : α) (rest : List (String × α)) :
    ((key, value) :: rest).lookup k = rest.lookup k := by
  rw [List.lookup_cons, beq_eq_false_iff_ne.2 h]

theorem lookup_put (key k : String) (value : α) (entries : List (String × α)) :
    (put key value entries).lookup k = if k = key then some value else entries.lookup k := by
  induction entries with
  | nil => by_cases h : k = key <;> simp [put, lookup_cons_ne, h]
  | cons head rest ih =>
    obtain ⟨a, b⟩ := head
    simp only [put]
    split
    next before =>
      by_cases h : k = key
      · simp [h]
      · rw [lookup_cons_ne h, if_neg h]
    next notBefore =>
      split
      next equal =>
        subst equal
        by_cases h : k = key
        · simp [h]
        · rw [lookup_cons_ne h, lookup_cons_ne h, if_neg h]
      next different =>
        by_cases h : k = key
        · subst h
          rw [lookup_cons_ne different, ih, if_pos rfl, if_pos rfl]
        · rw [List.lookup_cons, List.lookup_cons, ih, if_neg h, if_neg h]

@[simp] theorem get?_empty (k : String) : (empty : Table α).get? k = none := rfl

theorem get?_insert (t : Table α) (key k : String) (value : α) :
    (t.insert key value).get? k = if k = key then some value else t.get? k :=
  lookup_put key k value t.entries

end Table

end Trialbook
