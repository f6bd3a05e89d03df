/-
SPLIT TEXTS: pieces between separators, put together and taken apart.

- `split_intercalate`: pieces without a separator are the pieces of the text that they make.
- `intercalate_split`: every text is made of its pieces, and `not_mem_of_mem_split` says that none of them holds a
  separator.
- `takeWhile_ne_append`, `eq_of_dropWhile_ne`: what stands before the first occurrence of a character, and what follows.
-/
import Mathlib.Tactic
import Trialbook.Text.Split

namespace Trialbook.Text

variable {separator : Char} {cs rest piece : List Char}

theorem split_of_not_mem (h : separator ∉ cs) : split separator cs = [cs] := by
  induction cs with
  | nil => rfl
  | cons c cs ih =>
    obtain ⟨other, absent⟩ := not_or.1 (mt List.mem_cons.2 h)
    rw [split, if_neg (Ne.symm other), ih absent]

theorem split_append (h : separator ∉ cs) : split separator (cs ++ separator :: rest) = cs :: split separator rest := by
  induction cs with
  | nil => rw [List.nil_append, split, if_pos rfl]
  | cons c cs ih =>
    obtain ⟨other, absent⟩ := not_or.1 (mt List.mem_cons.2 h)
    rw [List.cons_append, split, if_neg (Ne.symm other), ih absent]

theorem split_intercalate {pieces : List (List Char)} (some : pieces ≠ []) (h : ∀ piece ∈ pieces, separator ∉ piece) :
    split separator ([separator].intercalate pieces) = pieces := by
  induction pieces with
  | nil => exact absurd rfl some
  | cons piece pieces ih =>
    cases pieces with
    | nil => rw [List.intercalate_singleton, split_of_not_mem (h piece List.mem_cons_self)]
    | cons next pieces =>
      have later := ih (List.cons_ne_nil next pieces) fun p hp => h p (List.mem_cons_of_mem piece hp)
      rw [List.intercalate_cons_cons, List.append_assoc, List.singleton_append,
        split_append (h piece List.mem_cons_self), later]

theorem split_ne_nil (separator : Char) (cs : List Char) : split separator cs ≠ [] := by
  cases cs with
  | nil => exact List.cons_ne_nil _ _
  | cons c cs =>
    rw [split]
    split_ifs
    · exact List.cons_ne_nil _ _
    · split <;> exact List.cons_ne_nil _ _

/-- a character that is no separator goes to the front of the first piece -/
theorem split_cons (other : c ≠ separator) (cs : List Char) : ∃ first others, split separator cs = first :: others ∧
    split separator (c :: cs) = (c :: first) :: others := by
  cases pieces : split separator cs with
  | nil => exact absurd pieces (split_ne_nil separator cs)
  | cons first others => exact ⟨first, others, rfl, by rw [split, if_neg other, pieces]⟩

theorem split_append_cons (separator : Char) (cs rest : List Char) :
    split separator (cs ++ separator :: rest) = split separator cs ++ split separator rest := by
  induction cs with
  | nil => exact split_append List.not_mem_nil
  | cons c cs ih =>
    by_cases same : c = separator
    · rw [List.cons_append, split, if_pos same, ih, split, if_pos same, List.cons_append]
    · obtain ⟨first, others, pieces, more⟩ := split_cons same cs
      rw [more, List.cons_append, split, if_neg same, ih, pieces]
      rfl

theorem intercalate_split (separator : Char) (cs : List Char) : [separator].intercalate (split separator cs) = cs := by
  induction cs with
  | nil => rfl
  | cons c cs ih =>
    by_cases same : c = separator
    · subst same
      obtain ⟨first, others, pieces⟩ := List.exists_cons_of_ne_nil (split_ne_nil c cs)
      rw [split, if_pos rfl, pieces, List.intercalate_cons_cons, ← pieces, ih]
      rfl
    · obtain ⟨first, others, pieces, more⟩ := split_cons same cs
      rw [pieces] at ih
      rw [more]
      cases others with
      | nil => simpa using ih
      | cons next others =>
        rw [List.intercalate_cons_cons] at ih ⊢
        exact congrArg (c :: ·) ih

theorem not_mem_of_mem_split (h : piece ∈ split separator cs) : separator ∉ piece := by
  induction cs generalizing piece with
  | nil =>
    obtain rfl := List.mem_singleton.1 h
    exact List.not_mem_nil
  | cons c cs ih =>
    by_cases same : c = separator
    · rw [split, if_pos same] at h
      rcases List.mem_cons.1 h with rfl | h
      · exact List.not_mem_nil
      · exact ih h
    · obtain ⟨first, others, pieces, more⟩ := split_cons same cs
      rw [more] at h
      rw [pieces] at ih
      rcases List.mem_cons.1 h with rfl | h
      · rintro (_ | ⟨_, inner⟩)
        · exact same rfl
        · exact ih List.mem_cons_self inner
      · exact ih (List.mem_cons_of_mem _ h)

/-! ## Up to a character -/

theorem takeWhile_ne_append {before after : List Char} {c : Char} (h : c ∉ before) :
    (before ++ c :: after).takeWhile (· != c) = before := by
  have all : ∀ x ∈ before, (x != c) = true := fun x hx => by
    simpa using fun he : x = c => h (he ▸ hx)
  rw [List.takeWhile_append_of_pos all]
  simp

theorem drop_length_takeWhile (p : Char → Bool) (l : List Char) : l.drop (l.takeWhile p).length = l.dropWhile p := by
  induction l with
  | nil => rfl
  | cons c rest ih => by_cases h : p c <;> simp [h, ih]

/-- what follows the longest beginning without `c` starts with `c` -/
theorem eq_of_dropWhile_ne {l rest : List Char} {c d : Char} (h : l.dropWhile (· != c) = d :: rest) : d = c := by
  have stops := List.head?_dropWhile_not (· != c) l
  rw [h] at stops
  simpa using stops

end Trialbook.Text
