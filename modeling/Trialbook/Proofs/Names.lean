/-
NAMES: what makes a name valid.

A valid name (`Name.Valid`) has one to twenty characters, a letter of seven bits or an underscore first, then such
letters, underscores and digits. `checkName_eq_ok_iff` and `checkName_eq_error_iff` say that the check refuses the
others, and for which of the two faults.
-/
import Mathlib.Tactic.ByContra
import Trialbook.Param.Spec

namespace Trialbook

/-! ## Spelling -/

namespace Name

/-- may begin a name -/
def Begins (c : Char) : Prop := ('A' ≤ c ∧ c ≤ 'Z') ∨ ('a' ≤ c ∧ c ≤ 'z') ∨ c = '_'

/-- may go on in a name -/
def GoesOn (c : Char) : Prop := Begins c ∨ ('0' ≤ c ∧ c ≤ '9')

/-- a character that may begin a name, and then ones that may go on in it -/
def Spelled (name : String) : Prop :=
  ∃ first rest, name.toList = first :: rest ∧ Begins first ∧ ∀ c ∈ rest, GoesOn c

/-- one to twenty characters -/
def Fits (name : String) : Prop := 1 ≤ name.length ∧ name.length ≤ 20

theorem isStart_iff {c : Char} : isStart c = true ↔ Begins c := by
  have upper : c.isUpper = true ↔ 'A' ≤ c ∧ c ≤ 'Z' := by
    unfold Char.isUpper
    simp [Char.le_def]
  have lower : c.isLower = true ↔ 'a' ≤ c ∧ c ≤ 'z' := by
    unfold Char.isLower
    simp [Char.le_def]
  unfold isStart Begins Char.isAlpha
  rw [Bool.or_eq_true, Bool.or_eq_true, upper, lower, beq_iff_eq, or_assoc]

theorem isLetter_iff {c : Char} : isLetter c = true ↔ GoesOn c := by
  have digit : c.isDigit = true ↔ '0' ≤ c ∧ c ≤ '9' := by simp [Char.isDigit, Char.le_def]
  rw [GoesOn, ← isStart_iff, ← digit, isLetter, isStart, Char.isAlphanum]
  simp only [Bool.or_eq_true]
  exact or_right_comm

theorem isWord_iff {name : String} : isWord name.toList = true ↔ Spelled name := by
  unfold Spelled
  cases chars : name.toList with
  | nil => simp [isWord]
  | cons first rest =>
    simp only [isWord, Bool.and_eq_true, List.all_eq_true, isStart_iff, isLetter_iff]
    constructor
    · intro h
      exact ⟨first, rest, rfl, h⟩
    · rintro ⟨_, _, same, h⟩
      cases same
      exact h

theorem fits_iff {name : String} : Fits name ↔ ¬ (name.length < 1 ∨ maxLength < name.length) := by
  unfold Fits maxLength
  omega

/-- one to twenty characters that spell a name -/
def Valid (name : String) : Prop := Fits name ∧ Spelled name

end Name

/-! ## The check -/

section

variable {name : String}

theorem checkName_of_not_fits (unfit : ¬ Name.Fits name) : checkName name = .error (.nameLength name) := by
  have size : name.length < 1 ∨ Name.maxLength < name.length := not_not.1 (mt Name.fits_iff.2 unfit)
  rw [checkName, Name.fault?, if_pos size]

theorem checkName_of_not_spelled (fits : Name.Fits name) (other : ¬ Name.Spelled name) :
    checkName name = .error (.nameLetters name) := by
  rw [checkName, Name.fault?, if_neg (Name.fits_iff.1 fits), if_neg (mt Name.isWord_iff.1 other)]

theorem checkName_of_valid (valid : Name.Valid name) : checkName name = .ok () := by
  rw [checkName, Name.fault?, if_neg (Name.fits_iff.1 valid.1), if_pos (Name.isWord_iff.2 valid.2)]

theorem checkName_eq_ok_iff : checkName name = .ok () ↔ Name.Valid name := by
  refine ⟨fun named => ?_, checkName_of_valid⟩
  by_contra invalid
  by_cases fits : Name.Fits name
  · rw [checkName_of_not_spelled fits fun spelled => invalid ⟨fits, spelled⟩] at named
    cases named
  · rw [checkName_of_not_fits fits] at named
    cases named

theorem checkName_eq_error_iff {e : SpecError} : checkName name = .error e ↔
    (¬ Name.Fits name ∧ .nameLength name = e) ∨ Name.Fits name ∧ ¬ Name.Spelled name ∧ .nameLetters name = e := by
  by_cases fits : Name.Fits name
  · by_cases spelled : Name.Spelled name
    · simp [checkName_of_valid ⟨fits, spelled⟩, fits, spelled]
    · simp [checkName_of_not_spelled fits spelled, fits, spelled]
  · simp [checkName_of_not_fits fits, fits]

end

end Trialbook
