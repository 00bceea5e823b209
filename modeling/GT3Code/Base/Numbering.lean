import Mathlib.Data.List.Basic

/-! # Numbers handed out from a log

Entries of a log belong to owners and carry numbers. A writer reads the log, keeps the
number its owner has or takes the next free one, and appends its entry later, when
others may have appended theirs. The rules say when the numbers stay one to an owner.
-/

namespace GT3Code.Base

universe u v

variable {E : Type u} {O : Type v} (owner : E → O) (number : E → Nat)

def OneOwner (log : List E) : Prop :=
  ∀ left ∈ log, ∀ right ∈ log, number left = number right → owner left = owner right

def OneNumber (log : List E) : Prop :=
  ∀ left ∈ log, ∀ right ∈ log, owner left = owner right → number left = number right

/-- Below a number of the log every number from one is in the log. -/
def Consecutive (log : List E) : Prop :=
  ∀ entry ∈ log, 0 < number entry ∧
    ∀ count, 0 < count → count < number entry → ∃ other ∈ log, number other = count

/-- The entry takes the number after all those of `known`, for an owner without one. -/
structure TakesNext (known : List E) (entry : E) : Prop where
  newOwner : ∀ other ∈ known, owner other ≠ owner entry
  highest : ∀ other ∈ known, number other < number entry
  positive : 0 < number entry
  below : ∀ count, 0 < count → count < number entry → ∃ other ∈ known, number other = count

/-- The entry repeats the number its owner has in `known`. -/
def Repeats (known : List E) (entry : E) : Prop :=
  ∃ other ∈ known, owner other = owner entry ∧ number other = number entry

variable {owner number}

variable {entry : E} {known since : List E}

variable {log : List E}

theorem oneOwner_append :
    OneOwner owner number (log ++ [entry]) ↔
      OneOwner owner number log ∧
        ∀ other ∈ log, number other = number entry → owner other = owner entry := by
  constructor
  · intro h
    constructor
    · intro left hleft right hright
      exact h left (List.mem_append_left _ hleft) right (List.mem_append_left _ hright)
    · intro other hother
      exact h other (List.mem_append_left _ hother) entry (by simp)
  · rintro ⟨hlog, hentry⟩ left hleft right hright heq
    rcases List.mem_append.mp hleft with hleft | hleft
    · rcases List.mem_append.mp hright with hright | hright
      · exact hlog left hleft right hright heq
      · rw [List.mem_singleton.mp hright] at heq ⊢
        exact hentry left hleft heq
    · rw [List.mem_singleton.mp hleft] at heq ⊢
      rcases List.mem_append.mp hright with hright | hright
      · exact (hentry right hright heq.symm).symm
      · rw [List.mem_singleton.mp hright]

theorem oneOwner_append_iff (hlog : OneOwner owner number (known ++ since))
    (hread : TakesNext owner number known entry ∨ Repeats owner number known entry) :
    OneOwner owner number (known ++ since ++ [entry]) ↔
      ∀ other ∈ since, number other = number entry → owner other = owner entry := by
  rw [oneOwner_append]
  constructor
  · rintro ⟨-, hentry⟩ other hother
    exact hentry other (List.mem_append_right _ hother)
  · intro hsince
    refine ⟨hlog, ?_⟩
    intro other hother heq
    rcases List.mem_append.mp hother with hknown | hlater
    · rcases hread with hnext | ⟨held, hheld, hheldOwner, hheldNumber⟩
      · have := hnext.highest other hknown
        omega
      · rw [← hheldOwner]
        exact hlog other hother held (List.mem_append_left _ hheld) (heq.trans hheldNumber.symm)
    · exact hsince other hlater heq

theorem number_eq_of_owner (hnumber : OneNumber owner number (known ++ since))
    (hconsecutive : Consecutive number (known ++ since))
    (hread : TakesNext owner number known entry ∨ Repeats owner number known entry)
    (happend : OneOwner owner number (known ++ since ++ [entry])) {other : E}
    (hother : other ∈ known ++ since) (howner : owner other = owner entry) :
    number other = number entry := by
  rcases hread with hnext | ⟨held, hheld, hheldOwner, hheldNumber⟩
  · obtain ⟨hlog, hentry⟩ := oneOwner_append.mp happend
    obtain ⟨hpositive, hbelow⟩ := hconsecutive other hother
    rcases Nat.lt_trichotomy (number other) (number entry) with hless | heq | hmore
    -- a number below the next is of an owner already known
    · obtain ⟨held, hheld, hheldNumber⟩ := hnext.below (number other) hpositive hless
      have hsame := hlog held (List.mem_append_left _ hheld) other hother hheldNumber
      exact absurd (hsame.trans howner) (hnext.newOwner held hheld)
    · exact heq
    -- the next number would be of a second owner
    · obtain ⟨held, hheld, hheldNumber⟩ := hbelow (number entry) hnext.positive hmore
      have hsame := hentry held hheld hheldNumber
      have := hnumber held hheld other hother (hsame.trans howner.symm)
      omega
  · rw [← hheldNumber]
    exact hnumber other hother held (List.mem_append_left _ hheld) (howner.trans hheldOwner.symm)

theorem oneNumber_append (hnumber : OneNumber owner number (known ++ since))
    (hconsecutive : Consecutive number (known ++ since))
    (hread : TakesNext owner number known entry ∨ Repeats owner number known entry)
    (happend : OneOwner owner number (known ++ since ++ [entry])) :
    OneNumber owner number (known ++ since ++ [entry]) := by
  have hentry : ∀ other ∈ known ++ since, owner other = owner entry → number other = number entry :=
    fun other hother => number_eq_of_owner hnumber hconsecutive hread happend hother
  intro left hleft right hright heq
  rcases List.mem_append.mp hleft with hleft | hleft
  · rcases List.mem_append.mp hright with hright | hright
    · exact hnumber left hleft right hright heq
    · rw [List.mem_singleton.mp hright] at heq ⊢
      exact hentry left hleft heq
  · rw [List.mem_singleton.mp hleft] at heq ⊢
    rcases List.mem_append.mp hright with hright | hright
    · exact (hentry right hright heq.symm).symm
    · rw [List.mem_singleton.mp hright]

theorem consecutive_append (hconsecutive : Consecutive number (known ++ since))
    (hread : TakesNext owner number known entry ∨ Repeats owner number known entry) :
    Consecutive number (known ++ since ++ [entry]) := by
  have hentry : 0 < number entry ∧ ∀ count, 0 < count → count < number entry →
      ∃ other ∈ known ++ since, number other = count := by
    rcases hread with hnext | ⟨held, hheld, -, hheldNumber⟩
    · refine ⟨hnext.positive, ?_⟩
      intro count hpositive hless
      obtain ⟨other, hother, hcount⟩ := hnext.below count hpositive hless
      exact ⟨other, List.mem_append_left _ hother, hcount⟩
    · rw [← hheldNumber]
      exact hconsecutive held (List.mem_append_left _ hheld)
  intro other hother
  have hlower : 0 < number other ∧ ∀ count, 0 < count → count < number other →
      ∃ found ∈ known ++ since, number found = count := by
    rcases List.mem_append.mp hother with hold | hnew
    · exact hconsecutive other hold
    · rw [List.mem_singleton.mp hnew]
      exact hentry
  refine ⟨hlower.1, ?_⟩
  intro count hpositive hless
  obtain ⟨found, hfound, hcount⟩ := hlower.2 count hpositive hless
  exact ⟨found, List.mem_append_left _ hfound, hcount⟩

theorem takesNext_of_highest {highest : Nat} (hconsecutive : Consecutive number log)
    (howner : ∀ other ∈ log, owner other ≠ owner entry)
    (hbound : ∀ other ∈ log, number other ≤ highest)
    (hattained : 0 < highest → ∃ other ∈ log, number other = highest)
    (hnumber : number entry = highest + 1) : TakesNext owner number log entry where
  newOwner := howner
  highest other hother := by
    have := hbound other hother
    omega
  positive := by omega
  below count hpositive hless := by
    obtain ⟨top, htop, htopNumber⟩ := hattained (by omega)
    rcases Nat.lt_or_ge count highest with hlower | hhigher
    · exact (hconsecutive top htop).2 count hpositive (by omega)
    · exact ⟨top, htop, by omega⟩

end GT3Code.Base
