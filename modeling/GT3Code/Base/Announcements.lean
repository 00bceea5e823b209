import Mathlib.Logic.Function.Basic

/-! # A cell and its announcements

Writers set a cell and announce its new value afterwards, in a second step. Readers
know what they read last or what was announced to them last. Readers are caught up
where each of them knows the value of the cell, or an announcement of it is still to
come.
-/

namespace GT3Code.Base

universe u v w

/-- `known` is what a reader knows, `pending` what a writer has set and not announced. -/
@[ext] structure Cell (ι : Type u) (κ : Type v) (α : Type w) where
  value : Option α
  known : ι → Option α
  pending : κ → Option α

namespace Cell

variable {ι : Type u} {κ : Type v} {α : Type w}

def Covered (cell : Cell ι κ α) : Prop :=
  ∃ k v, cell.pending k = some v ∧ cell.value = some v

def CaughtUp (cell : Cell ι κ α) : Prop :=
  ∀ i v, cell.known i = some v → cell.value = some v ∨ cell.Covered

def announce [DecidableEq κ] (cell : Cell ι κ α) (k : κ) (v : α) : Cell ι κ α :=
  { cell with value := some v, pending := Function.update cell.pending k (some v) }

def write (cell : Cell ι κ α) (v : α) : Cell ι κ α := { cell with value := some v }

def read [DecidableEq ι] (cell : Cell ι κ α) (i : ι) : Cell ι κ α :=
  { cell with known := Function.update cell.known i ((cell.known i).or cell.value) }

def forget [DecidableEq ι] (cell : Cell ι κ α) (i : ι) : Cell ι κ α :=
  { cell with known := Function.update cell.known i none }

def drop [DecidableEq κ] (cell : Cell ι κ α) (k : κ) : Cell ι κ α :=
  { cell with pending := Function.update cell.pending k none }

/-- The writer makes its announcement, to the readers that listen. -/
def publish [DecidableEq κ] (cell : Cell ι κ α) (k : κ) (listens : ι → Prop)
    [DecidablePred listens] : Cell ι κ α :=
  { cell with
    known := fun i => if listens i then (cell.pending k).or (cell.known i) else cell.known i
    pending := Function.update cell.pending k none }

/-- The cell has the value already, or no reader knows any, or it will be announced. -/
def MayWrite (cell : Cell ι κ α) (v : α) : Prop :=
  cell.value = some v ∨ (∀ i, cell.known i = none) ∨ ∃ k, cell.pending k = some v

/-- The announcement is outdated, or another one says the same, or every reader that knows
something knows it already. -/
def MayDrop (cell : Cell ι κ α) (k : κ) : Prop :=
  ∀ v, cell.pending k = some v → cell.value = some v →
    (∃ l, l ≠ k ∧ cell.pending l = some v) ∨ ∀ i u, cell.known i = some u → u = v

/-- The cell has this value, or its value will be announced by another writer, or nobody
listens. -/
def MayPublish (cell : Cell ι κ α) (k : κ) (listens : ι → Prop) (v : α) : Prop :=
  cell.value = some v ∨ (∃ l w, l ≠ k ∧ cell.pending l = some w ∧ cell.value = some w) ∨
    ∀ i, ¬listens i

variable {cell : Cell ι κ α}

theorem caughtUp_of_covered (h : cell.Covered) : cell.CaughtUp := fun _ _ _ => Or.inr h

theorem caughtUp_of_unknown (h : ∀ i, cell.known i = none) : cell.CaughtUp := by
  intro i v hknown
  rw [h i] at hknown
  cases hknown

theorem caughtUp_announce [DecidableEq κ] (cell : Cell ι κ α) (k : κ) (v : α) :
    (cell.announce k v).CaughtUp :=
  caughtUp_of_covered ⟨k, v, Function.update_self .., rfl⟩

variable {v : α}

theorem CaughtUp.write (h : cell.CaughtUp) (hv : cell.MayWrite v) : (cell.write v).CaughtUp := by
  rcases hv with hv | hv | hv
  · have hsame : cell.write v = cell := by
      rw [Cell.write, ← hv]
    rwa [hsame]
  · exact caughtUp_of_unknown hv
  · rcases hv with ⟨k, hk⟩
    exact caughtUp_of_covered ⟨k, v, hk, rfl⟩

theorem CaughtUp.read [DecidableEq ι] (h : cell.CaughtUp) (i : ι) : (cell.read i).CaughtUp := by
  intro j v hknown
  by_cases hj : j = i
  · subst hj
    cases hold : cell.known j with
    | none =>
      left
      simpa [Cell.read, hold] using hknown
    | some u => exact h j v (by simpa [Cell.read, hold] using hknown)
  · exact h j v (by simpa [Cell.read, hj] using hknown)

theorem CaughtUp.forget [DecidableEq ι] (h : cell.CaughtUp) (i : ι) : (cell.forget i).CaughtUp := by
  intro j v hknown
  by_cases hj : j = i
  · subst hj
    simp [Cell.forget] at hknown
  · exact h j v (by simpa [Cell.forget, hj] using hknown)

theorem CaughtUp.drop [DecidableEq κ] (h : cell.CaughtUp) {k : κ} (hk : cell.MayDrop k) :
    (cell.drop k).CaughtUp := by
  intro i v hknown
  rcases h i v hknown with hv | ⟨l, w, hpending, hvalue⟩
  · exact Or.inl hv
  · by_cases hl : l = k
    · subst hl
      rcases hk w hpending hvalue with ⟨m, hm, hother⟩ | hall
      · refine Or.inr ⟨m, w, ?_, hvalue⟩
        simp [Cell.drop, hm, hother]
      · left
        rw [hall i v hknown]
        exact hvalue
    · refine Or.inr ⟨l, w, ?_, hvalue⟩
      simp [Cell.drop, hl, hpending]

theorem caughtUp_publish [DecidableEq κ] {k : κ} {listens : ι → Prop} [DecidablePred listens]
    (hk : cell.pending k = some v) (hlistens : ∀ i u, cell.known i = some u → listens i)
    (hv : cell.MayPublish k listens v) : (cell.publish k listens).CaughtUp := by
  rcases hv with hv | ⟨l, w, hl, hother, hvalue⟩ | hnone
  · intro i u hknown
    left
    by_cases hi : listens i
    · simp only [Cell.publish, hi, if_true, hk, Option.some_or, Option.some.injEq] at hknown
      rw [← hknown]
      exact hv
    · simp only [Cell.publish, hi, if_false] at hknown
      exact absurd (hlistens i u hknown) hi
  · refine caughtUp_of_covered ⟨l, w, ?_, hvalue⟩
    simp [Cell.publish, hl, hother]
  · refine caughtUp_of_unknown (fun i => ?_)
    simp only [Cell.publish, hnone i, if_false]
    cases hknown : cell.known i with
    | none => rfl
    | some u => exact absurd (hlistens i u hknown) (hnone i)

theorem CaughtUp.settled (h : cell.CaughtUp) (hpending : ∀ k, cell.pending k = none) {i : ι}
    (hknown : cell.known i = some v) : cell.value = some v := by
  rcases h i v hknown with hv | ⟨k, w, hk, -⟩
  · exact hv
  · rw [hpending k] at hk
    cases hk

end Cell

end GT3Code.Base
