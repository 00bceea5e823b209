import Mathlib.Data.List.Range

/-! # Gap-free progress

A reader of a numbered sequence either jumps ahead, by loading a snapshot, or applies the
next item. Its frontier is the last number it has covered.
-/

namespace GT3Code.Base

inductive Progress where
  | loaded (sequence : Nat)
  | applied (sequence : Nat)

namespace Progress

def sequence : Progress → Nat
  | .loaded sequence | .applied sequence => sequence

def isApplied : Progress → Bool
  | .loaded _ => false
  | .applied _ => true

end Progress

def frontier (start : Nat) (log : List Progress) : Nat :=
  log.foldl (fun latest entry => max latest entry.sequence) start

@[grind] def GapFree : Nat → List Progress → Prop
  | _, [] => True
  | latest, .loaded sequence :: log => GapFree (max latest sequence) log
  | latest, .applied sequence :: log => sequence = latest + 1 ∧ GapFree sequence log

@[simp] theorem frontier_nil (start : Nat) : frontier start [] = start := rfl

@[simp] theorem frontier_cons (start : Nat) (entry : Progress) (log : List Progress) :
    frontier start (entry :: log) = frontier (max start entry.sequence) log := rfl

theorem frontier_append (start : Nat) (log later : List Progress) :
    frontier start (log ++ later) = frontier (frontier start log) later :=
  List.foldl_append

theorem le_frontier (start : Nat) (log : List Progress) : start ≤ frontier start log := by
  induction log generalizing start with
  | nil => exact Nat.le_refl start
  | cons entry log ih => exact le_trans (le_max_left _ _) (ih _)

variable {log : List Progress}

variable {start latest : Nat} {entry : Progress}

theorem sequence_le_frontier (h : entry ∈ log) : entry.sequence ≤ frontier start log := by
  induction log generalizing start with
  | nil => cases h
  | cons first log ih =>
    rcases List.mem_cons.mp h with rfl | hrest
    · exact le_trans (le_max_right _ _) (le_frontier _ log)
    · exact ih hrest

theorem frontier_le {bound : Nat} (hstart : start ≤ bound)
    (h : ∀ entry ∈ log, entry.sequence ≤ bound) : frontier start log ≤ bound := by
  induction log generalizing start with
  | nil => exact hstart
  | cons first log ih =>
    apply ih
    · exact max_le hstart (h first List.mem_cons_self)
    · intro entry hentry
      exact h entry (List.mem_cons_of_mem _ hentry)

theorem gapFree_append (start : Nat) (log later : List Progress) :
    GapFree start (log ++ later) ↔ GapFree start log ∧ GapFree (frontier start log) later := by
  induction log generalizing start with
  | nil => exact ⟨fun h => ⟨trivial, h⟩, fun h => h.2⟩
  | cons entry log ih =>
    cases entry with
    | loaded sequence => exact ih (max start sequence)
    | applied sequence =>
      show sequence = start + 1 ∧ GapFree sequence (log ++ later) ↔
        (sequence = start + 1 ∧ GapFree sequence log) ∧
          GapFree (frontier (max start sequence) log) later
      rw [ih sequence, and_assoc]
      constructor
      · intro h
        rw [max_eq_right (by omega)]
        exact h
      · intro h
        rw [max_eq_right (by omega)] at h
        exact h

theorem gapFree_applied_iff (latest : Nat) (sequences : List Nat) :
    GapFree latest (sequences.map .applied) ↔
      sequences = List.range' (latest + 1) sequences.length := by
  induction sequences generalizing latest with
  | nil => exact iff_of_true trivial rfl
  | cons sequence sequences ih =>
    show sequence = latest + 1 ∧ GapFree sequence (sequences.map .applied) ↔
      sequence :: sequences = List.range' (latest + 1) (sequences.length + 1)
    rw [ih sequence, List.range'_succ, List.cons.injEq]
    constructor
    · intro h
      exact ⟨h.1, h.1 ▸ h.2⟩
    · intro h
      exact ⟨h.1, h.1 ▸ h.2⟩

theorem GapFree.lt_of_applied (h : GapFree latest log) (hmem : entry ∈ log)
    (happlied : entry.isApplied = true) : latest < entry.sequence := by
  induction log generalizing latest with
  | nil => cases hmem
  | cons first log ih =>
    cases first with
    | loaded sequence =>
      rcases List.mem_cons.mp hmem with rfl | hrest
      · cases happlied
      · have hlater : max latest sequence < entry.sequence := ih h hrest
        omega
    | applied sequence =>
      have hnext : sequence = latest + 1 := h.1
      rcases List.mem_cons.mp hmem with rfl | hrest
      · show latest < sequence
        omega
      · have hlater : sequence < entry.sequence := ih h.2 hrest
        omega

theorem GapFree.pairwise (h : GapFree latest log) :
    log.Pairwise (fun earlier later =>
      later.isApplied = true → earlier.sequence < later.sequence) := by
  induction log generalizing latest with
  | nil => exact List.Pairwise.nil
  | cons first log ih =>
    cases first with
    | loaded sequence =>
      have hrest : GapFree (max latest sequence) log := h
      refine List.Pairwise.cons ?_ (ih hrest)
      intro later hlater happlied
      have hlt : max latest sequence < later.sequence := hrest.lt_of_applied hlater happlied
      show sequence < later.sequence
      omega
    | applied sequence =>
      refine List.Pairwise.cons ?_ (ih h.2)
      intro later hlater happlied
      exact h.2.lt_of_applied hlater happlied

end GT3Code.Base
