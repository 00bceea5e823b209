import Mathlib.Data.List.Sort

/-! # Paged reads of an ordered log

A reader fetches pages of rows whose key lies past a cursor, moves the cursor to
the last key of each page, and stops at an empty page or at a total limit. Over
rows with increasing keys this reads a prefix of the backlog.
-/

namespace GT3Code.Base

universe u

variable {α : Type u}

def backlog (key : α → Nat) (rows : List α) (cursor : Nat) : List α :=
  rows.filter (fun row => cursor < key row)

/-- Pages of at most `pageSize` rows until `remaining` rows are read. -/
def readPages (key : α → Nat) (pageSize : Nat) (rows : List α) (cursor remaining : Nat) : List α :=
  match (backlog key rows cursor).take (min remaining pageSize) with
  | [] => []
  | row :: page =>
    if h : remaining ≤ (row :: page).length then row :: page
    else
      (row :: page) ++ readPages key pageSize rows (key ((row :: page).getLast (by simp)))
        (remaining - (row :: page).length)
termination_by remaining
decreasing_by
  simp only [List.length_cons] at h ⊢
  omega

section Backlog

variable {key : α → Nat} {rows : List α}

variable {cursor : Nat} {rest page : List α}

variable {row : α}

theorem mem_backlog : row ∈ backlog key rows cursor ↔ row ∈ rows ∧ cursor < key row := by
  simp [backlog]

theorem backlog_pairwise (hsorted : rows.Pairwise (fun r s => key r < key s)) (cursor : Nat) :
    (backlog key rows cursor).Pairwise (fun r s => key r < key s) :=
  hsorted.sublist List.filter_sublist

theorem backlog_backlog {next : Nat} (h : cursor ≤ next) :
    backlog key (backlog key rows cursor) next = backlog key rows next := by
  unfold backlog
  rw [List.filter_filter]
  refine List.filter_congr (fun row _ => ?_)
  by_cases hnext : next < key row
  · simp [hnext, Nat.lt_of_le_of_lt h hnext]
  · simp [hnext]

theorem backlog_of_append {read : List α}
    (hsorted : (read ++ row :: rest).Pairwise (fun r s => key r < key s)) :
    backlog key (read ++ row :: rest) (key row) = rest := by
  rw [List.pairwise_append, List.pairwise_cons] at hsorted
  obtain ⟨-, ⟨hrest, -⟩, hread⟩ := hsorted
  have before : backlog key read (key row) = [] := by
    refine List.filter_eq_nil_iff.mpr (fun r hr => ?_)
    have := hread r hr row List.mem_cons_self
    simp only [decide_eq_true_eq]
    omega
  have behind : backlog key rest (key row) = rest :=
    List.filter_eq_self.mpr (fun r hr => by simpa using hrest r hr)
  unfold backlog at before behind ⊢
  rw [List.filter_append, List.filter_cons_of_neg (by simp), before, behind, List.nil_append]

theorem backlog_after_page (hpage : page ≠ [])
    (hsorted : rows.Pairwise (fun r s => key r < key s))
    (hsplit : backlog key rows cursor = page ++ rest) :
    backlog key rows (key (page.getLast hpage)) = rest := by
  have hmem : page.getLast hpage ∈ backlog key rows cursor := by
    rw [hsplit]
    exact List.mem_append_left _ (List.getLast_mem hpage)
  have hlast : page ++ rest = page.dropLast ++ page.getLast hpage :: rest := by
    conv_lhs => rw [← List.dropLast_append_getLast hpage]
    simp
  have hpairwise := backlog_pairwise hsorted cursor
  rw [hsplit, hlast] at hpairwise
  rw [← backlog_backlog (Nat.le_of_lt (mem_backlog.mp hmem).2), hsplit, hlast]
  exact backlog_of_append hpairwise

theorem readPages_eq_take {pageSize : Nat} (hsize : 0 < pageSize)
    (hsorted : rows.Pairwise (fun r s => key r < key s)) (cursor remaining : Nat) :
    readPages key pageSize rows cursor remaining =
      (backlog key rows cursor).take remaining := by
  induction remaining using Nat.strong_induction_on generalizing cursor with
  | _ remaining ih =>
    have hsplit := List.take_append_drop (min remaining pageSize) (backlog key rows cursor)
    have hlen : ((backlog key rows cursor).take (min remaining pageSize)).length =
        min (min remaining pageSize) (backlog key rows cursor).length := List.length_take
    rw [readPages]
    split
    · rename_i hpage
      rcases List.take_eq_nil_iff.mp hpage with hmin | hempty
      · have hzero : remaining = 0 := by omega
        simp [hzero]
      · simp [hempty]
    · rename_i row page hpage
      rw [hpage] at hsplit hlen
      split
      · rename_i hfull
        rw [← hpage]
        congr 1
        omega
      · rename_i hmore
        have hshorter : remaining - (row :: page).length < remaining := by
          simp only [List.length_cons] at hmore ⊢
          omega
        rw [ih _ hshorter, backlog_after_page (by simp) hsorted hsplit.symm]
        have hwhole : (row :: page).take remaining = row :: page :=
          List.take_of_length_le (by omega)
        conv_rhs => rw [← hsplit, List.take_append, hwhole]

def upTo (key : α → Nat) (rows : List α) (cursor : Nat) : List α :=
  rows.filter (fun row => key row ≤ cursor)

/-- The cursor after reading `page`. -/
def advance (key : α → Nat) (cursor : Nat) (page : List α) : Nat :=
  (page.getLast?.map key).getD cursor

@[simp] theorem advance_nil (cursor : Nat) : advance key cursor [] = cursor := rfl

theorem advance_of_ne_nil (hpage : page ≠ []) (cursor : Nat) :
    advance key cursor page = key (page.getLast hpage) := by
  simp [advance, List.getLast?_eq_some_getLast hpage]

theorem advance_append_singleton (cursor : Nat) (page : List α) (row : α) :
    advance key cursor (page ++ [row]) = key row := by
  simp [advance]

theorem upTo_append_backlog (hsorted : rows.Pairwise (fun r s => key r < key s)) (cursor : Nat) :
    upTo key rows cursor ++ backlog key rows cursor = rows := by
  induction rows with
  | nil => rfl
  | cons row rest ih =>
    rw [List.pairwise_cons] at hsorted
    by_cases h : key row ≤ cursor
    · have := ih hsorted.2
      simpa [upTo, backlog, h, Nat.not_lt.mpr h] using this
    · have hlater : ∀ r ∈ rest, ¬ key r ≤ cursor := by
        intro r hr
        have := hsorted.1 r hr
        omega
      have hnone : rest.filter (fun r => key r ≤ cursor) = [] :=
        List.filter_eq_nil_iff.mpr (fun r hr => by simpa using Nat.lt_of_not_le (hlater r hr))
      have hall : rest.filter (fun r => cursor < key r) = rest :=
        List.filter_eq_self.mpr (fun r hr => by simpa using Nat.lt_of_not_le (hlater r hr))
      simp [upTo, backlog, h, Nat.lt_of_not_le h, hnone, hall]

theorem backlog_advance (hsorted : rows.Pairwise (fun r s => key r < key s))
    (hsplit : backlog key rows cursor = page ++ rest) :
    backlog key rows (advance key cursor page) = rest := by
  by_cases hpage : page = []
  · simpa [hpage] using hsplit
  · rw [advance_of_ne_nil hpage]
    exact backlog_after_page hpage hsorted hsplit

theorem upTo_append_page (hsorted : rows.Pairwise (fun r s => key r < key s))
    (hsplit : backlog key rows cursor = page ++ rest) :
    upTo key rows cursor ++ page = upTo key rows (advance key cursor page) := by
  have hbefore := upTo_append_backlog hsorted cursor
  have hafter := upTo_append_backlog hsorted (advance key cursor page)
  rw [hsplit, ← List.append_assoc] at hbefore
  rw [backlog_advance hsorted hsplit] at hafter
  exact List.append_cancel_right (hbefore.trans hafter.symm)

theorem backlog_eq_nil_iff : backlog key rows cursor = [] ↔ ∀ row ∈ rows, key row ≤ cursor := by
  simp [backlog, List.filter_eq_nil_iff]

end Backlog

end GT3Code.Base
