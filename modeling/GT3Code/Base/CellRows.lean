import Mathlib.Data.List.Infix

/-! # Rows of cells

A text laid out in rows, and its cells by row and column. The last row may go on further than the
text does.
-/

namespace GT3Code.Base

variable {α : Type*}

/-- `xs` from `start` up to `finish`. -/
def slice (start finish : Nat) (xs : List α) : List α := (xs.drop start).take (finish - start)

structure CellPosition where
  row : Nat
  column : Nat

def cellAt : List (List α) → Nat → Option CellPosition
  | [], _ => none
  | row :: rest, index =>
    if index < row.length then some ⟨0, index⟩
    else (cellAt rest (index - row.length)).map (fun cell => ⟨cell.row + 1, cell.column⟩)

def readTo (rows : List (List α)) (last : CellPosition) : List α :=
  (rows.take last.row).flatten ++ (rows[last.row]?.getD []).take (last.column + 1)

def readCells (rows : List (List α)) (first last : CellPosition) : List α :=
  (readTo (rows.drop first.row) ⟨last.row - first.row, last.column⟩).drop first.column

@[simp] theorem readTo_zero (row : List α) (rest : List (List α)) (column : Nat) :
    readTo (row :: rest) ⟨0, column⟩ = row.take (column + 1) := by
  simp [readTo]

@[simp] theorem readTo_succ (row : List α) (rest : List (List α)) (index column : Nat) :
    readTo (row :: rest) ⟨index + 1, column⟩ = row ++ readTo rest ⟨index, column⟩ := by
  simp [readTo]

theorem readCells_zero (rows : List (List α)) (column : Nat) (last : CellPosition) :
    readCells rows ⟨0, column⟩ last = (readTo rows last).drop column := rfl

@[simp] theorem readCells_succ (row : List α) (rest : List (List α))
    (firstRow firstColumn lastRow lastColumn : Nat) :
    readCells (row :: rest) ⟨firstRow + 1, firstColumn⟩ ⟨lastRow + 1, lastColumn⟩ =
      readCells rest ⟨firstRow, firstColumn⟩ ⟨lastRow, lastColumn⟩ := by
  simp [readCells]

theorem readCells_drop (rows : List (List α)) (skipped : Nat) (first last : CellPosition) :
    readCells (rows.drop skipped) first last =
      readCells rows ⟨skipped + first.row, first.column⟩ ⟨skipped + last.row, last.column⟩ := by
  rw [readCells, readCells, List.drop_drop, Nat.add_sub_add_left]

variable {index : Nat} {rows : List (List α)}

variable {row : List α} {rest text : List (List α)} {cell first final : CellPosition}
  {start last : Nat}

theorem cellAt_lt (h : index < row.length) : cellAt (row :: rest) index = some ⟨0, index⟩ := by
  rw [cellAt, if_pos h]

theorem cellAt_ge (h : row.length ≤ index) :
    cellAt (row :: rest) index =
      (cellAt rest (index - row.length)).map (fun cell => ⟨cell.row + 1, cell.column⟩) := by
  rw [cellAt, if_neg (by omega)]

theorem exists_cellAt (h : index < rows.flatten.length) :
    ∃ cell, cellAt rows index = some cell := by
  induction rows generalizing index with
  | nil => simp at h
  | cons row rest ih =>
    by_cases hrow : index < row.length
    · exact ⟨_, cellAt_lt hrow⟩
    · rw [List.flatten_cons, List.length_append] at h
      obtain ⟨cell, hcell⟩ := @ih (index - row.length) (by omega)
      rw [cellAt_ge (by omega), hcell]
      exact ⟨_, rfl⟩

theorem readTo_of_cellAt (h : cellAt rows index = some cell) :
    readTo rows cell = rows.flatten.take (index + 1) := by
  induction rows generalizing index cell with
  | nil => cases h
  | cons row rest ih =>
    rw [List.flatten_cons]
    by_cases hrow : index < row.length
    · rw [cellAt_lt hrow] at h
      cases h
      rw [readTo_zero, List.take_append_of_le_length (by omega)]
    · rw [cellAt_ge (by omega)] at h
      obtain ⟨inner, hinner, rfl⟩ := Option.map_eq_some_iff.mp h
      have hall : row.take (index + 1) = row := List.take_of_length_le (by omega)
      have hleft : index - row.length + 1 = index + 1 - row.length := by omega
      rw [readTo_succ, ih hinner, List.take_append, hall, hleft]

theorem readCells_of_cellAt (hle : start ≤ last) (hfirst : cellAt rows start = some first)
    (hlast : cellAt rows last = some final) :
    readCells rows first final = slice start (last + 1) rows.flatten := by
  have hslice : slice start (last + 1) rows.flatten =
      (rows.flatten.take (last + 1)).drop start := by
    rw [slice, List.drop_take]
  rw [hslice]
  clear hslice
  induction rows generalizing start last first final with
  | nil => cases hfirst
  | cons row rest ih =>
    by_cases hstart : start < row.length
    · rw [cellAt_lt hstart] at hfirst
      cases hfirst
      rw [readCells_zero, readTo_of_cellAt hlast]
    · rw [cellAt_ge (by omega)] at hfirst hlast
      obtain ⟨inner, hinner, rfl⟩ := Option.map_eq_some_iff.mp hfirst
      obtain ⟨outer, houter, rfl⟩ := Option.map_eq_some_iff.mp hlast
      have hall : row.take (last + 1) = row := List.take_of_length_le (by omega)
      have hnone : row.drop start = [] := List.drop_of_length_le (by omega)
      have hleft : last - row.length + 1 = last + 1 - row.length := by omega
      rw [readCells_succ, ih (by omega) hinner houter, List.flatten_cons, List.take_append,
        hall, List.drop_append, hnone, List.nil_append, hleft]

/-- `rows` has the rows of `text`, the last one as the start of a longer one, and maybe more. -/
def GoesOn (text rows : List (List α)) : Prop :=
  ∃ whole cut full rest, text = whole ++ [cut] ∧ rows = whole ++ full :: rest ∧ cut <+: full

theorem GoesOn.readTo (h : GoesOn text rows) (hcell : cellAt text index = some cell) :
    readTo rows cell = readTo text cell := by
  obtain ⟨whole, cut, full, rest, rfl, rfl, hcut⟩ := h
  induction whole generalizing index cell with
  | nil =>
    by_cases hindex : index < cut.length
    · rw [List.nil_append, cellAt_lt hindex] at hcell
      cases hcell
      obtain ⟨more, rfl⟩ := hcut
      rw [List.nil_append, List.nil_append, readTo_zero, readTo_zero,
        List.take_append_of_le_length (by omega)]
    · rw [List.nil_append, cellAt_ge (by omega)] at hcell
      cases hcell
  | cons row whole ih =>
    by_cases hrow : index < row.length
    · rw [List.cons_append, cellAt_lt hrow] at hcell
      cases hcell
      rw [List.cons_append, List.cons_append, readTo_zero, readTo_zero]
    · rw [List.cons_append, cellAt_ge (by omega)] at hcell
      obtain ⟨inner, hinner, rfl⟩ := Option.map_eq_some_iff.mp hcell
      rw [List.cons_append, List.cons_append, readTo_succ, readTo_succ, ih hinner]

theorem GoesOn.readCells (h : GoesOn text rows) (hle : start ≤ last)
    (hfirst : cellAt text start = some first) (hlast : cellAt text last = some final) :
    readCells rows first final = readCells text first final := by
  obtain ⟨whole, cut, full, rest, rfl, rfl, hcut⟩ := h
  induction whole generalizing start last first final with
  | nil =>
    by_cases hstart : start < cut.length
    · have hread := GoesOn.readTo ⟨[], cut, full, rest, rfl, rfl, hcut⟩ hlast
      rw [List.nil_append, cellAt_lt hstart] at hfirst
      cases hfirst
      rw [readCells_zero, readCells_zero, hread]
    · rw [List.nil_append, cellAt_ge (by omega)] at hfirst
      cases hfirst
  | cons row whole ih =>
    by_cases hstart : start < row.length
    · have hread := GoesOn.readTo ⟨row :: whole, cut, full, rest, rfl, rfl, hcut⟩ hlast
      rw [List.cons_append, cellAt_lt hstart] at hfirst
      cases hfirst
      rw [readCells_zero, readCells_zero, hread]
    · rw [List.cons_append, cellAt_ge (by omega)] at hfirst hlast
      obtain ⟨inner, hinner, rfl⟩ := Option.map_eq_some_iff.mp hfirst
      obtain ⟨outer, houter, rfl⟩ := Option.map_eq_some_iff.mp hlast
      rw [List.cons_append, List.cons_append, readCells_succ, readCells_succ,
        ih (by omega) hinner houter]

end GT3Code.Base
