import GT3Code.Base.CellRows

/-! # Scanning for a pattern

A pattern says how much of a text it matches at its start. It is tried at each index that is not
part of the match before; what it matches is a slice of the text.
-/

namespace GT3Code.Base

variable {α : Type*}

abbrev Pattern (α : Type*) := List α → Option Nat

/-- The matches from an index on, of which `skip` elements belong to the last match. An empty match
is left out. -/
def matchesFrom (pattern : Pattern α) : Nat → Nat → List α → List (Nat × List α)
  | _, _, [] => []
  | skip + 1, index, _ :: rest => matchesFrom pattern skip (index + 1) rest
  | 0, index, u :: rest =>
    match pattern (u :: rest) with
    | some (length + 1) =>
      (index, (u :: rest).take (length + 1)) :: matchesFrom pattern length (index + 1) rest
    | _ => matchesFrom pattern 0 (index + 1) rest

def matchAll (pattern : Pattern α) (text : List α) : List (Nat × List α) :=
  matchesFrom pattern 0 0 text

variable {found text : List α} {start : Nat}

variable {index : Nat} {pattern : Pattern α}

theorem prefix_drop_cons {u : α} {rest : List α}
    (h : index + 1 ≤ start ∧ found <+: rest.drop (start - (index + 1))) :
    index ≤ start ∧ found <+: (u :: rest).drop (start - index) := by
  obtain ⟨hle, hprefix⟩ := h
  have hsucc : start - index = start - (index + 1) + 1 := by omega
  refine ⟨by omega, ?_⟩
  rw [hsucc, List.drop_succ_cons]
  exact hprefix

theorem mem_matchesFrom {skip : Nat} (h : (start, found) ∈ matchesFrom pattern skip index text) :
    index ≤ start ∧ found <+: text.drop (start - index) := by
  induction text generalizing skip index with
  | nil => simp [matchesFrom] at h
  | cons u rest ih =>
    cases skip with
    | succ skip => exact prefix_drop_cons (ih h)
    | zero =>
      unfold matchesFrom at h
      split at h
      · rcases List.mem_cons.mp h with hhead | hmem
        · cases hhead
          rw [Nat.sub_self, List.drop_zero]
          exact ⟨Nat.le_refl _, List.take_prefix _ _⟩
        · exact prefix_drop_cons (ih hmem)
      · exact prefix_drop_cons (ih h)

theorem mem_matchAll (h : (start, found) ∈ matchAll pattern text) : found <+: text.drop start :=
  (mem_matchesFrom h).2

theorem eq_slice_of_isPrefix {part : List α} (h : part <+: text.drop start) :
    part = slice start (start + part.length) text := by
  rw [slice, Nat.add_sub_cancel_left]
  exact List.prefix_iff_eq_take.mp h

end GT3Code.Base
