import Mathlib.Data.List.Basic

/-! # Scanning in chunks

A scanner looks at the head of its input. It takes some elements from there, which it
keeps or drops together, or it waits for more; what it waits with is put before the
next chunk. Where more input changes nothing about a head that was taken, the chunks do
not matter.
-/

namespace GT3Code.Base

universe u

variable {α : Type u}

/-- How many elements the head takes and whether they are kept, or none to wait. -/
abbrev ScanHead (α : Type u) := List α → Option (Nat × Bool)

inductive Scans (head : ScanHead α) : List α → List α → List α → Prop where
  | done : Scans head [] [] []
  | wait {input : List α} (hne : input ≠ []) (hhead : head input = none) :
      Scans head input [] input
  | take {input kept pending : List α} {n : Nat} {keep : Bool} (hne : input ≠ [])
      (hhead : head input = some (n, keep)) (hrest : Scans head (input.drop n) kept pending) :
      Scans head input ((if keep then input.take n else []) ++ kept) pending

/-- A head that takes something of its input, and the same of any longer one. -/
structure ScanHead.Stable (head : ScanHead α) : Prop where
  within : ∀ {input n keep}, input ≠ [] → head input = some (n, keep) → 0 < n ∧ n ≤ input.length
  stable : ∀ {input n keep}, input ≠ [] → head input = some (n, keep) →
    ∀ more, head (input ++ more) = some (n, keep)

variable {head : ScanHead α} {input more kept kept' pending pending' : List α}

theorem Scans.unique (h : Scans head input kept pending) (h' : Scans head input kept' pending') :
    kept = kept' ∧ pending = pending' := by
  induction h generalizing kept' pending' with
  | done =>
    cases h' with
    | done => exact ⟨rfl, rfl⟩
    | wait hne => exact absurd rfl hne
    | take hne => exact absurd rfl hne
  | wait hne hhead =>
    cases h' with
    | done => exact absurd rfl hne
    | wait => exact ⟨rfl, rfl⟩
    | take _ hhead' => cases hhead.symm.trans hhead'
  | take hne hhead _ ih =>
    cases h' with
    | done => exact absurd rfl hne
    | wait _ hhead' => cases hhead.symm.trans hhead'
    | take _ hhead' hrest' =>
      cases hhead.symm.trans hhead'
      obtain ⟨rfl, rfl⟩ := ih hrest'
      exact ⟨rfl, rfl⟩

theorem Scans.append (hstable : head.Stable) {kept pending : List α}
    (h : Scans head input kept pending) (hmore : Scans head (pending ++ more) kept' pending') :
    Scans head (input ++ more) (kept ++ kept') pending' := by
  induction h with
  | done => exact hmore
  | wait => exact hmore
  | @take input kept pending n keep hne hhead _ ih =>
    have hwithin := (hstable.within hne hhead).2
    have hnext := ih hmore
    rw [← List.drop_append_of_le_length hwithin] at hnext
    rw [List.append_assoc, ← @List.take_append_of_le_length _ _ more _ hwithin]
    exact .take (by simp [hne]) (hstable.stable hne hhead more) hnext

theorem Scans.pieces (hstable : head.Stable) (h : Scans head input kept pending) :
    ∃ pieces : List (List α × Bool),
      input = (pieces.map Prod.fst).flatten ++ pending ∧
      kept = ((pieces.filter Prod.snd).map Prod.fst).flatten ∧
      (∀ piece ∈ pieces, ∃ rest, piece.1 ++ rest ≠ [] ∧
        head (piece.1 ++ rest) = some (piece.1.length, piece.2)) ∧
      (pending = [] ∨ head pending = none) := by
  induction h with
  | done => exact ⟨[], rfl, rfl, by simp, Or.inl rfl⟩
  | wait _ hhead => exact ⟨[], rfl, rfl, by simp, Or.inr hhead⟩
  | @take input kept pending n keep hne hhead _ ih =>
    obtain ⟨pieces, hinput, hkept, hpieces, hpending⟩ := ih
    have hwithin := (hstable.within hne hhead).2
    refine ⟨(input.take n, keep) :: pieces, ?_, ?_, ?_, hpending⟩
    · rw [List.map_cons, List.flatten_cons, List.append_assoc, ← hinput, List.take_append_drop]
    · cases keep <;> simp [hkept]
    · intro piece hpiece
      rcases List.mem_cons.mp hpiece with rfl | hlater
      · refine ⟨input.drop n, ?_, ?_⟩
        · rwa [List.take_append_drop]
        · rw [List.take_append_drop, List.length_take, Nat.min_eq_left hwithin]
          exact hhead
      · exact hpieces piece hlater

end GT3Code.Base
