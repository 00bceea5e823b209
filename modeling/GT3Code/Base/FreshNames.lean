import GT3Code.Base.JsonNumber

/-! # Names made fresh by a number

Decimal numbers as parts of names, and the search for the first numbered candidate that is not
taken. Candidates of different numbers differ, so the search ends.
-/

namespace GT3Code.Base

open GT3Code.Base.Json

universe u

theorem toString_injective : Function.Injective (toString : Nat → String) := by
  intro m n hsame
  have htext : m.repr = n.repr := hsame
  have hdigits := congrArg (fun text : String => Nat.ofDigitChars 10 text.toList 0) htext
  simpa only [Nat.toList_repr, Nat.ofDigitChars_ten_toDigits] using hdigits

def decimal (n : Nat) : Text := ascii (toString n)

theorem decimal_injective : Function.Injective decimal := by
  intro m n hsame
  have hchars : (toString m).toList = (toString n).toList :=
    List.map_injective_iff.mpr (fun _ _ h => Char.toNat_inj.mp h) hsame
  exact toString_injective (String.toList_inj.mp hchars)

theorem decimal_ne_nil (n : Nat) : decimal n ≠ [] := by
  intro hnil
  have hchars : (Nat.toDigits 10 n) = [] := by
    rw [decimal, ascii, List.map_eq_nil_iff, Nat.toString_eq_repr, Nat.toList_repr] at hnil
    exact hnil
  have hzero := Nat.length_toDigits_pos (b := 10) (n := n)
  simp [hchars] at hzero

theorem digit_of_mem_decimal {n : Nat} {u : CodeUnit} (h : u ∈ decimal n) : 48 ≤ u ∧ u ≤ 57 := by
  rw [decimal, ascii, List.mem_map] at h
  obtain ⟨c, hc, rfl⟩ := h
  rw [Nat.toString_eq_repr, Nat.toList_repr] at hc
  exact Char.isDigit_iff_toNat.mp (Nat.isDigit_of_mem_toDigits (by decide) (by decide) hc)

/-- `${base}-${n}` -/
def numbered (base : Text) (n : Nat) : Text := base ++ 45 :: decimal n

theorem numbered_injective (base : Text) : Function.Injective (numbered base) := by
  intro m n hsame
  exact decimal_injective (List.cons_injective (List.append_cancel_left hsame))

section

variable {α : Type u} [DecidableEq α] (candidate : Nat → α)

/-- The names that are not of a candidate before `n`. -/
def notPassed (taken : List α) (n : Nat) : List α :=
  taken.filter (fun name => name ∉ (List.range n).map candidate)

variable {candidate}

theorem length_notPassed_lt (hinj : Function.Injective candidate) {taken : List α} {n : Nat}
    (h : candidate n ∈ taken) :
    (notPassed candidate taken (n + 1)).length < (notPassed candidate taken n).length := by
  have hnew : candidate n ∈ notPassed candidate taken n := by
    rw [notPassed, List.mem_filter, decide_eq_true_iff, List.mem_map]
    refine ⟨h, ?_⟩
    rintro ⟨m, hm, hsame⟩
    rw [hinj hsame, List.mem_range] at hm
    exact lt_irrefl n hm
  have hstep : notPassed candidate taken (n + 1) =
      (notPassed candidate taken n).filter (fun name => name ≠ candidate n) := by
    rw [notPassed, notPassed, List.filter_filter]
    refine List.filter_congr (fun name _ => ?_)
    simp only [List.range_succ, List.map_append, List.map_singleton, List.mem_append,
      List.mem_singleton, not_or, Bool.decide_and, ne_eq, Bool.and_comm]
  rw [hstep, List.length_filter_lt_length_iff_exists]
  exact ⟨candidate n, hnew, by simp⟩

/-- The number of the first candidate from `n` on that is not taken. -/
@[grind] def firstFresh (candidate : Nat → α) (hinj : Function.Injective candidate) (taken : List α)
    (n : Nat) : Nat :=
  if candidate n ∈ taken then firstFresh candidate hinj taken (n + 1) else n
termination_by (notPassed candidate taken n).length
decreasing_by exact length_notPassed_lt hinj ‹_›

theorem candidate_firstFresh_notMem (hinj : Function.Injective candidate) (taken : List α)
    (n : Nat) : candidate (firstFresh candidate hinj taken n) ∉ taken := by
  fun_induction firstFresh candidate hinj taken n with
  | case1 n htaken ih => exact ih
  | case2 n hfresh => exact hfresh

end

end GT3Code.Base
