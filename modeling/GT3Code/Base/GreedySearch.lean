import Mathlib.Order.Bounds.Basic
import Mathlib.Order.Nat

/-! # Growing while it fits

A count is raised by one as long as the next one fits, and lowered again until one fits. Where
fitting is closed downwards below the bound, only the bound itself can be missed.
-/

namespace GT3Code.Base

variable (fits : Nat → Bool)

/-- Raise the count at most `room` times. -/
@[grind] def raiseWhileFits : Nat → Nat → Nat
  | 0, count => count
  | room + 1, count => if fits (count + 1) then raiseWhileFits room (count + 1) else count

@[grind] def lowerUntilFits : Nat → Option Nat
  | 0 => if fits 0 then some 0 else none
  | count + 1 => if fits (count + 1) then some (count + 1) else lowerUntilFits count

def Fitting (bound : Nat) : Set Nat := {count | count ≤ bound ∧ fits count = true}

/-- What is found is the greatest count that fits, and nothing is found where none does. -/
def FindsGreatest (bound : Nat) (found : Option Nat) : Prop :=
  (∀ count, found = some count → IsGreatest (Fitting fits bound) count) ∧
    (found = none → ∀ count ≤ bound, fits count = false)

variable {fits}

theorem le_raiseWhileFits (room count : Nat) :
    count ≤ raiseWhileFits fits room count ∧ raiseWhileFits fits room count ≤ count + room := by
  induction room generalizing count with
  | zero => exact ⟨le_refl _, le_refl _⟩
  | succ room ih =>
    rw [raiseWhileFits]
    split
    · have hrest := ih (count + 1)
      omega
    · omega

theorem fits_of_le_raiseWhileFits {room count k : Nat} (hlow : count < k)
    (hhigh : k ≤ raiseWhileFits fits room count) : fits k = true := by
  induction room generalizing count with
  | zero =>
    rw [raiseWhileFits] at hhigh
    omega
  | succ room ih =>
    rw [raiseWhileFits] at hhigh
    split at hhigh
    · rename_i hnext
      rcases Nat.eq_or_lt_of_le hlow with rfl | hlater
      · exact hnext
      · exact ih hlater hhigh
    · omega

theorem raiseWhileFits_stops {room count : Nat} (h : raiseWhileFits fits room count < count + room) :
    fits (raiseWhileFits fits room count + 1) = false := by
  induction room generalizing count with
  | zero => exact absurd h (Nat.lt_irrefl _)
  | succ room ih =>
    rw [raiseWhileFits] at h ⊢
    split at h
    · rename_i hnext
      rw [if_pos hnext]
      exact ih (by omega)
    · rename_i hnext
      rw [if_neg hnext]
      simpa using hnext

variable {count : Nat}

theorem lowerUntilFits_of_fits (h : fits count = true) :
    lowerUntilFits fits count = some count := by
  cases count <;> simp [lowerUntilFits, h]

theorem lowerUntilFits_eq_some {found : Nat} (h : lowerUntilFits fits count = some found) :
    found ≤ count ∧ fits found = true := by
  induction count with
  | zero =>
    rw [lowerUntilFits] at h
    split at h
    · rename_i hfits
      cases h
      exact ⟨le_refl _, hfits⟩
    · cases h
  | succ count ih =>
    rw [lowerUntilFits] at h
    split at h
    · rename_i hfits
      cases h
      exact ⟨le_refl _, hfits⟩
    · exact (ih h).imp_left (fun hle => Nat.le_succ_of_le hle)

theorem lowerUntilFits_eq_none (h : lowerUntilFits fits count = none) {k : Nat} (hk : k ≤ count) :
    fits k = false := by
  induction count with
  | zero =>
    rw [lowerUntilFits] at h
    split at h
    · cases h
    · rename_i hzero
      rw [Nat.le_zero.mp hk]
      simpa using hzero
  | succ count ih =>
    rw [lowerUntilFits] at h
    split at h
    · cases h
    · rename_i hlast
      rcases Nat.le_succ_iff.mp hk with hk | rfl
      · exact ih h hk
      · simpa using hlast

def ClosedBelow (fits : Nat → Bool) (bound : Nat) : Prop :=
  ∀ low high, low ≤ high → high < bound → fits high = true → fits low = true

theorem findsGreatest_iff {bound : Nat} (hclosed : ClosedBelow fits bound) :
    FindsGreatest fits bound (lowerUntilFits fits (raiseWhileFits fits bound 0)) ↔
      (1 < bound → fits bound = true → fits (bound - 1) = true) := by
  have hle := (@le_raiseWhileFits fits bound 0).2
  have hreached := fun k => @fits_of_le_raiseWhileFits fits bound 0 k
  have hstops := @raiseWhileFits_stops fits bound 0
  generalize raiseWhileFits fits bound 0 = top at hle hreached hstops ⊢
  constructor
  · intro hfinds hbound hfits
    by_contra hbefore
    have htop : top < bound - 1 := by
      by_contra hhigh
      exact hbefore (hreached (bound - 1) (by omega) (by omega))
    cases hfound : lowerUntilFits fits top with
    | none =>
      have hnone := hfinds.2 hfound bound (le_refl _)
      rw [hfits] at hnone
      cases hnone
    | some count =>
      have hgreatest := (hfinds.1 count hfound).2 ⟨le_refl bound, hfits⟩
      have hcount := (lowerUntilFits_eq_some hfound).1
      omega
  · intro hexact
    -- above the top only the bound could fit, and then the count before it would
    have habove : ∀ count, top < count → count ≤ bound → fits count = false := by
      intro count hcount hbound
      have hstop := hstops (by omega)
      by_contra hfits
      rw [Bool.not_eq_false] at hfits
      rcases Nat.lt_or_eq_of_le hbound with hlt | rfl
      · rw [hclosed (top + 1) count hcount hlt hfits] at hstop
        cases hstop
      · rcases Nat.eq_or_lt_of_le hcount with heq | hlater
        · rw [← heq] at hfits
          rw [hfits] at hstop
          cases hstop
        · have hbefore := hexact (by omega) hfits
          rw [hclosed (top + 1) (count - 1) (by omega) (by omega) hbefore] at hstop
          cases hstop
    refine ⟨fun count hfound => ?_, fun hfound count hbound => ?_⟩
    · have hcount := lowerUntilFits_eq_some hfound
      refine ⟨⟨hcount.1.trans (by omega), hcount.2⟩, fun other hother => ?_⟩
      by_contra hlarger
      have htop : top = count := by
        by_contra hne
        rcases Nat.eq_zero_or_pos top with rfl | hpos
        · omega
        · have hself := lowerUntilFits_of_fits (hreached top hpos (le_refl _))
          rw [hfound] at hself
          cases hself
          exact hne rfl
      have habsent := habove other (by omega) hother.1
      rw [hother.2] at habsent
      cases habsent
    · rcases Nat.eq_zero_or_pos top with rfl | hpos
      · rcases Nat.eq_zero_or_pos count with rfl | hcount
        · exact lowerUntilFits_eq_none hfound (le_refl 0)
        · exact habove count hcount hbound
      · rw [lowerUntilFits_of_fits (hreached top hpos (le_refl _))] at hfound
        cases hfound

end GT3Code.Base
