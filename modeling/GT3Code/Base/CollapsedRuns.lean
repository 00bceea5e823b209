import Mathlib.Data.List.Chain

/-! # Runs that become one item

Every run of picked items is replaced by one item. Runs of one item collapse to that item, which
leaves no two of it side by side and brings no two others together.
-/

namespace GT3Code.Base

variable {α : Type}

/-- Put `x` for every run of items that `p` picks; `inRun` where a run has begun. -/
@[grind] def collapseRuns (p : α → Bool) (x : α) : Bool → List α → List α
  | _, [] => []
  | inRun, y :: ys =>
    if p y then
      if inRun then collapseRuns p x true ys else x :: collapseRuns p x true ys
    else y :: collapseRuns p x false ys

variable {p : α → Bool} {x : α} {ys : List α}

theorem mem_collapseRuns {y : α} {inRun : Bool} (h : y ∈ collapseRuns p x inRun ys) :
    y = x ∨ y ∈ ys ∧ p y = false := by
  induction ys generalizing inRun with
  | nil => cases h
  | cons z zs ih =>
    have hlater : ∀ inRun, y ∈ collapseRuns p x inRun zs → y = x ∨ y ∈ z :: zs ∧ p y = false :=
      fun _ hrest => (ih hrest).imp_right (fun hin => ⟨List.mem_cons_of_mem _ hin.1, hin.2⟩)
    rw [collapseRuns] at h
    split_ifs at h with hpicked hrun
    · exact hlater _ h
    · obtain rfl | hrest := List.mem_cons.mp h
      · exact Or.inl rfl
      · exact hlater _ hrest
    · obtain rfl | hrest := List.mem_cons.mp h
      · exact Or.inr ⟨List.mem_cons_self, by simpa using hpicked⟩
      · exact hlater _ hrest

theorem collapseRuns_of_forall (h : ∀ y ∈ ys, p y = false) (inRun : Bool) :
    collapseRuns p x inRun ys = ys := by
  induction ys generalizing inRun with
  | nil => rfl
  | cons y ys ih =>
    rw [List.forall_mem_cons] at h
    rw [collapseRuns, if_neg (by simp [h.1]), ih h.2]

section

variable [DecidableEq α] {x : α} {xs ys : List α}

/-- No two neighbours are both `x`. -/
def NoDouble (x : α) (xs : List α) : Prop := xs.IsChain (fun a b => ¬(a = x ∧ b = x))

omit [DecidableEq α] in
theorem NoDouble.of_isInfix (h : NoDouble x xs) (hpart : ys <:+: xs) : NoDouble x ys :=
  List.IsChain.infix h hpart

theorem head?_collapseRuns (x : α) (ys : List α) :
    (collapseRuns (fun y => decide (y = x)) x false ys).head? = ys.head? := by
  cases ys with
  | nil => rfl
  | cons y ys =>
    rw [collapseRuns]
    by_cases hy : y = x <;> simp [hy]

theorem head?_collapseRuns_ne (x : α) (ys : List α) :
    (collapseRuns (fun y => decide (y = x)) x true ys).head? ≠ some x := by
  induction ys with
  | nil => simp [collapseRuns]
  | cons y ys ih =>
    rw [collapseRuns]
    by_cases hy : y = x
    · simpa [hy] using ih
    · simp [hy]

theorem noDouble_collapseRuns (x : α) (inRun : Bool) (ys : List α) :
    NoDouble x (collapseRuns (fun y => decide (y = x)) x inRun ys) := by
  induction ys generalizing inRun with
  | nil => exact List.IsChain.nil
  | cons y ys ih =>
    rw [collapseRuns]
    split_ifs with hy hrun
    · exact ih true
    · refine List.isChain_cons.mpr ⟨fun z hz hboth => ?_, ih true⟩
      rw [hboth.2] at hz
      exact head?_collapseRuns_ne x ys hz
    · refine List.isChain_cons.mpr ⟨fun z hz hboth => ?_, ih false⟩
      exact hy (by simpa using hboth.1)

theorem NoDouble.collapseRuns {z : α} (hne : x ≠ z) {ys : List α} (h : NoDouble z ys)
    (inRun : Bool) : NoDouble z (collapseRuns (fun y => decide (y = x)) x inRun ys) := by
  induction ys generalizing inRun with
  | nil => exact List.IsChain.nil
  | cons y ys ih =>
    have hrest : NoDouble z ys := h.of_isInfix (List.suffix_cons y ys).isInfix
    rw [Base.collapseRuns]
    split_ifs with hy hrun
    · exact ih hrest true
    · exact List.isChain_cons.mpr ⟨fun _ _ hboth => hne hboth.1, ih hrest true⟩
    · refine List.isChain_cons.mpr ⟨fun next hnext => ?_, ih hrest false⟩
      rw [head?_collapseRuns] at hnext
      exact (List.isChain_cons.mp h).1 next hnext

theorem collapseRuns_of_noDouble (h : NoDouble x ys) :
    collapseRuns (fun y => decide (y = x)) x false ys = ys ∧
      (ys.head? ≠ some x → collapseRuns (fun y => decide (y = x)) x true ys = ys) := by
  induction ys with
  | nil => exact ⟨rfl, fun _ => rfl⟩
  | cons y ys ih =>
    obtain ⟨hhead, hrest⟩ := List.isChain_cons.mp h
    obtain ⟨hfalse, htrue⟩ := ih hrest
    by_cases hy : y = x
    · subst hy
      have hnext : ys.head? ≠ some y := fun hnext => hhead y hnext ⟨rfl, rfl⟩
      refine ⟨?_, fun hne => absurd rfl hne⟩
      rw [collapseRuns, if_pos (by simp), if_neg (by simp), htrue hnext]
    · have hcons : ∀ inRun, collapseRuns (fun y => decide (y = x)) x inRun (y :: ys) = y :: ys := by
        intro inRun
        rw [collapseRuns, if_neg (by simpa using hy), hfalse]
      exact ⟨hcons false, fun _ => hcons true⟩

end

end GT3Code.Base
