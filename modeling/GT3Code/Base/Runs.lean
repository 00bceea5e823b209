import Mathlib.Data.List.Infix

/-! # Runs of a partial step function

A system is a function from a state and an action to the next state, undefined
where the action is refused. A run is the list of its actions. Next to the
invariant rule stands the rule for a property some steps break: it holds all
along a run exactly when every step of the run meets the step's condition.
-/

namespace GT3Code.Base

universe u v

variable {σ : Type u} {α : Type v}

def exec (step : σ → α → Option σ) : σ → List α → Option σ
  | s, [] => some s
  | s, a :: as => (step s a).bind (fun t => exec step t as)

/-- `P` holds where the run starts and after each of its steps. -/
def Throughout (step : σ → α → Option σ) (P : σ → Prop) : σ → List α → Prop
  | s, [] => P s
  | s, a :: as => P s ∧ ∀ t, step s a = some t → Throughout step P t as

/-- Every step taken starts from a state and by an action that meet `C`. -/
def StepsMeet (step : σ → α → Option σ) (C : σ → α → Prop) : σ → List α → Prop
  | _, [] => True
  | s, a :: as => ∀ t, step s a = some t → C s a ∧ StepsMeet step C t as

/-- A state some run from `s` ends in. -/
def Reachable (step : σ → α → Option σ) (s t : σ) : Prop := ∃ as, exec step s as = some t

variable {step : σ → α → Option σ}

@[simp] theorem exec_nil (s : σ) : exec step s [] = some s := rfl

@[simp] theorem exec_cons (s : σ) (a : α) (as : List α) :
    exec step s (a :: as) = (step s a).bind (fun t => exec step t as) := rfl

theorem exec_append (s : σ) (as bs : List α) :
    exec step s (as ++ bs) = (exec step s as).bind (fun t => exec step t bs) := by
  induction as generalizing s with
  | nil => rfl
  | cons a as ih => cases h : step s a <;> simp [h, ih]

theorem exec_cons_eq_some {s u : σ} {a : α} {as : List α} (h : exec step s (a :: as) = some u) :
    ∃ t, step s a = some t ∧ exec step t as = some u := by
  simpa [Option.bind_eq_some_iff] using h

theorem stepsMeet_cons {C : σ → α → Prop} {s t : σ} {a : α} {as : List α}
    (h : step s a = some t) : StepsMeet step C s (a :: as) ↔ C s a ∧ StepsMeet step C t as := by
  constructor
  · exact fun hmeet => hmeet t h
  · intro hmeet u hu
    cases h.symm.trans hu
    exact hmeet

instance decidableStepsMeet {C : σ → α → Prop} [∀ s a, Decidable (C s a)] :
    ∀ s as, Decidable (StepsMeet step C s as)
  | _, [] => isTrue trivial
  | s, a :: as =>
    match h : step s a with
    | none => isTrue fun t ht => by rw [h] at ht; cases ht
    | some t =>
      have := decidableStepsMeet (C := C) t as
      decidable_of_iff (C s a ∧ StepsMeet step C t as) (stepsMeet_cons h).symm

theorem exec_invariant {I : σ → Prop} (hstep : ∀ s a t, I s → step s a = some t → I t)
    {s t : σ} {as : List α} (hs : I s) (h : exec step s as = some t) : I t := by
  induction as generalizing s with
  | nil =>
    cases h
    exact hs
  | cons a as ih =>
    obtain ⟨u, hu, hrest⟩ := exec_cons_eq_some h
    exact ih (hstep s a u hs hu) hrest

theorem exec_invariant_so_far {I : List α → σ → Prop} {s : σ} (hs : I [] s)
    (hstep : ∀ as t a u, I as t → exec step s as = some t → step t a = some u → I (as ++ [a]) u)
    {as : List α} {t : σ} (h : exec step s as = some t) : I as t := by
  induction as using List.reverseRecOn generalizing t with
  | nil =>
    cases h
    exact hs
  | append_singleton as a ih =>
    rw [exec_append] at h
    obtain ⟨u, hu, hlast⟩ := Option.bind_eq_some_iff.mp h
    obtain ⟨v, hv, hnil⟩ := exec_cons_eq_some hlast
    cases hnil
    exact hstep as u a t (ih hu) hu hv

theorem Reachable.invariant {I : σ → Prop} (hstep : ∀ s a t, I s → step s a = some t → I t)
    {s t : σ} (hs : I s) (h : Reachable step s t) : I t := by
  obtain ⟨as, has⟩ := h
  exact exec_invariant hstep hs has

theorem Throughout.start {P : σ → Prop} {s : σ} {as : List α} (h : Throughout step P s as) :
    P s := by
  cases as with
  | nil => exact h
  | cons a as => exact h.1

theorem throughout_of_invariant {P : σ → Prop} (hstep : ∀ s a t, P s → step s a = some t → P t)
    {s : σ} (hs : P s) (as : List α) : Throughout step P s as := by
  induction as generalizing s with
  | nil => exact hs
  | cons a as ih => exact ⟨hs, fun t ht => ih (hstep s a t hs ht)⟩

theorem Throughout.imp {P Q : σ → Prop} (h : ∀ s, P s → Q s) {s : σ} {as : List α}
    (hrun : Throughout step P s as) : Throughout step Q s as := by
  induction as generalizing s with
  | nil => exact h s hrun
  | cons a as ih => exact ⟨h s hrun.1, fun t ht => ih (hrun.2 t ht)⟩

/-- A property that steps keep exactly under `C` holds all along a run exactly when every
step of the run meets `C`. The invariant `I` is one that steps keep as long as they keep
the property. -/
theorem throughout_iff_stepsMeet_while {I P : σ → Prop} {C : σ → α → Prop}
    (hI : ∀ s a t, I s → P s → P t → step s a = some t → I t)
    (hP : ∀ s a t, I s → P s → step s a = some t → (P t ↔ C s a))
    {s : σ} (hsI : I s) (hsP : P s) (as : List α) :
    Throughout step P s as ↔ StepsMeet step C s as := by
  induction as generalizing s with
  | nil => exact ⟨fun _ => trivial, fun _ => hsP⟩
  | cons a as ih =>
    constructor
    · rintro ⟨-, hrest⟩ t ht
      have htP : P t := (hrest t ht).start
      exact ⟨(hP s a t hsI hsP ht).mp htP,
        (ih (hI s a t hsI hsP htP ht) htP).mp (hrest t ht)⟩
    · intro hmeet
      refine ⟨hsP, fun t ht => ?_⟩
      obtain ⟨hC, hrest⟩ := hmeet t ht
      have htP : P t := (hP s a t hsI hsP ht).mpr hC
      exact (ih (hI s a t hsI hsP htP ht) htP).mpr hrest

theorem throughout_iff_stepsMeet {I P : σ → Prop} {C : σ → α → Prop}
    (hI : ∀ s a t, I s → step s a = some t → I t)
    (hP : ∀ s a t, I s → P s → step s a = some t → (P t ↔ C s a))
    {s : σ} (hsI : I s) (hsP : P s) (as : List α) :
    Throughout step P s as ↔ StepsMeet step C s as :=
  throughout_iff_stepsMeet_while (fun s a t hs _ _ ht => hI s a t hs ht) hP hsI hsP as

/-- The same within the runs whose steps meet `D`. -/
theorem throughout_iff_stepsMeet_within {I P : σ → Prop} {C D : σ → α → Prop}
    (hI : ∀ s a t, I s → D s a → step s a = some t → I t)
    (hP : ∀ s a t, I s → P s → step s a = some t → (P t ↔ C s a))
    {s : σ} (hsI : I s) (hsP : P s) {as : List α} (hD : StepsMeet step D s as) :
    Throughout step P s as ↔ StepsMeet step C s as := by
  induction as generalizing s with
  | nil => exact ⟨fun _ => trivial, fun _ => hsP⟩
  | cons a as ih =>
    constructor
    · rintro ⟨-, hrest⟩ t ht
      obtain ⟨hDa, hDrest⟩ := hD t ht
      have htP : P t := (hrest t ht).start
      exact ⟨(hP s a t hsI hsP ht).mp htP, (ih (hI s a t hsI hDa ht) htP hDrest).mp (hrest t ht)⟩
    · intro hmeet
      refine ⟨hsP, fun t ht => ?_⟩
      obtain ⟨hDa, hDrest⟩ := hD t ht
      obtain ⟨hC, hrest⟩ := hmeet t ht
      have htP : P t := (hP s a t hsI hsP ht).mpr hC
      exact (ih (hI s a t hsI hDa ht) htP hDrest).mpr hrest

/-- A property steps keep under `C` holds all along a run that meets `C`. -/
theorem throughout_of_stepsMeet {P : σ → Prop} {C : σ → α → Prop}
    (hP : ∀ s a t, P s → C s a → step s a = some t → P t)
    {s : σ} (hs : P s) {as : List α} (h : StepsMeet step C s as) : Throughout step P s as := by
  induction as generalizing s with
  | nil => exact hs
  | cons a as ih =>
    refine ⟨hs, fun t ht => ?_⟩
    obtain ⟨hC, hrest⟩ := h t ht
    exact ih (hP s a t hs hC ht) hrest

theorem StepsMeet.imp {C D : σ → α → Prop} (h : ∀ s a, C s a → D s a) {s : σ} {as : List α}
    (hC : StepsMeet step C s as) : StepsMeet step D s as := by
  induction as generalizing s with
  | nil => exact trivial
  | cons a as ih =>
    intro t ht
    obtain ⟨hCa, hrest⟩ := hC t ht
    exact ⟨h s a hCa, ih hrest⟩

/-- Steps from states with `P` meet what `C` implies there. -/
theorem StepsMeet.imp_of_throughout {P : σ → Prop} {C D : σ → α → Prop}
    (h : ∀ s a t, P s → C s a → step s a = some t → D s a) {s : σ} {as : List α}
    (hP : Throughout step P s as) (hC : StepsMeet step C s as) : StepsMeet step D s as := by
  induction as generalizing s with
  | nil => exact trivial
  | cons a as ih =>
    intro t ht
    obtain ⟨hCa, hrest⟩ := hC t ht
    exact ⟨h s a t hP.1 hCa ht, ih (hP.2 t ht) hrest⟩

theorem stepsMeet_append {C : σ → α → Prop} {s t : σ} {as : List α} (bs : List α)
    (h : exec step s as = some t) :
    StepsMeet step C s (as ++ bs) ↔ StepsMeet step C s as ∧ StepsMeet step C t bs := by
  induction as generalizing s with
  | nil =>
    cases h
    exact ⟨fun h => ⟨trivial, h⟩, And.right⟩
  | cons a as ih =>
    obtain ⟨u, hu, hrest⟩ := exec_cons_eq_some h
    rw [List.cons_append, stepsMeet_cons hu, stepsMeet_cons hu, ih hrest, and_assoc]

theorem stepsMeet_concat {C : σ → α → Prop} {s t u : σ} {as : List α} {a : α}
    (h : exec step s as = some t) (ha : step t a = some u) :
    StepsMeet step C s (as ++ [a]) ↔ StepsMeet step C s as ∧ C t a := by
  rw [stepsMeet_append [a] h, stepsMeet_cons ha]
  exact and_congr_right (fun _ => and_iff_left trivial)

theorem Throughout.of_exec {P : σ → Prop} {s t : σ} {as bs : List α}
    (h : Throughout step P s (as ++ bs)) (hexec : exec step s as = some t) :
    Throughout step P t bs := by
  induction as generalizing s with
  | nil =>
    cases hexec
    exact h
  | cons a as ih =>
    obtain ⟨u, hu, hrest⟩ := exec_cons_eq_some hexec
    exact ih (h.2 u hu) hrest

theorem Throughout.reached {P : σ → Prop} {s t : σ} {as bs : List α}
    (h : Throughout step P s (as ++ bs)) (hexec : exec step s as = some t) : P t :=
  (h.of_exec hexec).start

theorem Throughout.final {P : σ → Prop} {s t : σ} {as : List α} (h : Throughout step P s as)
    (hexec : exec step s as = some t) : P t := by
  rw [← List.append_nil as] at h
  exact h.reached hexec

end GT3Code.Base
