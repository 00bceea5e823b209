/-! # Last writes

Where every operation either sets a component of the state or leaves it alone, a
list of operations leaves the component as the last one that sets it does.
-/

namespace GT3Code.Base

universe u v w

variable {ο : Type u} {σ : Type v} {β : Type w}

@[grind] def lastWrite (written? : ο → Option β) : List ο → Option β
  | [] => none
  | operation :: rest => (lastWrite written? rest).or (written? operation)

variable {written? : ο → Option β}

@[simp] theorem lastWrite_nil : lastWrite written? [] = none := rfl

theorem lastWrite_append (first second : List ο) :
    lastWrite written? (first ++ second) =
      (lastWrite written? second).or (lastWrite written? first) := by
  induction first with
  | nil => simp
  | cons operation rest ih => rw [List.cons_append, lastWrite, ih, lastWrite, Option.or_assoc]

theorem lastWrite_eq_none_iff {operations : List ο} :
    lastWrite written? operations = none ↔
      ∀ operation ∈ operations, written? operation = none := by
  induction operations with
  | nil => simp
  | cons operation rest ih => simp [lastWrite, ih, and_comm]

theorem exists_of_lastWrite_eq_some {operations : List ο} {value : β}
    (h : lastWrite written? operations = some value) :
    ∃ operation ∈ operations, written? operation = some value := by
  induction operations with
  | nil => cases h
  | cons operation rest ih =>
    rw [lastWrite, Option.or_eq_some_iff] at h
    rcases h with hlater | ⟨-, hfirst⟩
    · obtain ⟨later, hmem, hvalue⟩ := ih hlater
      exact ⟨later, List.mem_cons_of_mem _ hmem, hvalue⟩
    · exact ⟨operation, List.mem_cons_self, hfirst⟩

theorem lastWrite_flatMap {α : Type v} (f : α → List ο) (items : List α) :
    lastWrite written? (items.flatMap f) =
      lastWrite (fun item => lastWrite written? (f item)) items := by
  induction items with
  | nil => rfl
  | cons item rest ih => rw [List.flatMap_cons, lastWrite_append, ih, lastWrite]

theorem lastWrite_map {γ : Type v} (f : β → γ) (operations : List ο) :
    lastWrite (fun operation => (written? operation).map f) operations =
      (lastWrite written? operations).map f := by
  induction operations with
  | nil => rfl
  | cons operation rest ih =>
    rw [lastWrite, ih, lastWrite]
    cases lastWrite written? rest <;> rfl

theorem component_foldl {apply : σ → ο → σ} (component : σ → β)
    (h : ∀ state operation,
      component (apply state operation) = (written? operation).getD (component state))
    (state : σ) (operations : List ο) :
    component (operations.foldl apply state) =
      (lastWrite written? operations).getD (component state) := by
  induction operations generalizing state with
  | nil => rfl
  | cons operation rest ih =>
    rw [List.foldl_cons, ih, h, lastWrite]
    cases lastWrite written? rest <;> rfl

theorem getD_eq_iff {γ : Type v} (f : β → γ) (written : Option β) (before : β) :
    f (written.getD before) = f before ↔ ∀ value, written = some value → f value = f before := by
  cases written <;> simp

end GT3Code.Base
