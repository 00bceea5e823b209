import Mathlib.Data.List.Induction
import Mathlib.Data.List.Sort

/-! # The first of a stable sort

Inserting every item after the ones that are not greater sorts stably, and an insertion into
the first items of a list gives the first items of an insertion into the list.
-/

namespace GT3Code.Base

universe u

variable {α : Type u}

section

variable (r : α → α → Prop) [DecidableRel r]

theorem orderedInsert_eq_of_split {a : α} {items : List α} {index : Nat}
    (hbefore : ∀ b ∈ items.take index, ¬r a b) (hafter : ∀ b ∈ (items.drop index).head?, r a b) :
    items.orderedInsert r a = items.take index ++ a :: items.drop index := by
  induction items generalizing index with
  | nil => simp
  | cons b items ih =>
    cases index with
    | zero =>
      have hr : r a b := hafter b rfl
      rw [List.orderedInsert_cons_of_le r items hr]
      rfl
    | succ index =>
      rw [List.take_succ_cons, List.forall_mem_cons] at hbefore
      rw [List.orderedInsert_of_not_le r items hbefore.1, ih hbefore.2 hafter]
      rfl

theorem take_orderedInsert_take (a : α) (items : List α) (count : Nat) :
    ((items.take count).orderedInsert r a).take count = (items.orderedInsert r a).take count := by
  induction items generalizing count with
  | nil => rw [List.take_nil]
  | cons b items ih =>
    cases count with
    | zero => rfl
    | succ count =>
      rw [List.take_succ_cons]
      by_cases hr : r a b
      · rw [List.orderedInsert_cons_of_le r _ hr, List.orderedInsert_cons_of_le r _ hr,
          List.take_succ_cons, List.take_succ_cons]
        cases count with
        | zero => rfl
        | succ count => rw [List.take_succ_cons, List.take_succ_cons, List.take_take,
            min_eq_left (Nat.le_succ count)]
      · rw [List.orderedInsert_of_not_le r _ hr, List.orderedInsert_of_not_le r _ hr,
          List.take_succ_cons, List.take_succ_cons, ih]

end

section

variable (le : α → α → Prop) [DecidableRel le]

def insertAfter (a : α) (items : List α) : List α :=
  items.orderedInsert (fun a b => ¬le b a) a

variable [Std.Total le] [IsTrans α le]

theorem orderedInsert_insertAfter (a b : α) (items : List α) :
    (insertAfter le b items).orderedInsert le a = insertAfter le b (items.orderedInsert le a) := by
  have htotal : ∀ x y, ¬le x y → le y x := fun x y h => (Std.Total.total x y).resolve_left h
  have htrans : ∀ x y z, le x y → le y z → le x z := fun x y z => IsTrans.trans x y z
  induction items with
  | nil =>
    by_cases hab : le a b <;> simp [insertAfter, hab]
  | cons c items ih =>
    simp only [insertAfter, List.orderedInsert_cons] at ih ⊢
    by_cases hcb : le c b <;> by_cases hac : le a c
    · have hab := htrans a c b hac hcb
      simp [hcb, hac, hab]
    · simp [hcb, hac, ih]
    · have hbc := htotal c b hcb
      by_cases hab : le a b
      · simp [hcb, hac, hab]
      · simp [hcb, hac, hab]
    · have hab : ¬le a b := fun hab => hac (htrans a b c hab (htotal c b hcb))
      simp [hcb, hac, hab]

theorem insertionSort_concat (items : List α) (a : α) :
    (items ++ [a]).insertionSort le = insertAfter le a (items.insertionSort le) := by
  induction items with
  | nil => rfl
  | cons b items ih =>
    rw [List.cons_append, List.insertionSort_cons, ih, orderedInsert_insertAfter,
      List.insertionSort_cons]

theorem foldl_eq_take_insertionSort {step : List α → α → List α} {count : Nat}
    (hstep : ∀ ranked a, ranked.Pairwise le → ranked.length ≤ count →
      step ranked a = (insertAfter le a ranked).take count) (items : List α) :
    items.foldl step [] = (items.insertionSort le).take count := by
  induction items using List.reverseRecOn with
  | nil => rw [List.insertionSort_nil, List.take_nil, List.foldl_nil]
  | append_singleton items a ih =>
    have hsorted := (List.pairwise_insertionSort le items).sublist (List.take_sublist count _)
    rw [List.foldl_concat, ih, hstep _ a hsorted (List.length_take_le _ _), insertAfter,
      take_orderedInsert_take, insertionSort_concat, insertAfter]

end

end GT3Code.Base
