import Mathlib.Data.List.Basic

/-! # Coalescing

Values that wait together are folded into one by a merge function, in the order they
came. A history of values is then cut into batches: those folded and handed on, and the
one still waiting.
-/

namespace GT3Code.Base

universe u

variable {V : Type u} (merge : V → V → V)

def foldBatch : List V → Option V
  | [] => none
  | value :: values => some (values.foldl merge value)

def joinValue (waiting : Option V) (next : V) : V :=
  match waiting with
  | none => next
  | some current => merge current next

theorem foldBatch_append_singleton (batch : List V) (next : V) :
    foldBatch merge (batch ++ [next]) = some (joinValue merge (foldBatch merge batch) next) := by
  cases batch with
  | nil => rfl
  | cons value values => simp [foldBatch, joinValue]

theorem foldBatch_eq_none_iff {batch : List V} : foldBatch merge batch = none ↔ batch = [] := by
  cases batch <;> simp [foldBatch]

/-- `values` is cut into batches: the ones folded into `handed`, in order, and the last,
folded into `waiting`. -/
def Coalesced (values handed : List V) (waiting : Option V) : Prop :=
  ∃ (batches : List (List V)) (rest : List V), values = batches.flatten ++ rest ∧
    batches.map (foldBatch merge) = handed.map some ∧ foldBatch merge rest = waiting

variable {merge} {values handed : List V} {waiting : Option V}

theorem coalesced_nil : Coalesced merge [] [] none := ⟨[], [], rfl, rfl, rfl⟩

theorem Coalesced.join (h : Coalesced merge values handed waiting) (next : V) :
    Coalesced merge (values ++ [next]) handed (some (joinValue merge waiting next)) := by
  obtain ⟨batches, rest, hvalues, hhanded, hwaiting⟩ := h
  refine ⟨batches, rest ++ [next], ?_, hhanded, ?_⟩
  · rw [hvalues, List.append_assoc]
  · rw [foldBatch_append_singleton, hwaiting]

theorem Coalesced.hand {value : V} (h : Coalesced merge values handed (some value)) :
    Coalesced merge values (handed ++ [value]) none := by
  obtain ⟨batches, rest, hvalues, hhanded, hwaiting⟩ := h
  refine ⟨batches ++ [rest], [], ?_, ?_, rfl⟩
  · rw [hvalues]
    simp
  · rw [List.map_append, hhanded, List.map_append, List.map_cons, hwaiting]
    rfl

theorem Coalesced.all_handed (h : Coalesced merge values handed none) :
    ∃ batches : List (List V), values = batches.flatten ∧
      batches.map (foldBatch merge) = handed.map some := by
  obtain ⟨batches, rest, hvalues, hhanded, hwaiting⟩ := h
  rw [foldBatch_eq_none_iff] at hwaiting
  subst hwaiting
  exact ⟨batches, by rw [hvalues, List.append_nil], hhanded⟩

end GT3Code.Base
