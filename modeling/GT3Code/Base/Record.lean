import Mathlib.Data.List.Nodup
import Mathlib.Data.Set.Function

/-! # Objects used as maps

A `Record<K, V>` is the function its property access computes. An array kept as
its ids next to a record of its entries is a slice: reading a slice back gives
the array again when no id occurs twice.
-/

namespace GT3Code.Base

universe u v

variable {κ : Type u} {α : Type v}

/-- `record[key]`, undefined where the key is absent. -/
abbrev Record (κ : Type u) (α : Type v) := κ → Option α

namespace Record

/-- `{}`. -/
def empty (κ : Type u) (α : Type v) : Record κ α := fun _ => none

variable [DecidableEq κ]

/-- `{ ...record, [key]: value }`. -/
def set (key : κ) (value : α) (record : Record κ α) : Record κ α :=
  Function.update record key (some value)

/-- `const { [key]: _, ...rest } = record`. -/
def remove (key : κ) (record : Record κ α) : Record κ α :=
  Function.update record key none

@[simp] theorem set_self (key : κ) (value : α) (record : Record κ α) :
    record.set key value key = some value :=
  Function.update_self ..

variable {key : κ} {record : Record κ α} {items : List α}

theorem set_of_ne {other : κ} (h : other ≠ key) (value : α) (record : Record κ α) :
    record.set key value other = record other :=
  Function.update_of_ne h ..

@[simp] theorem remove_self (key : κ) (record : Record κ α) : record.remove key key = none :=
  Function.update_self ..

theorem remove_of_ne {other : κ} (h : other ≠ key) (record : Record κ α) :
    record.remove key other = record other :=
  Function.update_of_ne h ..

/-- The entry of `key` changed, where there is one. -/
def modify (key : κ) (change : α → α) (record : Record κ α) : Record κ α :=
  fun other => if other = key then (record other).map change else record other

@[simp] theorem modify_id (key : κ) (record : Record κ α) : record.modify key id = record := by
  funext other
  simp [modify]

theorem modify_modify (key : κ) (change next : α → α) (record : Record κ α) :
    (record.modify key change).modify key next = record.modify key (next ∘ change) := by
  funext other
  by_cases hother : other = key
  · simp [modify, hother]
  · simp [modify, hother]

theorem modify_self (change : α → α) (record : Record κ α) :
    record.modify key change key = (record key).map change :=
  if_pos rfl

theorem modify_congr {change other : α → α}
    (h : ∀ value, record key = some value → change value = other value) :
    record.modify key change = record.modify key other := by
  funext k
  by_cases hk : k = key
  · subst hk
    rw [modify_self, modify_self]
    exact Option.map_congr h
  · rw [modify, if_neg hk, modify, if_neg hk]

theorem modify_of_none (h : record key = none) (change : α → α) :
    record.modify key change = record := by
  funext other
  by_cases hother : other = key
  · simp [modify, hother, h]
  · simp [modify, hother]

theorem modify_of_some {value : α} (h : record key = some value) (change : α → α) :
    record.modify key change = record.set key (change value) := by
  funext other
  by_cases hother : other = key
  · simp [modify, hother, h]
  · rw [set_of_ne hother, modify, if_neg hother]

/-- `Object.fromEntries(items.map((item) => [key(item), item]))`. -/
def fromItems (key : α → κ) (items : List α) : Record κ α :=
  items.foldl (fun record item => record.set (key item) item) (empty κ α)

/-- `ids.flatMap((id) => record[id] ? [record[id]] : [])`. -/
def collect (ids : List κ) (record : Record κ α) : List α := ids.filterMap record

theorem foldl_set_of_not_mem {key : α → κ} {k : κ} (h : ∀ item ∈ items, key item ≠ k)
    (record : Record κ α) :
    items.foldl (fun record item => record.set (key item) item) record k = record k := by
  induction items generalizing record with
  | nil => rfl
  | cons item items ih =>
    have hne : k ≠ key item := fun heq => h item List.mem_cons_self heq.symm
    rw [List.foldl_cons, ih (fun other hother => h other (List.mem_cons_of_mem _ hother)),
      set_of_ne hne]

theorem foldl_set_of_mem {key : α → κ} (hinj : Set.InjOn key {item | item ∈ items}) {item : α}
    (hmem : item ∈ items) (record : Record κ α) :
    items.foldl (fun record item => record.set (key item) item) record (key item) =
      some item := by
  induction items generalizing record with
  | nil => cases hmem
  | cons head items ih =>
    have hrest : Set.InjOn key {item | item ∈ items} :=
      hinj.mono (fun _ h => List.mem_cons_of_mem _ h)
    rw [List.foldl_cons]
    by_cases hlater : ∃ other ∈ items, key other = key item
    · obtain ⟨other, hother, hkey⟩ := hlater
      cases hinj (List.mem_cons_of_mem _ hother) hmem hkey
      exact ih hrest hother _
    · have hfresh : ∀ other ∈ items, key other ≠ key item :=
        fun other hother heq => hlater ⟨other, hother, heq⟩
      have hhead : item = head :=
        (List.mem_cons.mp hmem).resolve_right (fun h => hfresh item h rfl)
      rw [foldl_set_of_not_mem hfresh, hhead, set_self]

theorem collect_fromItems_of_injOn {key : α → κ} (hinj : Set.InjOn key {item | item ∈ items}) :
    collect (items.map key) (fromItems key items) = items := by
  have hget : ∀ item ∈ items, fromItems key items (key item) = some item :=
    fun item hitem => foldl_set_of_mem hinj hitem _
  unfold collect
  rw [List.filterMap_map]
  calc items.filterMap (fromItems key items ∘ key)
      = items.filterMap some := List.filterMap_congr hget
    _ = items := List.filterMap_some

theorem collect_fromItems {key : α → κ} (hnodup : (items.map key).Nodup) :
    collect (items.map key) (fromItems key items) = items :=
  collect_fromItems_of_injOn (fun _ ha _ hb h => List.inj_on_of_nodup_map hnodup ha hb h)

theorem key_of_fromItems {key : α → κ} {k : κ} {item : α} (h : fromItems key items k = some item) :
    key item = k := by
  have hfold : ∀ (items : List α) (record : Record κ α),
      (∀ {k item}, record k = some item → key item = k) → ∀ {k item},
        items.foldl (fun record item => record.set (key item) item) record k = some item →
          key item = k := by
    intro items
    induction items with
    | nil => exact fun _ hrecord => hrecord
    | cons head items ih =>
      intro record hrecord
      refine ih (record.set (key head) head) (fun {k item} hitem => ?_)
      by_cases hk : k = key head
      · subst hk
        rw [set_self] at hitem
        rw [← Option.some.inj hitem]
      · rw [set_of_ne hk] at hitem
        exact hrecord hitem
  exact hfold items _ (fun h => by cases h) h

omit [DecidableEq κ] in
theorem injOn_collect {key : α → κ} (hkeyed : ∀ {k item}, record k = some item → key item = k)
    (ids : List κ) : Set.InjOn key {item | item ∈ collect ids record} := by
  intro a ha b hb hkey
  obtain ⟨i, -, hi⟩ := List.mem_filterMap.mp ha
  obtain ⟨j, -, hj⟩ := List.mem_filterMap.mp hb
  have hsame : i = j := (hkeyed hi).symm.trans (hkey.trans (hkeyed hj))
  rw [hsame, hj] at hi
  exact (Option.some.inj hi).symm

end Record

end GT3Code.Base
