import Mathlib.Data.List.Nodup
import Mathlib.Data.List.Pairwise
import Mathlib.Data.List.Perm.Basic

/-! # Items in groups

Lists without repetitions, and what happens to all the items of a list of groups when one group
changes.
-/

namespace GT3Code.Base

universe u v

variable {α : Type u}

theorem nodup_eraseDups [BEq α] [LawfulBEq α] (items : List α) : items.eraseDups.Nodup := by
  induction hlength : items.length using Nat.strongRecOn generalizing items with
  | ind length ih =>
    cases items with
    | nil => simp
    | cons a rest =>
      have hshort : (rest.filter (fun b => !b == a)).length < length := by
        rw [← hlength]
        exact Nat.lt_succ_of_le (List.length_filter_le _ _)
      rw [List.eraseDups_cons, List.nodup_cons]
      refine ⟨?_, ih _ hshort _ rfl⟩
      rw [List.mem_eraseDups, List.mem_filter]
      simp

theorem eraseDups_of_nodup [BEq α] [LawfulBEq α] {items : List α} (h : items.Nodup) :
    items.eraseDups = items := by
  induction items with
  | nil => rfl
  | cons a rest ih =>
    rw [List.nodup_cons] at h
    have hkept : rest.filter (fun b => !b == a) = rest := by
      rw [List.filter_eq_self]
      intro b hb
      simpa using fun heq : b = a => h.1 (heq ▸ hb)
    rw [List.eraseDups_cons, hkept, ih h.2]

section

variable {G : Type v} (items : G → List α)

variable {groups : List G} {index : Nat} {group : G} {f : G → G}

theorem mem_modify {other : G} (hgroup : groups[index]? = some group)
    (h : other ∈ groups.modify index f) : other ∈ groups ∨ other = f group := by
  obtain ⟨i, hi⟩ := List.mem_iff_getElem?.mp h
  rw [List.getElem?_modify] at hi
  split_ifs at hi with heq
  · rw [← heq, hgroup] at hi
    exact Or.inr (Option.some.inj hi).symm
  · rw [Option.map_eq_map, Option.map_id'] at hi
    exact Or.inl (List.mem_of_getElem? hi)

theorem modify_eq_self_of_fixed (hgroup : groups[index]? = some group) (h : f group = group) :
    groups.modify index f = groups := by
  refine List.ext_getElem? (fun i => ?_)
  rw [List.getElem?_modify]
  split_ifs with heq
  · rw [← heq, hgroup, Option.map_eq_map, Option.map_some, h]
  · rw [Option.map_eq_map, Option.map_id']

theorem map_modify {V : Type*} {key : G → V} (h : ∀ group, key (f group) = key group)
    (groups : List G) (index : Nat) : (groups.modify index f).map key = groups.map key := by
  refine List.ext_getElem? (fun i => ?_)
  rw [List.getElem?_map, List.getElem?_map, List.getElem?_modify]
  cases groups[i]? with
  | none => rfl
  | some group => split_ifs <;> simp [h]

theorem flatMap_modify_perm {a : α} (hgroup : groups[index]? = some group)
    (h : (items (f group)).Perm (a :: items group)) :
    ((groups.modify index f).flatMap items).Perm (a :: groups.flatMap items) := by
  induction groups generalizing index with
  | nil => cases hgroup
  | cons first rest ih =>
    cases index with
    | zero =>
      cases hgroup
      rw [List.modify_zero_cons, List.flatMap_cons, List.flatMap_cons]
      exact h.append_right _
    | succ index =>
      rw [List.modify_succ_cons, List.flatMap_cons, List.flatMap_cons]
      exact ((ih hgroup).append_left _).trans List.perm_middle

theorem flatMap_map_filter (p : α → Bool) {restrict : G → G}
    (h : ∀ group, items (restrict group) = (items group).filter p) (groups : List G) :
    (groups.map restrict).flatMap items = (groups.flatMap items).filter p := by
  induction groups with
  | nil => rfl
  | cons group groups ih =>
    rw [List.map_cons, List.flatMap_cons, List.flatMap_cons, List.filter_append, h, ih]

theorem flatMap_filter_nonempty (groups : List G) :
    (groups.filter (fun group => (items group).length > 0)).flatMap items =
      groups.flatMap items := by
  induction groups with
  | nil => rfl
  | cons group groups ih =>
    by_cases h : (items group).length > 0
    · rw [List.filter_cons_of_pos (by simpa using h), List.flatMap_cons, List.flatMap_cons, ih]
    · have hempty : items group = [] := by
        rw [← List.length_eq_zero_iff]
        omega
      rw [List.filter_cons_of_neg (by simpa using h), List.flatMap_cons, hempty,
        List.nil_append, ih]

end

end GT3Code.Base
