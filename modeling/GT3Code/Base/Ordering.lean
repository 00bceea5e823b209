import Mathlib.Data.List.Sort
import Mathlib.Data.Prod.Lex
import Mathlib.Data.String.Basic

/-! # Comparator sorting and slices

`Array.prototype.toSorted` with a numeric comparator is a stable sort, here
Mathlib's insertion sort. The collation behind `localeCompare` belongs to the
runtime's locale and stays a parameter.
-/

namespace GT3Code.Base

universe u

variable {α : Type u}

/-- The collation of `String.prototype.localeCompare`. -/
class Collation where
  localeCompare : String → String → Int

@[reducible] def codePointCollation : Collation where
  localeCompare left right := if left < right then -1 else if left = right then 0 else 1

/-- `first || second` on comparator results. -/
def orElse (first second : Int) : Int := if first = 0 then second else first

/-- `items.toSorted(compare)`. -/
def toSorted (compare : α → α → Int) (items : List α) : List α :=
  items.insertionSort (fun left right => compare left right ≤ 0)

variable {items : List α} {a : α} {count : Nat}

@[simp] theorem mem_toSorted {compare : α → α → Int} : a ∈ toSorted compare items ↔ a ∈ items := by
  simp [toSorted]

theorem toSorted_perm (compare : α → α → Int) (items : List α) :
    (toSorted compare items).Perm items :=
  List.perm_insertionSort _ items

@[simp] theorem length_toSorted (compare : α → α → Int) (items : List α) :
    (toSorted compare items).length = items.length :=
  (toSorted_perm compare items).length_eq

/-- Comparison by code point, which is SQLite's `BINARY` collation of UTF-8 text. -/
def compareText (left right : String) : Int :=
  if left < right then -1 else if left = right then 0 else 1

/-- `NULL` sorts first in ascending order. -/
def compareNullable (compare : α → α → Int) : Option α → Option α → Int
  | none, none => 0
  | none, some _ => -1
  | some _, none => 1
  | some left, some right => compare left right

def utf16Units (c : Char) : List Nat :=
  if c.toNat < 0x10000 then [c.toNat]
  else [0xD800 + (c.toNat - 0x10000) / 0x400, 0xDC00 + (c.toNat - 0x10000) % 0x400]

/-- Comparison by UTF-16 code unit, the order of `toSorted()` without a comparator. -/
def compareUnits (left right : String) : Int :=
  let l := left.toList.flatMap utf16Units
  let r := right.toList.flatMap utf16Units
  if l < r then -1 else if l = r then 0 else 1

/-- Sorting by a key of the natural numbers, `left.key - right.key`. -/
def byKey (key : α → Nat) (left right : α) : Int := (key left : Int) - (key right : Int)

/-- `items.slice(-count)` for a positive `count`. -/
def sliceLast (count : Nat) (items : List α) : List α := items.drop (items.length - count)

theorem sliceLast_of_length_le (h : items.length ≤ count) : sliceLast count items = items := by
  simp [sliceLast, Nat.sub_eq_zero_of_le h]

theorem mem_of_mem_sliceLast (h : a ∈ sliceLast count items) : a ∈ items :=
  List.mem_of_mem_drop h

theorem sliceLast_sublist (count : Nat) (items : List α) : (sliceLast count items).Sublist items :=
  List.drop_sublist ..

section Sorting

variable {β : Type*} {compare : α → α → Int}

theorem map_toSorted {compare' : β → β → Int} {f : α → β}
    (h : ∀ a b, compare a b = compare' (f a) (f b)) (items : List α) :
    (toSorted compare items).map f = toSorted compare' (items.map f) :=
  List.map_insertionSort _ _ f items (fun a _ b _ => by rw [h])

theorem map_sliceLast (f : α → β) (count : Nat) (items : List α) :
    (sliceLast count items).map f = sliceLast count (items.map f) := by
  simp [sliceLast, List.map_drop]

/-! ## Ranks

A comparison that ranks its arguments sorts them by rank. Chained comparisons rank
lexicographically.
-/

/-- `compare` is the comparison of ranks. -/
def RankedBy {ι : Type*} [LinearOrder ι] (compare : α → α → Int) (rank : α → ι) : Prop :=
  ∀ a b, (compare a b < 0 ↔ rank a < rank b) ∧ (compare a b = 0 ↔ rank a = rank b)

section Ranks

variable {ι κ : Type*} [LinearOrder ι] [LinearOrder κ] {rank : α → ι}

theorem RankedBy.le_iff (h : RankedBy compare rank) (a b : α) :
    compare a b ≤ 0 ↔ rank a ≤ rank b := by
  rw [Int.le_iff_lt_or_eq, (h a b).1, (h a b).2, le_iff_lt_or_eq]

theorem rankedBy_byKey (key : α → Nat) : RankedBy (byKey key) key := by
  intro a b
  unfold byKey
  omega

theorem rankedBy_compareText (text : α → String) :
    RankedBy (fun a b => compareText (text a) (text b)) text := by
  intro a b
  simp only [compareText]
  rcases lt_trichotomy (text a) (text b) with hlt | heq | hgt
  · simp [hlt, hlt.ne]
  · simp [heq]
  · simp [hgt.not_gt, hgt.ne']

/-- The rank behind an ascending order with `NULL` first. -/
def nullFirst : Option Nat → Nat
  | none => 0
  | some n => n + 1

theorem rankedBy_compareNullable (value : α → Option Nat) :
    RankedBy (fun a b => compareNullable (byKey id) (value a) (value b))
      (fun a => nullFirst (value a)) := by
  intro a b
  show (compareNullable (byKey id) (value a) (value b) < 0 ↔
      nullFirst (value a) < nullFirst (value b)) ∧
    (compareNullable (byKey id) (value a) (value b) = 0 ↔
      nullFirst (value a) = nullFirst (value b))
  generalize value a = left
  generalize value b = right
  cases left with
  | none => cases right <;> simp [compareNullable, nullFirst]
  | some left =>
    cases right with
    | none => simp [compareNullable, nullFirst]
    | some right =>
      simp only [compareNullable, byKey, nullFirst, id]
      omega

theorem RankedBy.orElse {second : α → α → Int} {rank' : α → κ} (h : RankedBy compare rank)
    (h' : RankedBy second rank') :
    RankedBy (fun a b => Base.orElse (compare a b) (second a b))
      (fun a => toLex (rank a, rank' a)) := by
  intro a b
  have hcases : compare a b < 0 ∨ compare a b = 0 ∨ 0 < compare a b := by omega
  rw [Prod.Lex.toLex_lt_toLex, toLex_inj, Prod.mk.injEq]
  simp only [Base.orElse, ← (h a b).1, ← (h a b).2, ← (h' a b).1, ← (h' a b).2]
  split <;> omega

theorem RankedBy.pairwise_toSorted (h : RankedBy compare rank) (items : List α) :
    (toSorted compare items).Pairwise (fun a b => rank a ≤ rank b) := by
  have htotal : Std.Total (fun a b : α => compare a b ≤ 0) :=
    ⟨fun a b => by simp only [h.le_iff]; exact le_total _ _⟩
  have htrans : IsTrans α (fun a b : α => compare a b ≤ 0) :=
    ⟨fun a b c => by simp only [h.le_iff]; exact le_trans⟩
  exact (List.pairwise_insertionSort _ items).imp (fun hle => (h.le_iff _ _).mp hle)

variable {items : List α}

theorem RankedBy.pairwise_lt_toSorted (h : RankedBy compare rank)
    (hdistinct : (items.map rank).Nodup) :
    (toSorted compare items).Pairwise (fun a b => rank a < rank b) := by
  have hnodup : ((toSorted compare items).map rank).Nodup :=
    ((toSorted_perm compare items).map rank).nodup_iff.mpr hdistinct
  exact ((h.pairwise_toSorted items).and (List.pairwise_map.mp hnodup)).imp
    (fun hboth => lt_of_le_of_ne hboth.1 hboth.2)

theorem eq_of_pairwise_rank_lt {left right : List α}
    (hleft : left.Pairwise (fun a b => rank a < rank b))
    (hright : right.Pairwise (fun a b => rank a < rank b)) (hmem : ∀ a, a ∈ left ↔ a ∈ right) :
    left = right := by
  have hirrefl : Std.Irrefl (fun a b : α => rank a < rank b) := ⟨fun a => lt_irrefl _⟩
  have hantisymm : Std.Antisymm (fun a b : α => rank a < rank b) :=
    ⟨fun a b hab hba => absurd hba hab.not_gt⟩
  exact hleft.eq_of_mem_iff hright hmem

theorem RankedBy.filter_orderedInsert (h : RankedBy compare rank) (p : α → Bool) (a : α)
    (hsorted : items.Pairwise (fun a b => rank a ≤ rank b)) :
    (items.orderedInsert (fun a b => compare a b ≤ 0) a).filter p =
      if p a then (items.filter p).orderedInsert (fun a b => compare a b ≤ 0) a
      else items.filter p := by
  induction items with
  | nil => by_cases hp : p a <;> simp [hp]
  | cons b items ih =>
    rw [List.pairwise_cons] at hsorted
    by_cases hle : compare a b ≤ 0
    · rw [List.orderedInsert_cons_of_le _ items hle]
      by_cases hp : p a
      · -- Whatever the filter leaves in front still ranks no lower than `a`.
        have hfirst : ∀ c ∈ (b :: items).filter p, compare a c ≤ 0 := by
          intro c hc
          rw [h.le_iff] at hle ⊢
          rcases List.mem_cons.mp (List.mem_of_mem_filter hc) with heq | hmem
          · exact heq ▸ hle
          · exact hle.trans (hsorted.1 c hmem)
        rw [List.filter_cons_of_pos hp, if_pos hp]
        cases hrest : (b :: items).filter p with
        | nil => rfl
        | cons c rest =>
          rw [List.orderedInsert_cons_of_le _ rest (hfirst c (hrest ▸ List.mem_cons_self))]
      · rw [List.filter_cons_of_neg hp, if_neg hp]
    · rw [List.orderedInsert_of_not_le _ items hle]
      by_cases hb : p b
      · rw [List.filter_cons_of_pos hb, List.filter_cons_of_pos hb, ih hsorted.2]
        by_cases hp : p a
        · rw [if_pos hp, if_pos hp, List.orderedInsert_of_not_le _ (items.filter p) hle]
        · rw [if_neg hp, if_neg hp]
      · rw [List.filter_cons_of_neg hb, List.filter_cons_of_neg hb, ih hsorted.2]

theorem RankedBy.filter_toSorted (h : RankedBy compare rank) (p : α → Bool) (items : List α) :
    (toSorted compare items).filter p = toSorted compare (items.filter p) := by
  induction items with
  | nil => rfl
  | cons a items ih =>
    have hcons := h.filter_orderedInsert p a (h.pairwise_toSorted items)
    rw [ih] at hcons
    by_cases hp : p a
    · rw [if_pos hp] at hcons
      rw [List.filter_cons_of_pos hp]
      exact hcons
    · rw [if_neg hp] at hcons
      rw [List.filter_cons_of_neg hp]
      exact hcons

end Ranks

end Sorting

/-- `localeCompare` compares sort keys, whatever the locale makes of a string. -/
def Collation.ComparesSortKeys [Collation] : Prop :=
  ∃ (ι : Type) (_ : LinearOrder ι) (sortKey : String → ι),
    RankedBy Collation.localeCompare sortKey

theorem comparesSortKeys_codePoint : @Collation.ComparesSortKeys codePointCollation :=
  ⟨String, inferInstance, id, rankedBy_compareText id⟩

theorem mem_take_filter_not_iff (hnodup : items.Nodup) {p : α → Bool}
    (hearly : ∀ a ∈ items, p a = true → a ∈ items.take count) :
    a ∈ (items.filter (fun a => !p a)).take (count - (items.filter p).length) ↔
      a ∈ items.take count ∧ p a = false := by
  have hlate : ∀ a ∈ items.drop count, p a = false := by
    intro a ha
    by_contra hp
    have htake := hearly a (List.mem_of_mem_drop ha) (by simpa using hp)
    exact List.disjoint_take_drop hnodup le_rfl htake ha
  have hnone : (items.drop count).filter p = [] := by
    rw [List.filter_eq_nil_iff]
    exact fun a ha => by simp [hlate a ha]
  have hall : (items.drop count).filter (fun a => !p a) = items.drop count := by
    rw [List.filter_eq_self]
    exact fun a ha => by simp [hlate a ha]
  have hsplit : items.filter (fun a => !p a) =
      (items.take count).filter (fun a => !p a) ++ items.drop count := by
    conv_lhs => rw [← List.take_append_drop count items]
    rw [List.filter_append, hall]
  have hcount : (items.filter p).length = ((items.take count).filter p).length := by
    conv_lhs => rw [← List.take_append_drop count items]
    rw [List.filter_append, hnone, List.append_nil]
  have hlength := List.length_eq_length_filter_add (l := items.take count) p
  have htaken : (items.filter (fun a => !p a)).take (count - (items.filter p).length) =
      (items.take count).filter (fun a => !p a) := by
    rw [hsplit, hcount]
    rw [List.length_take] at hlength
    by_cases hle : count ≤ items.length
    · rw [List.take_append_of_le_length (by omega), List.take_of_length_le (by omega)]
    · rw [List.drop_eq_nil_of_le (by omega), List.append_nil, List.take_of_length_le (by omega)]
  rw [htaken, List.mem_filter]
  simp

end GT3Code.Base
