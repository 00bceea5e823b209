import GT3Code.Base.KeyedTable
import Mathlib.Data.List.Perm.Subperm

/-! # Maps

A `Map` is a table of entries under their keys, in insertion order.
-/

namespace GT3Code.Base

universe u v

abbrev KeyedMap (K : Type u) (V : Type v) := KeyedTable (fun entry : K × V => some entry.1)

namespace KeyedMap

variable {K : Type u} {V : Type v} [DecidableEq K]

def get (key : K) (map : KeyedMap K V) : Option V := (KeyedTable.lookup key map).map Prod.snd

def set (key : K) (value : V) (map : KeyedMap K V) : KeyedMap K V := KeyedTable.put (key, value) map

def delete (key : K) (map : KeyedMap K V) : KeyedMap K V :=
  map.restrict (fun entry => !decide (entry.1 = key))

def has (key : K) (map : KeyedMap K V) : Bool := (get key map).isSome

variable {key other : K} {value : V} {map : KeyedMap K V}

theorem get_eq_some_iff : get key map = some value ↔ (key, value) ∈ map.rows := by
  unfold get
  rw [Option.map_eq_some_iff]
  constructor
  · rintro ⟨entry, hfound, rfl⟩
    obtain ⟨hmem, hkey⟩ := KeyedTable.lookup_eq_some_iff.mp hfound
    cases Option.some.inj hkey
    exact hmem
  · intro hmem
    exact ⟨(key, value), KeyedTable.lookup_eq_some_iff.mpr ⟨hmem, rfl⟩, rfl⟩

theorem has_iff_mem_keys : has key map = true ↔ key ∈ map.rows.map Prod.fst := by
  unfold has
  rw [Option.isSome_iff_exists, List.mem_map]
  constructor
  · rintro ⟨value, hvalue⟩
    exact ⟨(key, value), get_eq_some_iff.mp hvalue, rfl⟩
  · rintro ⟨⟨other, value⟩, hmem, rfl⟩
    exact ⟨value, get_eq_some_iff.mpr hmem⟩

omit [DecidableEq K] in
theorem nodup_keys (map : KeyedMap K V) : (map.rows.map Prod.fst).Nodup := by
  have hunique := map.unique
  rwa [List.filterMap_eq_map'] at hunique

@[simp] theorem get_empty (key : K) : get key (KeyedTable.empty _ : KeyedMap K V) = none := rfl

@[simp] theorem get_set_self (key : K) (value : V) (map : KeyedMap K V) :
    get key (set key value map) = some value := by
  have hfound : KeyedTable.lookup key (set key value map) = some (key, value) :=
    KeyedTable.lookup_put_self (by rfl) map
  rw [get, hfound]
  rfl

theorem get_set_of_ne (h : other ≠ key) (value : V) (map : KeyedMap K V) :
    get other (set key value map) = get other map := by
  have hfound : KeyedTable.lookup other (set key value map) = KeyedTable.lookup other map :=
    KeyedTable.lookup_put_of_ne (by simpa using h.symm) map
  rw [get, hfound]
  rfl

theorem mem_set_iff {entry : K × V} :
    entry ∈ (set key value map).rows ↔
      entry = (key, value) ∨ entry ∈ map.rows ∧ entry.1 ≠ key := by
  have hput : entry ∈ (set key value map).rows ↔
      entry = (key, value) ∨ entry ∈ map.rows ∧ some entry.1 ≠ some key :=
    KeyedTable.mem_put_iff (by rfl)
  simpa only [ne_eq, Option.some.injEq] using hput

theorem flatMap_set_perm {β : Type*} {f : K × V → List β} {added : List β}
    (h : (f (key, value)).Perm (((get key map).map (fun old => f (key, old))).getD [] ++ added)) :
    ((set key value map).rows.flatMap f).Perm (map.rows.flatMap f ++ added) := by
  cases hfound : get key map with
  | none =>
    have hfresh : ∀ entry ∈ map.rows, some entry.1 ≠ some key := by
      intro entry hentry heq
      cases Option.some.inj heq
      rw [get_eq_some_iff.mpr hentry] at hfound
      cases hfound
    have hrows : (set key value map).rows = map.rows ++ [(key, value)] :=
      KeyedTable.putRow_of_fresh hfresh
    rw [hfound] at h
    rw [hrows, List.flatMap_append, List.flatMap_singleton]
    exact h.append_left _
  | some old =>
    have hlookup : KeyedTable.lookup key map = some (key, old) :=
      KeyedTable.lookup_eq_some_iff.mpr ⟨get_eq_some_iff.mp hfound, rfl⟩
    obtain ⟨before, after, hrows, hset⟩ : ∃ before after,
        map.rows = before ++ (key, old) :: after ∧
          (set key value map).rows = before ++ (key, value) :: after :=
      KeyedTable.rows_put_of_lookup hlookup rfl
    rw [hfound] at h
    rw [hset, hrows, List.flatMap_append, List.flatMap_append, List.flatMap_cons,
      List.flatMap_cons, List.append_assoc, List.append_assoc]
    refine List.Perm.append_left _ ((h.append_right _).trans ?_)
    rw [Option.map_some, Option.getD_some, List.append_assoc]
    exact List.Perm.append_left _ List.perm_append_comm

@[simp] theorem get_delete_self (key : K) (map : KeyedMap K V) : get key (delete key map) = none := by
  unfold get delete
  rw [KeyedTable.lookup_restrict, Option.map_eq_none_iff, Option.filter_eq_none_iff]
  intro entry hentry
  have hkey := (KeyedTable.lookup_eq_some_iff.mp hentry).2
  simpa using hkey

theorem get_delete_of_ne (h : other ≠ key) (map : KeyedMap K V) :
    get other (delete key map) = get other map := by
  unfold get delete
  rw [KeyedTable.lookup_restrict]
  cases hfound : KeyedTable.lookup other map with
  | none => rfl
  | some entry =>
    have hkey := (KeyedTable.lookup_eq_some_iff.mp hfound).2
    rw [Option.filter_some_pos]
    simp only [Option.some.injEq] at hkey
    simpa [hkey] using h

theorem get_of_get_delete (h : get other (delete key map) = some value) :
    get other map = some value := by
  by_cases hkey : other = key
  · rw [hkey, get_delete_self] at h
    cases h
  · rwa [get_delete_of_ne hkey] at h

theorem get_of_get_restrict {p : K × V → Bool} (h : get key (map.restrict p) = some value) :
    get key map = some value := by
  rw [get_eq_some_iff, KeyedTable.rows_restrict] at h
  exact get_eq_some_iff.mpr (List.mem_of_mem_filter h)

theorem has_set_iff :
    has other (set key value map) = true ↔ other = key ∨ has other map = true := by
  by_cases h : other = key
  · subst h
    simp [has]
  · simp [has, get_set_of_ne h, h]

theorem has_delete_iff :
    has other (delete key map) = true ↔ other ≠ key ∧ has other map = true := by
  by_cases h : other = key
  · subst h
    simp [has]
  · simp [has, get_delete_of_ne h, h]

theorem length_delete_lt (h : get key map = some value) :
    (delete key map).rows.length < map.rows.length := by
  obtain ⟨entry, hfound, -⟩ := Option.map_eq_some_iff.mp h
  obtain ⟨hmem, hkey⟩ := KeyedTable.lookup_eq_some_iff.mp hfound
  unfold delete
  rw [KeyedTable.rows_restrict]
  refine List.length_filter_lt_length_iff_exists.mpr ⟨entry, hmem, ?_⟩
  simpa using hkey

theorem get_eq_of_subset {left right : KeyedMap K V} (hsize : left.rows.length = right.rows.length)
    (h : ∀ entry ∈ left.rows, get entry.1 right = some entry.2) (key : K) :
    get key left = get key right := by
  have hsub : left.rows ⊆ right.rows := fun entry hentry => get_eq_some_iff.mp (h entry hentry)
  have hperm : left.rows.Perm right.rows :=
    ((List.Nodup.of_map _ (nodup_keys left)).subperm hsub).perm_of_length_le hsize.ge
  refine Option.ext (fun value => ?_)
  rw [get_eq_some_iff, get_eq_some_iff, hperm.mem_iff]

/-- `new Map(entries)`. -/
def ofEntries (entries : List (K × V)) : KeyedMap K V := (KeyedTable.empty _).putAll entries

theorem get_ofEntries {entries : List (K × V)} (h : (entries.map Prod.fst).Nodup) :
    get key (ofEntries entries) = some value ↔ (key, value) ∈ entries := by
  have hrows : (ofEntries entries).rows = entries := by
    refine KeyedTable.putAll_append ?_
    rwa [KeyedTable.rows_empty, List.nil_append, List.filterMap_eq_map']
  rw [get_eq_some_iff, hrows]

end KeyedMap

end GT3Code.Base
