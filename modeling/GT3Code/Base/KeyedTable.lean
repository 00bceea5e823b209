import Mathlib.Data.List.Nodup
import Mathlib.Data.List.Lemmas

/-! # Tables under one unique index

A table is its list of rows together with the proof that its index holds no key
twice. The index is partial, as a `UNIQUE` index over nullable columns is: rows
without a key never collide. Replacement keeps a row's position, so a listing
with a stable order is a function of the rows alone.
-/

namespace GT3Code.Base

universe u v

variable {ρ : Type u} {κ : Type v}

theorem nodup_filterMap_iff {ι : Type v} {id : ρ → ι} {key : ρ → Option κ} {rows : List ρ}
    (hid : (rows.map id).Nodup) :
    (rows.filterMap key).Nodup ↔
      ∀ r ∈ rows, ∀ s ∈ rows, ∀ k, key r = some k → key s = some k → id r = id s := by
  induction rows with
  | nil => simp
  | cons x rest ih =>
    simp only [List.map_cons, List.nodup_cons] at hid
    have fresh : ∀ s ∈ rest, id x ≠ id s :=
      fun s hs he => hid.1 (List.mem_map.mpr ⟨s, hs, he.symm⟩)
    constructor
    · intro hu r hr s hs k hrk hsk
      have tail : (rest.filterMap key).Nodup := by
        cases hx : key x with
        | none => simpa [List.filterMap_cons, hx] using hu
        | some kx => exact (List.nodup_cons.mp (by simpa [List.filterMap_cons, hx] using hu)).2
      have head : key x = some k → ∀ y ∈ rest, key y ≠ some k := by
        intro hx y hy hyk
        rw [List.filterMap_cons_some hx, List.nodup_cons] at hu
        exact hu.1 (List.mem_filterMap.mpr ⟨y, hy, hyk⟩)
      rcases List.mem_cons.mp hr with rfl | hr'
      · rcases List.mem_cons.mp hs with rfl | hs'
        · rfl
        · exact absurd hsk (head hrk s hs')
      · rcases List.mem_cons.mp hs with rfl | hs'
        · exact absurd hrk (head hsk r hr')
        · exact (ih hid.2).mp tail r hr' s hs' k hrk hsk
    · intro h
      have tail := (ih hid.2).mpr (fun r hr s hs =>
        h r (List.mem_cons_of_mem _ hr) s (List.mem_cons_of_mem _ hs))
      cases hx : key x with
      | none => rwa [List.filterMap_cons_none hx]
      | some k =>
        rw [List.filterMap_cons_some hx, List.nodup_cons]
        refine ⟨?_, tail⟩
        intro hmem
        obtain ⟨s, hs, hsk⟩ := List.mem_filterMap.mp hmem
        exact fresh s hs (h x List.mem_cons_self s (List.mem_cons_of_mem _ hs) k hx hsk)

/-- Rows under the unique index `key`. -/
structure KeyedTable (key : ρ → Option κ) where
  rows : List ρ
  unique : (rows.filterMap key).Nodup

namespace KeyedTable

variable {key : ρ → Option κ}

@[ext] theorem ext {s t : KeyedTable key} (h : s.rows = t.rows) : s = t := by
  cases s
  cases t
  cases h
  rfl

instance [DecidableEq ρ] : DecidableEq (KeyedTable key) := fun s t =>
  decidable_of_iff (s.rows = t.rows) ⟨ext, congrArg rows⟩

def empty (key : ρ → Option κ) : KeyedTable key := ⟨[], by simp⟩

instance : Inhabited (KeyedTable key) := ⟨empty key⟩

@[simp] theorem rows_empty : (empty key).rows = [] := rfl

/-! ## Insertion -/

section Put

variable [DecidableEq κ]

/-- Replace the row holding `row`'s key, or append `row`. -/
@[grind] def putRow (key : ρ → Option κ) (row : ρ) : List ρ → List ρ
  | [] => [row]
  | r :: rest =>
    if (key row).isSome ∧ key r = key row then row :: rest else r :: putRow key row rest

theorem mem_putRow_self (row : ρ) (rows : List ρ) : row ∈ putRow key row rows := by
  induction rows with
  | nil => simp [putRow]
  | cons r rest ih =>
    unfold putRow
    split
    · simp
    · exact List.mem_cons_of_mem _ ih

variable {row r : ρ} {rows : List ρ} {k : κ} {t : KeyedTable key}

theorem mem_of_mem_putRow (h : r ∈ putRow key row rows) : r = row ∨ r ∈ rows := by
  induction rows with
  | nil => simpa [putRow] using h
  | cons s rest ih =>
    unfold putRow at h
    split at h
    · rcases List.mem_cons.mp h with h | h
      · exact Or.inl h
      · exact Or.inr (List.mem_cons_of_mem _ h)
    · rcases List.mem_cons.mp h with h | h
      · exact Or.inr (h ▸ List.mem_cons_self)
      · exact (ih h).imp_right (List.mem_cons_of_mem _)

theorem mem_putRow_of_ne (hr : r ∈ rows) (hne : key r ≠ key row) : r ∈ putRow key row rows := by
  induction rows with
  | nil => simp at hr
  | cons s rest ih =>
    unfold putRow
    split
    · rename_i hs
      rcases List.mem_cons.mp hr with rfl | hr
      · exact absurd hs.2 hne
      · exact List.mem_cons_of_mem _ hr
    · rcases List.mem_cons.mp hr with rfl | hr
      · exact List.mem_cons_self
      · exact List.mem_cons_of_mem _ (ih hr)

theorem putRow_of_fresh (h : ∀ r ∈ rows, key r ≠ key row) :
    putRow key row rows = rows ++ [row] := by
  induction rows with
  | nil => rfl
  | cons r rest ih =>
    have hr : ¬ ((key row).isSome ∧ key r = key row) := fun hk => h r List.mem_cons_self hk.2
    rw [putRow, if_neg hr, ih (fun s hs => h s (List.mem_cons_of_mem _ hs)), List.cons_append]

theorem putRow_of_keyless (h : key row = none) : putRow key row rows = rows ++ [row] := by
  induction rows with
  | nil => rfl
  | cons r rest ih => simp [putRow, h, ih]

theorem unique_putRow (row : ρ) (h : (rows.filterMap key).Nodup) :
    ((putRow key row rows).filterMap key).Nodup := by
  induction rows with
  | nil => cases hk : key row <;> simp [putRow, hk]
  | cons r rest ih =>
    unfold putRow
    split
    · rename_i hs
      simpa [List.filterMap_cons, hs.2] using h
    · rename_i hs
      cases hk : key r with
      | none =>
        simp only [List.filterMap_cons, hk] at h ⊢
        exact ih h
      | some k =>
        simp only [List.filterMap_cons, hk, List.nodup_cons, List.mem_filterMap] at h ⊢
        refine ⟨?_, ih h.2⟩
        rintro ⟨s, hmem, hkey⟩
        rcases mem_of_mem_putRow hmem with rfl | hmem
        · exact hs ⟨by simp [hkey], hk.trans hkey.symm⟩
        · exact h.1 ⟨s, hmem, hkey⟩

/-- `INSERT ... ON CONFLICT (key) DO UPDATE`. -/
def put (row : ρ) (t : KeyedTable key) : KeyedTable key :=
  ⟨putRow key row t.rows, unique_putRow row t.unique⟩

@[simp] theorem rows_put (row : ρ) (t : KeyedTable key) :
    (t.put row).rows = putRow key row t.rows := rfl

/-- The row with key `k`. -/
def lookup (k : κ) (t : KeyedTable key) : Option ρ := t.rows.find? (fun r => key r = some k)

@[simp] theorem lookup_empty (k : κ) : (empty key).lookup k = none := rfl

theorem mem_of_lookup (h : t.lookup k = some r) : r ∈ t.rows ∧ key r = some k :=
  ⟨List.mem_of_find?_eq_some h, by simpa using List.find?_some h⟩

omit [DecidableEq κ] in
theorem eq_of_key {t : KeyedTable key} {r s : ρ} {k : κ} (hr : r ∈ t.rows) (hs : s ∈ t.rows)
    (hrk : key r = some k) (hsk : key s = some k) : r = s := by
  obtain ⟨rows, hu⟩ := t
  induction rows with
  | nil => simp at hr
  | cons x rest ih =>
    have tail : (rest.filterMap key).Nodup := by
      cases hx : key x with
      | none => simpa [List.filterMap_cons, hx] using hu
      | some kx =>
        simp only [List.filterMap_cons, hx, List.nodup_cons] at hu
        exact hu.2
    have fresh : key x = some k → ∀ y ∈ rest, key y ≠ some k := by
      intro hx y hy hyk
      simp only [List.filterMap_cons, hx, List.nodup_cons, List.mem_filterMap] at hu
      exact hu.1 ⟨y, hy, hyk⟩
    rcases List.mem_cons.mp hr with rfl | hr'
    · rcases List.mem_cons.mp hs with rfl | hs'
      · rfl
      · exact absurd hsk (fresh hrk s hs')
    · rcases List.mem_cons.mp hs with rfl | hs'
      · exact absurd hrk (fresh hsk r hr')
      · exact ih tail hr' hs'

theorem lookup_eq_some_iff : t.lookup k = some r ↔ r ∈ t.rows ∧ key r = some k := by
  refine ⟨mem_of_lookup, ?_⟩
  rintro ⟨hr, hk⟩
  cases h : t.lookup k with
  | none =>
    have := List.find?_eq_none.mp h r hr
    simp [hk] at this
  | some s =>
    obtain ⟨hs, hsk⟩ := mem_of_lookup h
    rw [eq_of_key hs hr hsk hk]

theorem lookup_eq_none_iff : t.lookup k = none ↔ ∀ r ∈ t.rows, key r ≠ some k := by
  simp [lookup, List.find?_eq_none]

theorem lookup_put_self (hk : key row = some k) (t : KeyedTable key) :
    (t.put row).lookup k = some row :=
  lookup_eq_some_iff.mpr ⟨mem_putRow_self row t.rows, hk⟩

theorem lookup_put_of_ne (hk : key row ≠ some k) (t : KeyedTable key) :
    (t.put row).lookup k = t.lookup k := by
  cases h : t.lookup k with
  | none =>
    rw [lookup_eq_none_iff] at h ⊢
    intro r hr
    rcases mem_of_mem_putRow hr with rfl | hr
    · exact hk
    · exact h r hr
  | some s =>
    rw [lookup_eq_some_iff] at h ⊢
    exact ⟨mem_putRow_of_ne h.1 (fun he => hk (he ▸ h.2)), h.2⟩

theorem mem_put_iff (hk : key row = some k) :
    r ∈ (t.put row).rows ↔ r = row ∨ r ∈ t.rows ∧ key r ≠ some k := by
  have hrow : row ∈ (t.put row).rows := mem_putRow_self row t.rows
  constructor
  · intro hr
    by_cases heq : r = row
    · exact Or.inl heq
    · have hold : r ∈ t.rows := (mem_of_mem_putRow hr).resolve_left heq
      refine Or.inr ⟨hold, fun hrk => ?_⟩
      exact heq (eq_of_key hr hrow hrk hk)
  · rintro (rfl | ⟨hr, hne⟩)
    · exact hrow
    · exact mem_putRow_of_ne hr (hk ▸ hne)

theorem rows_put_of_lookup {existing : ρ} (h : t.lookup k = some existing) (hk : key row = some k) :
    ∃ before after, t.rows = before ++ existing :: after ∧
      (t.put row).rows = before ++ row :: after := by
  obtain ⟨rows, hu⟩ := t
  induction rows with
  | nil => simp [lookup] at h
  | cons r rest ih =>
    by_cases hr : key r = some k
    · have hfound : r = existing := by simpa [lookup, hr] using h
      subst hfound
      refine ⟨[], rest, rfl, ?_⟩
      rw [rows_put, putRow, if_pos ⟨hk ▸ rfl, hr.trans hk.symm⟩, List.nil_append]
    · have htail : (rest.filterMap key).Nodup :=
        hu.sublist ((List.sublist_cons_self r rest).filterMap key)
      have hrest : (⟨rest, htail⟩ : KeyedTable key).lookup k = some existing := by
        simpa [lookup, hr] using h
      obtain ⟨before, after, hrows, hput⟩ := ih htail hrest
      refine ⟨r :: before, after, congrArg (r :: ·) hrows, ?_⟩
      rw [rows_put, putRow, if_neg (fun hheld => hr (hheld.2.trans hk)), List.cons_append]
      exact congrArg (r :: ·) hput

theorem filter_put {p : ρ → Bool} (hrow : p row = false)
    (hold : ∀ k r, key row = some k → t.lookup k = some r → p r = false) :
    (t.put row).rows.filter p = t.rows.filter p := by
  have step : ∀ rows : List ρ,
      (∀ r ∈ rows, (key row).isSome → key r = key row → p r = false) →
      (putRow key row rows).filter p = rows.filter p := by
    intro rows
    induction rows with
    | nil => simp [putRow, hrow]
    | cons r rest ih =>
      intro h
      unfold putRow
      split
      · rename_i hs
        simp [hrow, h r List.mem_cons_self hs.1 hs.2]
      · rw [List.filter_cons, List.filter_cons,
          ih (fun s hs => h s (List.mem_cons_of_mem _ hs))]
  refine step t.rows ?_
  intro r hr hsome hkey
  obtain ⟨k, hk⟩ := Option.isSome_iff_exists.mp hsome
  exact hold k r hk (lookup_eq_some_iff.mpr ⟨hr, hkey.trans hk⟩)

end Put

/-! ## Deletion and update in place -/

/-- Keep the rows satisfying `p`. -/
def restrict (p : ρ → Bool) (t : KeyedTable key) : KeyedTable key :=
  ⟨t.rows.filter p, t.unique.sublist (List.filter_sublist.filterMap key)⟩

@[simp] theorem rows_restrict (p : ρ → Bool) (t : KeyedTable key) :
    (t.restrict p).rows = t.rows.filter p := rfl

/-- `UPDATE ... SET` with an assignment that leaves the key columns alone. -/
def amend (f : ρ → ρ) (hf : ∀ r, key (f r) = key r) (t : KeyedTable key) : KeyedTable key :=
  ⟨t.rows.map f, by
    rw [List.filterMap_map, show key ∘ f = key from funext hf]
    exact t.unique⟩

@[simp] theorem rows_amend (f : ρ → ρ) (hf : ∀ r, key (f r) = key r) (t : KeyedTable key) :
    (t.amend f hf).rows = t.rows.map f := rfl

section Lookup

variable [DecidableEq κ]

theorem lookup_restrict (p : ρ → Bool) (k : κ) (t : KeyedTable key) :
    (t.restrict p).lookup k = (t.lookup k).filter p := by
  cases h : t.lookup k with
  | none =>
    rw [lookup_eq_none_iff] at h
    rw [Option.filter_none, lookup_eq_none_iff]
    exact fun r hr => h r (List.mem_of_mem_filter hr)
  | some r =>
    rw [lookup_eq_some_iff] at h
    by_cases hp : p r
    · rw [Option.filter_some_pos hp, lookup_eq_some_iff]
      exact ⟨List.mem_filter.mpr ⟨h.1, hp⟩, h.2⟩
    · rw [Option.filter_some_neg (by simpa using hp), lookup_eq_none_iff]
      intro s hs hsk
      obtain ⟨hmem, hps⟩ := List.mem_filter.mp hs
      exact hp (eq_of_key h.1 hmem h.2 hsk ▸ hps)

theorem lookup_amend (f : ρ → ρ) (hf : ∀ r, key (f r) = key r) (k : κ) (t : KeyedTable key) :
    (t.amend f hf).lookup k = (t.lookup k).map f := by
  cases h : t.lookup k with
  | none =>
    rw [lookup_eq_none_iff] at h
    rw [Option.map_none, lookup_eq_none_iff]
    intro r hr
    obtain ⟨s, hs, rfl⟩ := List.mem_map.mp hr
    rw [hf]
    exact h s hs
  | some r =>
    rw [lookup_eq_some_iff] at h
    rw [Option.map_some, lookup_eq_some_iff]
    exact ⟨List.mem_map.mpr ⟨r, h.1, rfl⟩, (hf r).trans h.2⟩

end Lookup

def putAll [DecidableEq κ] (rows : List ρ) (t : KeyedTable key) : KeyedTable key :=
  rows.foldl (fun t row => t.put row) t

@[simp] theorem putAll_nil [DecidableEq κ] (t : KeyedTable key) : t.putAll [] = t := rfl

@[simp] theorem putAll_cons [DecidableEq κ] (row : ρ) (rows : List ρ) (t : KeyedTable key) :
    t.putAll (row :: rows) = (t.put row).putAll rows := rfl

theorem lookup_putAll_of_forall_ne [DecidableEq κ] {k : κ} {rows : List ρ}
    (h : ∀ row ∈ rows, key row ≠ some k) (t : KeyedTable key) :
    (t.putAll rows).lookup k = t.lookup k := by
  induction rows generalizing t with
  | nil => rfl
  | cons row rest ih =>
    rw [putAll_cons, ih (fun r hr => h r (List.mem_cons_of_mem _ hr)),
      lookup_put_of_ne (h row List.mem_cons_self)]

theorem lookup_putAll_of_mem [DecidableEq κ] {k : κ} {rows : List ρ} {row : ρ}
    (hunique : (rows.filterMap key).Nodup) (hmem : row ∈ rows) (hk : key row = some k)
    (t : KeyedTable key) : (t.putAll rows).lookup k = some row := by
  induction rows generalizing t with
  | nil => cases hmem
  | cons r rest ih =>
    rw [putAll_cons]
    have htail : (rest.filterMap key).Nodup :=
      hunique.sublist ((List.sublist_cons_self r rest).filterMap key)
    rcases List.mem_cons.mp hmem with rfl | hrest
    · have hfresh : ∀ s ∈ rest, key s ≠ some k := by
        intro s hs hsk
        rw [List.filterMap_cons_some hk, List.nodup_cons] at hunique
        exact hunique.1 (List.mem_filterMap.mpr ⟨s, hs, hsk⟩)
      rw [lookup_putAll_of_forall_ne hfresh, lookup_put_self hk]
    · exact ih htail hrest _

theorem putAll_append [DecidableEq κ] {t : KeyedTable key} :
    ∀ {rows : List ρ}, ((t.rows ++ rows).filterMap key).Nodup →
      (t.putAll rows).rows = t.rows ++ rows := by
  intro rows
  induction rows generalizing t with
  | nil => intro _; simp [putAll]
  | cons row rest ih =>
    intro h
    have hput : putRow key row t.rows = t.rows ++ [row] := by
      cases hk : key row with
      | none => exact putRow_of_keyless hk
      | some k =>
        refine putRow_of_fresh ?_
        intro r hr hrk
        rw [List.filterMap_append, List.nodup_append] at h
        refine h.2.2 k ?_ k ?_ rfl
        · exact List.mem_filterMap.mpr ⟨r, hr, hrk.trans hk⟩
        · exact List.mem_filterMap.mpr ⟨row, List.mem_cons_self, hk⟩
    have hnext : (((t.put row).rows ++ rest).filterMap key).Nodup := by
      rw [rows_put, hput, List.append_assoc]
      exact h
    have := ih hnext
    rw [rows_put, hput, List.append_assoc] at this
    exact this

section Parts

variable [DecidableEq κ] {p : ρ → Bool} {t : KeyedTable key}

theorem restrict_put_of_false {row : ρ} (hrow : p row = false)
    (hold : ∀ k r, key row = some k → t.lookup k = some r → p r = false) :
    (t.put row).restrict p = t.restrict p := ext (filter_put hrow hold)

theorem restrict_put_of_true {row : ρ} (hrow : p row = true)
    (hold : ∀ k r, key row = some k → t.lookup k = some r → p r = true) :
    (t.put row).restrict p = (t.restrict p).put row := by
  have step : ∀ rows : List ρ,
      (∀ r ∈ rows, (key row).isSome → key r = key row → p r = true) →
      (putRow key row rows).filter p = putRow key row (rows.filter p) := by
    intro rows
    induction rows with
    | nil =>
      intro _
      simp [putRow, hrow]
    | cons r rest ih =>
      intro h
      by_cases hs : (key row).isSome ∧ key r = key row
      · have hr : p r = true := h r List.mem_cons_self hs.1 hs.2
        rw [putRow, if_pos hs, List.filter_cons_of_pos hrow, List.filter_cons_of_pos hr, putRow,
          if_pos hs]
      · have hrest := ih (fun s hmem => h s (List.mem_cons_of_mem _ hmem))
        rw [putRow, if_neg hs]
        by_cases hr : p r = true
        · rw [List.filter_cons_of_pos hr, List.filter_cons_of_pos hr, hrest, putRow, if_neg hs]
        · rw [List.filter_cons_of_neg hr, List.filter_cons_of_neg hr, hrest]
  apply ext
  refine step t.rows ?_
  intro r hr hsome hkey
  obtain ⟨k, hk⟩ := Option.isSome_iff_exists.mp hsome
  exact hold k r hk (lookup_eq_some_iff.mpr ⟨hr, hkey.trans hk⟩)

omit [DecidableEq κ] in
theorem restrict_restrict_comm (q : ρ → Bool) :
    (t.restrict q).restrict p = (t.restrict p).restrict q := by
  apply ext
  rw [rows_restrict, rows_restrict, rows_restrict, rows_restrict, List.filter_filter,
    List.filter_filter]
  exact List.filter_congr (fun r _ => Bool.and_comm _ _)

omit [DecidableEq κ] in
theorem restrict_restrict_of_imp {q : ρ → Bool} (h : ∀ r, p r = true → q r = true) :
    (t.restrict q).restrict p = t.restrict p := by
  apply ext
  rw [rows_restrict, rows_restrict, rows_restrict, List.filter_filter]
  refine List.filter_congr (fun r _ => ?_)
  cases hp : p r with
  | true => rw [h r hp, Bool.and_true]
  | false => rw [Bool.false_and]

omit [DecidableEq κ] in
theorem restrict_amend {f : ρ → ρ} {hf : ∀ r, key (f r) = key r} (hp : ∀ r, p (f r) = p r) :
    (t.amend f hf).restrict p = (t.restrict p).amend f hf := by
  apply ext
  rw [rows_restrict, rows_amend, rows_amend, rows_restrict, List.filter_map]
  congr 1
  exact List.filter_congr (fun r _ => hp r)

omit [DecidableEq κ] in
theorem restrict_amend_of_false {f : ρ → ρ} {hf : ∀ r, key (f r) = key r}
    (hp : ∀ r, p (f r) = p r) (hsame : ∀ r, p r = true → f r = r) :
    (t.amend f hf).restrict p = t.restrict p := by
  rw [restrict_amend hp]
  apply ext
  rw [rows_amend, rows_restrict]
  refine (List.map_congr_left ?_).trans (List.map_id _)
  intro r hr
  exact hsame r (List.mem_filter.mp hr).2

end Parts

end KeyedTable

end GT3Code.Base
