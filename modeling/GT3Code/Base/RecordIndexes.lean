import GT3Code.Base.Record

/-! # Indexes kept next to a record

A record is listed by the distinct ids of its entries. An index groups keys: it has an
entry for every group some key belongs to, the distinct keys of that group.
-/

namespace GT3Code.Base.Record

universe u v w

variable {κ : Type u} {α : Type v} {γ : Type w}

structure ListedBy (record : Record κ α) (ids : List κ) : Prop where
  nodup : ids.Nodup
  mem : ∀ key, key ∈ ids ↔ (record key).isSome

structure GroupedBy (groups : Record γ (List κ)) (groupOf : Record κ γ) : Prop where
  nonempty : ∀ group, groups group ≠ some []
  nodup : ∀ group, ((groups group).getD []).Nodup
  mem : ∀ group key, key ∈ (groups group).getD [] ↔ groupOf key = some group

variable {record : Record κ α} {ids : List κ} {key old : κ} {value : α}
  {groups : Record γ (List κ)} {groupOf : Record κ γ} {group : γ}

theorem listedBy_empty : (empty κ α).ListedBy [] :=
  ⟨List.nodup_nil, fun _ => by simp [empty]⟩

theorem groupedBy_empty : (empty γ (List κ)).GroupedBy (empty κ γ) :=
  ⟨fun _ => by simp [empty], fun _ => List.nodup_nil, fun _ _ => by simp [empty]⟩

theorem ListedBy.map_collect {keyOf : α → κ} (h : record.ListedBy ids)
    (hkeyed : ∀ {k item}, record k = some item → keyOf item = k) :
    (collect ids record).map keyOf = ids := by
  have hfound : ∀ key ∈ ids, ((record key).map keyOf) = some key := by
    intro key hkey
    obtain ⟨item, hitem⟩ := Option.isSome_iff_exists.mp ((h.mem key).mp hkey)
    rw [hitem, Option.map_some, hkeyed hitem]
  unfold collect
  rw [List.map_filterMap]
  calc ids.filterMap (fun key => (record key).map keyOf)
      = ids.filterMap some := List.filterMap_congr hfound
    _ = ids := List.filterMap_some

section Listed

variable [DecidableEq κ]

theorem ListedBy.set (h : record.ListedBy ids) (key : κ) (value : α) :
    (record.set key value).ListedBy (if key ∈ ids then ids else ids ++ [key]) := by
  by_cases hkey : key ∈ ids
  · rw [if_pos hkey]
    refine ⟨h.nodup, fun other => ?_⟩
    by_cases hother : other = key
    · subst hother
      simp [hkey]
    · rw [set_of_ne hother, h.mem]
  · rw [if_neg hkey]
    refine ⟨List.nodup_append.mpr ⟨h.nodup, List.nodup_singleton key, ?_⟩, fun other => ?_⟩
    · rintro other hother _ hlast rfl
      exact hkey (List.mem_singleton.mp hlast ▸ hother)
    · by_cases hother : other = key
      · subst hother
        simp
      · rw [set_of_ne hother, ← h.mem]
        simp [hother]

theorem ListedBy.remove (h : record.ListedBy ids) (key : κ) :
    (record.remove key).ListedBy (ids.filter (fun other => other ≠ key)) := by
  refine ⟨h.nodup.filter _, fun other => ?_⟩
  by_cases hother : other = key
  · subst hother
    simp
  · rw [remove_of_ne hother, ← h.mem]
    simp [hother]

theorem listedBy_fromItems {keyOf : α → κ} {items : List α} (hnodup : (items.map keyOf).Nodup) :
    (fromItems keyOf items).ListedBy (items.map keyOf) := by
  refine ⟨hnodup, fun key => ?_⟩
  constructor
  · intro hkey
    obtain ⟨item, hitem, rfl⟩ := List.mem_map.mp hkey
    have hinj : Set.InjOn keyOf {item | item ∈ items} :=
      fun _ ha _ hb h => List.inj_on_of_nodup_map hnodup ha hb h
    rw [fromItems, foldl_set_of_mem hinj hitem]
    rfl
  · intro hkey
    by_contra hnone
    have hfresh : ∀ item ∈ items, keyOf item ≠ key :=
      fun item hitem heq => hnone (List.mem_map.mpr ⟨item, hitem, heq⟩)
    rw [fromItems, foldl_set_of_not_mem hfresh] at hkey
    cases hkey

theorem ListedBy.replace (h : record.ListedBy ids) (hold : old ∈ ids) (hkey : key ∉ ids) :
    ((record.remove old).set key value).ListedBy
      (ids.map (fun other => if other = old then key else other)) := by
  constructor
  · refine List.Nodup.map_on (fun a ha b hb hab => ?_) h.nodup
    split at hab <;> split at hab
    · simp_all
    · exact absurd (hab ▸ hb) hkey
    · exact absurd (hab ▸ ha) hkey
    · exact hab
  · intro other
    rw [List.mem_map]
    by_cases hother : other = key
    · subst hother
      rw [set_self]
      exact ⟨fun _ => rfl, fun _ => ⟨old, hold, if_pos rfl⟩⟩
    · rw [set_of_ne hother]
      by_cases hremoved : other = old
      · subst hremoved
        rw [remove_self]
        refine ⟨?_, nofun⟩
        rintro ⟨k, -, hk⟩
        split at hk
        · exact absurd hk.symm hother
        · exact absurd hk ‹_›
      · rw [remove_of_ne hremoved, ← h.mem]
        constructor
        · rintro ⟨k, hk, heq⟩
          split at heq
          · exact absurd heq.symm hother
          · exact heq ▸ hk
        · exact fun hk => ⟨other, hk, if_neg hremoved⟩

theorem not_nodup_replace (hne : old ≠ key) (hold : old ∈ ids) (hkey : key ∈ ids) :
    ¬(ids.map (fun other => if other = old then key else other)).Nodup := by
  intro hnodup
  refine hne (List.inj_on_of_nodup_map hnodup hold hkey ?_)
  rw [if_pos rfl, if_neg hne.symm]

end Listed

section Grouped

variable [DecidableEq γ]

theorem GroupedBy.update (h : groups.GroupedBy groupOf) {members : Option (List κ)}
    {nextOf : Record κ γ} (hmembers : members ≠ some []) (hnodup : (members.getD []).Nodup)
    (hmem : ∀ key, key ∈ members.getD [] ↔ nextOf key = some group)
    (hother : ∀ other ≠ group, ∀ key, nextOf key = some other ↔ groupOf key = some other) :
    GroupedBy (Function.update groups group members) nextOf := by
  refine ⟨fun other => ?_, fun other => ?_, fun other key => ?_⟩ <;>
    by_cases hgroup : other = group
  · subst hgroup
    rwa [Function.update_self]
  · rw [Function.update_of_ne hgroup]
    exact h.nonempty other
  · subst hgroup
    rwa [Function.update_self]
  · rw [Function.update_of_ne hgroup]
    exact h.nodup other
  · subst hgroup
    rw [Function.update_self, hmem]
  · rw [Function.update_of_ne hgroup, h.mem, hother other hgroup]

variable [DecidableEq κ]

theorem GroupedBy.add (h : groups.GroupedBy groupOf) (hnew : groupOf key = none) (group : γ) :
    (groups.set group (if key ∈ (groups group).getD [] then (groups group).getD []
      else (groups group).getD [] ++ [key])).GroupedBy (groupOf.set key group) := by
  have hfresh : key ∉ (groups group).getD [] := by
    rw [h.mem, hnew]
    simp
  rw [if_neg hfresh]
  refine h.update (by simp) ?_ (fun other => ?_) (fun other hother k => ?_)
  · refine List.nodup_append.mpr ⟨h.nodup group, List.nodup_singleton key, ?_⟩
    rintro other hother _ hlast rfl
    exact hfresh (List.mem_singleton.mp hlast ▸ hother)
  · rw [Option.getD_some, List.mem_append, h.mem, List.mem_singleton]
    by_cases hkey : other = key
    · subst hkey
      simp
    · simp [set_of_ne hkey, hkey]
  · by_cases hkey : k = key
    · subst hkey
      simp [hnew, hother.symm]
    · rw [set_of_ne hkey]

theorem GroupedBy.drop (h : groups.GroupedBy groupOf) (hgroup : groupOf key = some group) :
    GroupedBy (if (((groups group).getD []).filter (fun other => other ≠ key)).length = 0
      then groups.remove group
      else groups.set group (((groups group).getD []).filter (fun other => other ≠ key)))
      (groupOf.remove key) := by
  have hmem : ∀ other, other ∈ ((groups group).getD []).filter (fun k => k ≠ key) ↔
      groupOf.remove key other = some group := by
    intro other
    rw [List.mem_filter, h.mem]
    by_cases hkey : other = key
    · subst hkey
      simp
    · simp [remove_of_ne hkey, hkey]
  have hother : ∀ other ≠ group, ∀ k,
      groupOf.remove key k = some other ↔ groupOf k = some other := by
    intro other hother k
    by_cases hkey : k = key
    · subst hkey
      simp [hgroup, hother.symm]
    · rw [remove_of_ne hkey]
  split
  · rename_i hnone
    rw [List.eq_nil_of_length_eq_zero hnone] at hmem
    exact h.update (by simp) List.nodup_nil hmem hother
  · rename_i hsome
    exact h.update (by simpa using hsome) ((h.nodup group).filter _) hmem hother

end Grouped

end GT3Code.Base.Record
