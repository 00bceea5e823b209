import GT3Code.Gc.FolderMetadata

/-! # Canonical folder metadata

What a stamped update makes of metadata it is merged into. The stamp is computed on
one copy and may be merged into another that holds more: the result is canonical
exactly when both give the same folder entries.
-/

namespace GT3Code.Contracts.CustomMetadata

open GT3Code.Base

@[simp] theorem get_empty (key : String) : get key (KeyedTable.empty _) = none := rfl

theorem get_putAll {entries : List (String × String)} (hunique : (entries.map Prod.fst).Nodup)
    (key : String) (metadata : CustomMetadata) :
    get key (KeyedTable.putAll entries metadata) =
      ((entries.find? (fun entry => entry.1 = key)).map Prod.snd).orElse
        (fun _ => get key metadata) := by
  cases hfound : entries.find? (fun entry => entry.1 = key) with
  | none =>
    have hother : ∀ entry ∈ entries, some entry.1 ≠ some key := by
      intro entry hentry
      simpa using List.find?_eq_none.mp hfound entry hentry
    rw [get, KeyedTable.lookup_putAll_of_forall_ne hother]
    rfl
  | some entry =>
    have hkey : some entry.1 = some key := by simpa using List.find?_some hfound
    have hkeys : (entries.filterMap (fun entry => some entry.1)).Nodup := by
      simpa [List.filterMap_eq_map'] using hunique
    rw [get, KeyedTable.lookup_putAll_of_mem hkeys (List.mem_of_find?_eq_some hfound) hkey]
    rfl

theorem get_merge (key : String) (existing incoming : CustomMetadata) :
    get key (merge existing incoming) =
      (get key incoming).orElse (fun _ => get key existing) := by
  have hunique : (incoming.rows.map Prod.fst).Nodup := by
    simpa [List.filterMap_eq_map'] using incoming.unique
  rw [merge, get_putAll hunique]
  simp only [get, KeyedTable.lookup, Option.some.injEq]

def Within (copy metadata : CustomMetadata) : Prop :=
  ∀ key value, get key copy = some value → get key metadata = some value

theorem within_empty (metadata : CustomMetadata) : Within (KeyedTable.empty _) metadata := by
  intro key value h
  cases h

theorem Within.merge {copy metadata : CustomMetadata} (h : Within copy metadata)
    (incoming : CustomMetadata) : Within (merge copy incoming) (merge metadata incoming) := by
  intro key value hvalue
  rw [get_merge] at hvalue ⊢
  cases hincoming : get key incoming with
  | none =>
    rw [hincoming] at hvalue
    exact h key value hvalue
  | some given =>
    rw [hincoming] at hvalue
    exact hvalue

end GT3Code.Contracts.CustomMetadata

namespace GT3Code.Gc

open GT3Code.Base GT3Code.Contracts GT3Code.Contracts.CustomMetadata

def folderInputKeys : List String := ["gc.agent", "gc.rig", "gc.city", "gc.sessionEnv"]

def folderKeys : List String :=
  ["gc.groupKind", "gc.groupId", "gc.groupLabel", "gc.agentQualified", "gc.agentLabel"]

def Holds (metadata : CustomMetadata) (entries : List (String × String)) : Prop :=
  ∀ entry ∈ entries, get entry.1 metadata = some entry.2

variable [TextRuntime]

def CarriesFolder (metadata : CustomMetadata) : Prop :=
  ∀ canonical, deriveCanonicalGcFolderMetadata metadata = some canonical → Holds metadata canonical

/-- The metadata carries its folder entries, and stamping it anew adds nothing. -/
structure FolderCanonical (metadata : CustomMetadata) : Prop where
  carries : CarriesFolder metadata
  restamped : buildStampedGcMetadataUpdate (some metadata) none = none

theorem deriveCanonicalGcFolderMetadata_congr {left right : CustomMetadata}
    (h : ∀ key ∈ folderInputKeys, get key left = get key right) :
    deriveCanonicalGcFolderMetadata left = deriveCanonicalGcFolderMetadata right := by
  simp only [folderInputKeys, List.forall_mem_cons] at h
  obtain ⟨hagent, hrig, hcity, henv, -⟩ := h
  simp only [deriveCanonicalGcFolderMetadata, gcCityName, hagent, hrig, hcity, henv]

variable {metadata : CustomMetadata}

theorem keys_of_derive {canonical : List (String × String)}
    (h : deriveCanonicalGcFolderMetadata metadata = some canonical) :
    canonical.map Prod.fst = folderKeys := by
  obtain ⟨agent, -, rfl⟩ := Option.map_eq_some_iff.mp h
  rfl

omit [TextRuntime] in
theorem nodup_folderKeys : folderKeys.Nodup := by decide

omit [TextRuntime] in
theorem not_mem_folderKeys {key : String} (h : key ∈ folderInputKeys) : key ∉ folderKeys := by
  simp only [folderInputKeys, List.mem_cons, List.not_mem_nil, or_false] at h
  rcases h with rfl | rfl | rfl | rfl <;> decide

omit [TextRuntime] in
theorem Holds.unique {metadata : CustomMetadata} {left right : List (String × String)}
    (hkeys : left.map Prod.fst = right.map Prod.fst) (hleft : Holds metadata left)
    (hright : Holds metadata right) : left = right := by
  induction left generalizing right with
  | nil =>
    symm
    simpa using hkeys.symm
  | cons entry left ih =>
    cases right with
    | nil => simp at hkeys
    | cons other right =>
      rw [List.map_cons, List.map_cons, List.cons.injEq] at hkeys
      have hentry := hleft entry List.mem_cons_self
      have hother := hright other List.mem_cons_self
      rw [hkeys.1, hother] at hentry
      have hsame : entry = other := Prod.ext hkeys.1 (Option.some.inj hentry).symm
      rw [hsame, ih hkeys.2 (fun e he => hleft e (List.mem_cons_of_mem _ he))
        (fun e he => hright e (List.mem_cons_of_mem _ he))]

def staleEntries (merged : CustomMetadata) : List (String × String) :=
  ((deriveCanonicalGcFolderMetadata merged).getD []).filter
    (fun entry => get entry.1 merged ≠ some entry.2)

theorem keys_staleEntries (merged : CustomMetadata) :
    ((staleEntries merged).map Prod.fst).Sublist folderKeys := by
  cases h : deriveCanonicalGcFolderMetadata merged with
  | none => simp [staleEntries, h]
  | some canonical =>
    rw [← keys_of_derive h, staleEntries, h, Option.getD_some]
    exact List.filter_sublist.map _

def stampedEntries (existing incoming : CustomMetadata) : CustomMetadata :=
  KeyedTable.putAll (staleEntries (merge existing incoming)) incoming

theorem buildStampedGcMetadataUpdate_eq (existing incoming : Option CustomMetadata) :
    buildStampedGcMetadataUpdate existing incoming =
      let next := stampedEntries (existing.getD (KeyedTable.empty _))
        (incoming.getD (KeyedTable.empty _))
      if next.rows.isEmpty then none else some next := rfl

theorem get_stamped (key : String) (existing incoming : Option CustomMetadata)
    (metadata : CustomMetadata) :
    get key (((buildStampedGcMetadataUpdate existing incoming).map (merge metadata)).getD
        metadata) =
      (((staleEntries (merge (existing.getD (KeyedTable.empty _))
          (incoming.getD (KeyedTable.empty _)))).find? (fun entry => entry.1 = key)).map
            Prod.snd).orElse
        (fun _ => get key (merge metadata (incoming.getD (KeyedTable.empty _)))) := by
  have hunique := (keys_staleEntries (merge (existing.getD (KeyedTable.empty _))
    (incoming.getD (KeyedTable.empty _)))).nodup nodup_folderKeys
  have hmerged : get key (((buildStampedGcMetadataUpdate existing incoming).map
      (merge metadata)).getD metadata) =
        (get key (stampedEntries (existing.getD (KeyedTable.empty _))
          (incoming.getD (KeyedTable.empty _)))).orElse (fun _ => get key metadata) := by
    rw [buildStampedGcMetadataUpdate_eq]
    dsimp only
    split
    · rename_i hempty
      have hnone : get key (stampedEntries (existing.getD (KeyedTable.empty _))
          (incoming.getD (KeyedTable.empty _))) = none := by
        rw [CustomMetadata.get, KeyedTable.lookup, List.isEmpty_iff.mp hempty]
        rfl
      rw [hnone]
      rfl
    · rw [Option.map_some, Option.getD_some, get_merge]
  rw [hmerged, stampedEntries, get_putAll hunique, get_merge]
  cases (staleEntries _).find? (fun entry => entry.1 = key) <;> rfl

theorem mem_staleEntries {merged : CustomMetadata} {entry : String × String} :
    entry ∈ staleEntries merged ↔
      (∃ canonical, deriveCanonicalGcFolderMetadata merged = some canonical ∧
        entry ∈ canonical) ∧ get entry.1 merged ≠ some entry.2 := by
  rw [staleEntries, List.mem_filter, decide_eq_true_eq]
  cases deriveCanonicalGcFolderMetadata merged <;> simp

theorem folderCanonical_iff : FolderCanonical metadata ↔ CarriesFolder metadata := by
  refine ⟨FolderCanonical.carries, fun hcarries => ⟨hcarries, ?_⟩⟩
  have hmerged : merge metadata (KeyedTable.empty _) = metadata := rfl
  have hnone : staleEntries metadata = [] := by
    refine List.eq_nil_iff_forall_not_mem.mpr (fun entry hentry => ?_)
    obtain ⟨⟨canonical, hderived, hmem⟩, hstale⟩ := mem_staleEntries.mp hentry
    exact hstale (hcarries canonical hderived entry hmem)
  rw [buildStampedGcMetadataUpdate_eq, Option.getD_some, Option.getD_none, stampedEntries, hmerged,
    hnone]
  rfl

/-- The update is stamped with the folder entries of the metadata it is merged into; or it
is not stamped, and that metadata carries its folder entries anyway. -/
def StampFits (copy metadata incoming : CustomMetadata) : Prop :=
  ∀ canonical, deriveCanonicalGcFolderMetadata (merge metadata incoming) = some canonical →
    deriveCanonicalGcFolderMetadata (merge copy incoming) = some canonical ∨
      deriveCanonicalGcFolderMetadata (merge copy incoming) = none ∧
        Holds (merge metadata incoming) canonical

section Stamp

variable {copy metadata : CustomMetadata} (incoming : Option CustomMetadata)

/-- The metadata after an update that was stamped on `copy`. -/
def afterStamp (copy metadata : CustomMetadata) (incoming : Option CustomMetadata) :
    CustomMetadata :=
  ((buildStampedGcMetadataUpdate (some copy) incoming).map (merge metadata)).getD metadata

theorem get_afterStamp_of_not_stale {key : String}
    (h : key ∉ (staleEntries (merge copy (incoming.getD (KeyedTable.empty _)))).map Prod.fst) :
    get key (afterStamp copy metadata incoming) =
      get key (merge metadata (incoming.getD (KeyedTable.empty _))) := by
  rw [afterStamp, get_stamped, Option.getD_some, List.find?_eq_none.mpr]
  · rfl
  · intro entry hentry hkey
    exact h (List.mem_map.mpr ⟨entry, hentry, by simpa using hkey⟩)

theorem derive_afterStamp :
    deriveCanonicalGcFolderMetadata (afterStamp copy metadata incoming) =
      deriveCanonicalGcFolderMetadata (merge metadata (incoming.getD (KeyedTable.empty _))) :=
  deriveCanonicalGcFolderMetadata_congr (fun _ hkey => get_afterStamp_of_not_stale incoming
    (fun hmem => not_mem_folderKeys hkey ((keys_staleEntries _).subset hmem)))

theorem holds_afterStamp {canonical : List (String × String)} (hwithin : Within copy metadata)
    (h : deriveCanonicalGcFolderMetadata (merge copy (incoming.getD (KeyedTable.empty _))) =
      some canonical) : Holds (afterStamp copy metadata incoming) canonical := by
  intro entry hentry
  by_cases hstale : get entry.1 (merge copy (incoming.getD (KeyedTable.empty _))) = some entry.2
  · have hnot : entry.1 ∉
        (staleEntries (merge copy (incoming.getD (KeyedTable.empty _)))).map Prod.fst := by
      intro hmem
      obtain ⟨other, hother, hkey⟩ := List.mem_map.mp hmem
      obtain ⟨⟨derived, hderived, hin⟩, hne⟩ := mem_staleEntries.mp hother
      cases h.symm.trans hderived
      have hkeys : (canonical.map Prod.fst).Nodup := keys_of_derive h ▸ nodup_folderKeys
      have hsame : other = entry := List.inj_on_of_nodup_map hkeys hin hentry hkey
      exact hne (hsame ▸ hstale)
    rw [get_afterStamp_of_not_stale incoming hnot]
    exact hwithin.merge _ _ _ hstale
  · have hmem : entry ∈ staleEntries (merge copy (incoming.getD (KeyedTable.empty _))) :=
      mem_staleEntries.mpr ⟨⟨canonical, h, hentry⟩, hstale⟩
    rw [afterStamp, get_stamped, Option.getD_some]
    cases hfound : (staleEntries (merge copy (incoming.getD (KeyedTable.empty _)))).find?
        (fun other => other.1 = entry.1) with
    | none => simpa using List.find?_eq_none.mp hfound entry hmem
    | some other =>
      have hkey : other.1 = entry.1 := by simpa using List.find?_some hfound
      obtain ⟨⟨derived, hderived, hin⟩, -⟩ :=
        mem_staleEntries.mp (List.mem_of_find?_eq_some hfound)
      cases h.symm.trans hderived
      have hkeys : (canonical.map Prod.fst).Nodup := keys_of_derive h ▸ nodup_folderKeys
      have hsame : other = entry := List.inj_on_of_nodup_map hkeys hin hentry hkey
      rw [hsame]
      rfl

theorem carriesFolder_afterStamp_iff (hwithin : Within copy metadata) :
    CarriesFolder (afterStamp copy metadata incoming) ↔
      StampFits copy metadata (incoming.getD (KeyedTable.empty _)) := by
  rw [CarriesFolder, derive_afterStamp]
  refine forall₂_congr (fun canonical hcanonical => ?_)
  cases hcopy : deriveCanonicalGcFolderMetadata
      (merge copy (incoming.getD (KeyedTable.empty _))) with
  | none =>
    have hnone : staleEntries (merge copy (incoming.getD (KeyedTable.empty _))) = [] := by
      rw [staleEntries, hcopy]
      rfl
    have hsame : ∀ key, get key (afterStamp copy metadata incoming) =
        get key (merge metadata (incoming.getD (KeyedTable.empty _))) :=
      fun key => get_afterStamp_of_not_stale incoming (by simp [hnone])
    simp [Holds, hsame]
  | some derived =>
    have hholds := holds_afterStamp incoming hwithin hcopy
    constructor
    · intro hcanon
      exact Or.inl (by
        rw [hholds.unique ((keys_of_derive hcopy).trans (keys_of_derive hcanonical).symm) hcanon])
    · rintro (hsame | ⟨hnone, -⟩)
      · cases hsame
        exact hholds
      · cases hnone

theorem within_afterStamp (hwithin : Within copy metadata) :
    Within (afterStamp copy copy incoming) (afterStamp copy metadata incoming) := by
  intro key value hvalue
  rw [afterStamp, get_stamped] at hvalue ⊢
  cases hfound : (staleEntries (merge ((some copy).getD (KeyedTable.empty _))
      (incoming.getD (KeyedTable.empty _)))).find? (fun entry => entry.1 = key) with
  | none =>
    rw [hfound] at hvalue
    exact hwithin.merge _ _ _ hvalue
  | some entry =>
    rw [hfound] at hvalue
    exact hvalue

end Stamp

end GT3Code.Gc
