import GT3Code.Web.UiStateStore

/-! # What a synchronization leaves

The order after a synchronization is a list of the delivered keys without repetitions, the user's
reorderings permute it, and every group of a delivered project has a flag.
-/

namespace GT3Code.Web

open GT3Code.Base GT3Code.Base.Json GT3Code.Contracts

/-- A list of projects as the application delivers it: no two in one directory or under one key,
which has the environment and the directory. -/
structure SyncedProjects where
  projects : List SyncProjectInput
  nodup_keys : (projects.map SyncProjectInput.key).Nodup
  nodup_cwds : (projects.map SyncProjectInput.cwd).Nodup
  key_ne_nil : ∀ project ∈ projects, project.key ≠ []
  cwd_ne_nil : ∀ project ∈ projects, project.cwd ≠ []

namespace SyncedProjects

def keys (synced : SyncedProjects) : List Text := synced.projects.map SyncProjectInput.key

def none : SyncedProjects where
  projects := []
  nodup_keys := List.nodup_nil
  nodup_cwds := List.nodup_nil
  key_ne_nil := by simp
  cwd_ne_nil := by simp

variable {synced : SyncedProjects} {left right : SyncProjectInput}

theorem eq_of_key (hleft : left ∈ synced.projects) (hright : right ∈ synced.projects)
    (h : left.key = right.key) : left = right :=
  List.inj_on_of_nodup_map synced.nodup_keys hleft hright h

theorem eq_of_cwd (hleft : left ∈ synced.projects) (hright : right ∈ synced.projects)
    (h : left.cwd = right.cwd) : left = right :=
  List.inj_on_of_nodup_map synced.nodup_cwds hleft hright h

end SyncedProjects

variable {cwd logicalKey : Text}

variable {key : Text} {project : SyncProjectInput}

theorem get_cwdById (synced : SyncedProjects) :
    KeyedMap.get key (currentProjects synced.projects).cwdById = some cwd ↔
      ∃ project ∈ synced.projects, project.key = key ∧ project.cwd = cwd := by
  have hkeys : ((synced.projects.map (fun project => (project.key, project.cwd))).map
      Prod.fst).Nodup := by
    simpa [Function.comp_def] using synced.nodup_keys
  simp [currentProjects, KeyedMap.get_ofEntries hkeys]

theorem get_logicalKeyByPhysicalKey (synced : SyncedProjects) :
    KeyedMap.get key (currentProjects synced.projects).logicalKeyByPhysicalKey = some logicalKey ↔
      ∃ project ∈ synced.projects, project.key = key ∧ project.logicalKey = logicalKey := by
  have hkeys : ((synced.projects.map (fun project => (project.key, project.logicalKey))).map
      Prod.fst).Nodup := by
    simpa [Function.comp_def] using synced.nodup_keys
  simp [currentProjects, KeyedMap.get_ofEntries hkeys]

def cwdsUnder (logicalKey : Text) (groups : KeyedMap Text (List Text)) : List Text :=
  (KeyedMap.get logicalKey groups).getD []

theorem mem_cwdsUnder_addGroupCwd {groups : KeyedMap Text (List Text)} :
    cwd ∈ cwdsUnder logicalKey (addGroupCwd groups project) ↔
      cwd ∈ cwdsUnder logicalKey groups ∨ project.logicalKey = logicalKey ∧ project.cwd = cwd := by
  unfold addGroupCwd cwdsUnder
  by_cases hkey : logicalKey = project.logicalKey
  · subst hkey
    cases hget : KeyedMap.get project.logicalKey groups with
    | none => simp [eq_comm]
    | some cwds =>
      by_cases hmem : project.cwd ∈ cwds
      · simp only [hmem, if_true, hget, Option.getD_some, true_and]
        exact ⟨Or.inl, fun h => h.elim id (fun heq => heq ▸ hmem)⟩
      · simp [hmem, eq_comm]
  · have hother : project.logicalKey ≠ logicalKey := Ne.symm hkey
    cases hget : KeyedMap.get project.logicalKey groups with
    | none => simp [KeyedMap.get_set_of_ne hkey, hother]
    | some cwds =>
      by_cases hmem : project.cwd ∈ cwds
      · simp [hmem, hother]
      · simp [hmem, KeyedMap.get_set_of_ne hkey, hother]

theorem mem_cwdsUnder (projects : List SyncProjectInput) :
    cwd ∈ cwdsUnder logicalKey (currentProjects projects).cwdsByLogicalKey ↔
      ∃ project ∈ projects, project.logicalKey = logicalKey ∧ project.cwd = cwd := by
  have hfold : ∀ groups : KeyedMap Text (List Text),
      cwd ∈ cwdsUnder logicalKey (projects.foldl addGroupCwd groups) ↔
        cwd ∈ cwdsUnder logicalKey groups ∨
          ∃ project ∈ projects, project.logicalKey = logicalKey ∧ project.cwd = cwd := by
    induction projects with
    | nil => simp
    | cons project rest ih =>
      intro groups
      rw [List.foldl_cons, ih, mem_cwdsUnder_addGroupCwd, or_assoc]
      simp
  have hempty : cwd ∉ cwdsUnder logicalKey (KeyedTable.empty _) := by simp [cwdsUnder]
  exact (hfold (KeyedTable.empty _)).trans (or_iff_right hempty)

theorem getD_cwdsByLogicalKey {projects : List SyncProjectInput} (h : project ∈ projects)
    (default : List Text) :
    (KeyedMap.get project.logicalKey (currentProjects projects).cwdsByLogicalKey).getD default =
      cwdsUnder project.logicalKey (currentProjects projects).cwdsByLogicalKey := by
  have hmem := (mem_cwdsUnder projects).mpr ⟨project, h, rfl, rfl⟩
  unfold cwdsUnder at hmem ⊢
  cases hget : KeyedMap.get project.logicalKey (currentProjects projects).cwdsByLogicalKey with
  | none => simp [hget] at hmem
  | some cwds => rfl

theorem mem_keys_of_matchedProjectId (synced : SyncedProjects)
    {previousProjectCwdById : KeyedMap Text Text} {projectId matched : Text}
    (h : matchedProjectId previousProjectCwdById synced.projects projectId = some matched) :
    matched ∈ synced.keys := by
  have hcwds : ((synced.projects.map (fun project => (project.cwd, project.key))).map
      Prod.fst).Nodup := by
    simpa [Function.comp_def] using synced.nodup_cwds
  unfold matchedProjectId at h
  by_cases hmem : projectId ∈ synced.projects.map SyncProjectInput.key
  · simp only [hmem, if_true, Option.some_or, Option.some.injEq] at h
    exact h ▸ hmem
  · simp only [hmem, if_false, Option.none_or, Option.bind_eq_some_iff,
      KeyedMap.get_ofEntries hcwds, List.mem_map, Prod.mk.injEq] at h
    obtain ⟨-, -, project, hproject, -, hkey⟩ := h
    exact List.mem_map.mpr ⟨project, hproject, hkey⟩

theorem keepProjectIds_spec (synced : SyncedProjects) (previousProjectCwdById : KeyedMap Text Text)
    (projectOrder : List Text) {kept : List Text} (hnodup : kept.Nodup) (hsub : kept ⊆ synced.keys) :
    let ordered := projectOrder.foldl (keepProjectId previousProjectCwdById synced.projects) kept
    ordered.Nodup ∧ ordered ⊆ synced.keys := by
  induction projectOrder generalizing kept with
  | nil => exact ⟨hnodup, hsub⟩
  | cons projectId rest ih =>
    rw [List.foldl_cons]
    unfold keepProjectId
    cases hmatched : matchedProjectId previousProjectCwdById synced.projects projectId with
    | none => exact ih hnodup hsub
    | some matched =>
      by_cases hskip : matched = [] ∨ matched ∈ kept
      · simp only [hskip, if_true]
        exact ih hnodup hsub
      · simp only [hskip, if_false]
        have hmem := mem_keys_of_matchedProjectId synced hmatched
        refine ih ?_ ?_
        · exact List.nodup_append.mpr ⟨hnodup, List.nodup_singleton _, by
            rintro a ha b hb rfl
            exact hskip (Or.inr (List.mem_singleton.mp hb ▸ ha))⟩
        · exact List.append_subset.mpr ⟨hsub, List.cons_subset.mpr ⟨hmem, by simp⟩⟩

theorem nextProjectOrder_perm (store : UiStore) (synced : SyncedProjects) :
    (nextProjectOrder store synced.projects).Perm synced.keys := by
  unfold nextProjectOrder
  split_ifs
  · obtain ⟨hnodup, hsub⟩ := keepProjectIds_spec synced store.current.cwdById
      store.state.projectOrder List.nodup_nil (List.nil_subset _)
    exact appendMissing_perm hnodup synced.nodup_keys hsub
  · refine ((toSorted_perm _ _).map _).trans ?_
    rw [List.map_map]
    have hids : OrderedProject.id ∘ orderedProject store.persisted.orderCwds =
        SyncProjectInput.key ∘ Prod.fst := rfl
    rw [hids, ← List.map_map, List.zipIdx_map_fst]
    exact List.Perm.refl _

theorem syncProjects_order (store : UiStore) (projects : List SyncProjectInput) :
    (syncProjects store projects).state.projectOrder = nextProjectOrder store projects := by
  unfold syncProjects
  dsimp only
  split_ifs with h
  · exact h.2.1
  · rfl

theorem splitDragged_perm (draggedProjectIds : List Text) (originalTargetIndex : Nat)
    (projectOrder : List Text) :
    ((splitDragged draggedProjectIds originalTargetIndex projectOrder).1 ++
      (splitDragged draggedProjectIds originalTargetIndex projectOrder).2.1).Perm projectOrder := by
  unfold splitDragged
  have hsplit : ∀ entries : List (Text × Nat),
      let split := entries.foldr
        (fun entry split =>
          if entry.1 ∈ draggedProjectIds then
            (entry.1 :: split.1, split.2.1,
              if entry.2 < originalTargetIndex then split.2.2 + 1 else split.2.2)
          else (split.1, entry.1 :: split.2.1, split.2.2))
        (([] : List Text), ([] : List Text), (0 : Nat))
      (split.1 ++ split.2.1).Perm (entries.map Prod.fst) := by
    intro entries
    induction entries with
    | nil => exact List.Perm.refl _
    | cons entry rest ih =>
      rw [List.foldr_cons, List.map_cons]
      by_cases hdragged : entry.1 ∈ draggedProjectIds
      · simp only [hdragged, if_true]
        exact ih.cons _
      · simp only [hdragged, if_false]
        exact List.perm_middle.trans (ih.cons _)
  have hall := hsplit projectOrder.zipIdx
  rw [List.zipIdx_map_fst] at hall
  exact hall

theorem reorderProjects_perm (state : UiProjectState) (draggedProjectIds targetProjectIds : List Text) :
    (reorderProjects state draggedProjectIds targetProjectIds).projectOrder.Perm
      state.projectOrder := by
  unfold reorderProjects
  split_ifs
  · exact List.Perm.refl _
  · exact List.Perm.refl _
  · split
    · exact List.Perm.refl _
    · rename_i originalTargetIndex _
      have hperm := splitDragged_perm draggedProjectIds originalTargetIndex state.projectOrder
      generalize splitDragged draggedProjectIds originalTargetIndex state.projectOrder = split
        at hperm ⊢
      obtain ⟨removed, projectOrder, draggedBeforeTarget⟩ := split
      dsimp only at hperm ⊢
      split_ifs
      · exact List.Perm.refl _
      · refine List.Perm.trans ?_ hperm
        conv_rhs => rw [← List.take_append_drop (originalTargetIndex - (draggedBeforeTarget - 1))
          projectOrder]
        rw [← List.append_assoc]
        exact List.perm_append_comm.append_right _

theorem reorderProjects_expanded (state : UiProjectState)
    (draggedProjectIds targetProjectIds : List Text) :
    (reorderProjects state draggedProjectIds targetProjectIds).projectExpandedById =
      state.projectExpandedById := by
  unfold reorderProjects
  split_ifs
  · rfl
  · rfl
  · split
    · rfl
    · dsimp only
      split_ifs <;> rfl

theorem recordsEqual_get {left right : KeyedMap Text Bool} (h : recordsEqual left right = true)
    (key : Text) : KeyedMap.get key left = KeyedMap.get key right := by
  simp only [recordsEqual, Bool.decide_and, Bool.and_eq_true, decide_eq_true_eq, List.all_eq_true]
    at h
  exact KeyedMap.get_eq_of_subset h.1 h.2 key

theorem get_syncProjects_expanded (store : UiStore) (projects : List SyncProjectInput)
    (key : Text) :
    KeyedMap.get key (syncProjects store projects).state.projectExpandedById =
      KeyedMap.get key (nextExpandedById store projects) := by
  unfold syncProjects
  dsimp only
  split_ifs with h
  · exact recordsEqual_get h.1 key
  · rfl

def syncedFlag (store : UiStore) (projects : List SyncProjectInput) (logicalKey : Text) : Bool :=
  ((KeyedMap.get logicalKey store.state.projectExpandedById).or
    (fallbackFromPreviousLogicalKey store.state.projectExpandedById
      (KeyedMap.get logicalKey
        (previousLogicalKeysByNewLogicalKey store.current.logicalKeyByPhysicalKey projects)))).getD
      (fallbackFromPersistedShape store.persisted
        (cwdsUnder logicalKey (currentProjects projects).cwdsByLogicalKey))

theorem get_nextExpandedById (store : UiStore) (projects : List SyncProjectInput)
    (logicalKey : Text) :
    KeyedMap.get logicalKey (nextExpandedById store projects) =
      if logicalKey ∈ projects.map SyncProjectInput.logicalKey then
        some (syncedFlag store projects logicalKey)
      else none := by
  have hfold : ∀ (rest : List SyncProjectInput) (flags : KeyedMap Text Bool), rest ⊆ projects →
      KeyedMap.get logicalKey (rest.foldl (syncExpanded store projects) flags) =
        (KeyedMap.get logicalKey flags).or
          (if logicalKey ∈ rest.map SyncProjectInput.logicalKey then
            some (syncedFlag store projects logicalKey)
          else none) := by
    intro rest
    induction rest with
    | nil => simp
    | cons project rest ih =>
      intro flags hsub
      obtain ⟨hproject, hrest⟩ := List.cons_subset.mp hsub
      rw [List.foldl_cons, ih _ hrest]
      unfold syncExpanded
      rw [getD_cwdsByLogicalKey hproject]
      by_cases hkey : logicalKey = project.logicalKey
      · subst hkey
        cases hget : KeyedMap.get project.logicalKey flags with
        | none => simp [KeyedMap.has, hget, syncedFlag]
        | some flag => simp [KeyedMap.has, hget]
      · by_cases hhas : KeyedMap.has project.logicalKey flags
        · simp [hhas, hkey]
        · simp [hhas, KeyedMap.get_set_of_ne hkey, hkey]
  have hall := hfold projects (KeyedTable.empty _) (List.Subset.refl _)
  rwa [KeyedMap.get_empty, Option.none_or] at hall

end GT3Code.Web
