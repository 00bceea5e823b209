import GT3Code.Web.ProjectSync

/-! # The sidebar after a restart

A store shows the projects of its last synchronization. After a restart the flags of their groups
come back however the projects arrive. Their order comes back when it lists the projects of the
first environment before those that arrive later: the stored order places only the first ones.
-/

namespace GT3Code.Web

open GT3Code.Base GT3Code.Base.Json GT3Code.Contracts

inductive ProjectAction where
  | syncProjects (synced : SyncedProjects)
  | toggleProject (projectId : Text)
  | setProjectExpanded (projectId : Text) (expanded : Bool)
  | reorderProjects (draggedProjectIds targetProjectIds : List Text)

def performProjectAction (store : UiStore) : ProjectAction → UiStore
  | .syncProjects synced => syncProjects store synced.projects
  | .toggleProject projectId => { store with state := toggleProject store.state projectId }
  | .setProjectExpanded projectId expanded =>
    { store with state := setProjectExpanded store.state projectId expanded }
  | .reorderProjects draggedProjectIds targetProjectIds =>
    { store with state := reorderProjects store.state draggedProjectIds targetProjectIds }

/-- The projects of the last synchronization after one more action. -/
def syncedBy (synced : SyncedProjects) : ProjectAction → SyncedProjects
  | .syncProjects next => next
  | _ => synced

def lastSynced (actions : List ProjectAction) : SyncedProjects :=
  actions.foldl syncedBy SyncedProjects.none

def restart (before : UiStore) (deliveries : List SyncedProjects) : UiStore :=
  deliveries.foldl (fun store synced => syncProjects store synced.projects)
    (readPersistedState (some (persistState before)))

structure ShowsProjects (store : UiStore) (synced : SyncedProjects) : Prop where
  current : store.current = currentProjects synced.projects
  order : store.state.projectOrder.Perm synced.keys
  flagged : ∀ project ∈ synced.projects,
    (KeyedMap.get project.logicalKey store.state.projectExpandedById).isSome

variable {store : UiStore} {synced : SyncedProjects} {projectOrder : List Text}

theorem ShowsProjects.nodup (h : ShowsProjects store synced) : store.state.projectOrder.Nodup :=
  h.order.nodup_iff.mpr synced.nodup_keys

theorem shows_readPersistedState (stored : Option PersistedUiState) :
    ShowsProjects (readPersistedState stored) SyncedProjects.none where
  current := rfl
  order := List.Perm.refl _
  flagged := by simp [SyncedProjects.none]

theorem shows_syncProjects (store : UiStore) (synced : SyncedProjects) :
    ShowsProjects (syncProjects store synced.projects) synced where
  current := rfl
  order := by
    rw [syncProjects_order]
    exact nextProjectOrder_perm store synced
  flagged := by
    intro project hproject
    have hmem : project.logicalKey ∈ synced.projects.map SyncProjectInput.logicalKey :=
      List.mem_map_of_mem hproject
    rw [get_syncProjects_expanded, get_nextExpandedById, if_pos hmem]
    rfl

theorem isSome_get_set {K V : Type*} [DecidableEq K] {key other : K} {value : V}
    {map : KeyedMap K V} (h : (KeyedMap.get other map).isSome) :
    (KeyedMap.get other (KeyedMap.set key value map)).isSome := by
  by_cases hkey : other = key
  · simp [hkey]
  · rwa [KeyedMap.get_set_of_ne hkey]

theorem ShowsProjects.perform (h : ShowsProjects store synced) (action : ProjectAction) :
    ShowsProjects (performProjectAction store action) (syncedBy synced action) := by
  cases action with
  | syncProjects next => exact shows_syncProjects store next
  | toggleProject projectId =>
    exact ⟨h.current, h.order, fun project hproject => isSome_get_set (h.flagged project hproject)⟩
  | setProjectExpanded projectId expanded =>
    refine ⟨h.current, ?_, fun project hproject => ?_⟩
    · simp only [performProjectAction, setProjectExpanded, syncedBy]
      split_ifs <;> exact h.order
    · simp only [performProjectAction, setProjectExpanded]
      split_ifs
      · exact h.flagged project hproject
      · exact isSome_get_set (h.flagged project hproject)
  | reorderProjects draggedProjectIds targetProjectIds =>
    refine ⟨h.current, (reorderProjects_perm _ _ _).trans h.order, fun project hproject => ?_⟩
    simp only [performProjectAction, reorderProjects_expanded]
    exact h.flagged project hproject

theorem shows_foldl (h : ShowsProjects store synced) (actions : List ProjectAction) :
    ShowsProjects (actions.foldl performProjectAction store) (actions.foldl syncedBy synced) := by
  induction actions generalizing store synced with
  | nil => exact h
  | cons action rest ih => exact ih (h.perform action)

def cwdOf (synced : SyncedProjects) (projectId : Text) : Text :=
  (KeyedMap.get projectId (currentProjects synced.projects).cwdById).getD []

variable {project : SyncProjectInput} {cwds kept : List Text} {delivered : SyncedProjects}
  {deliveries : List SyncedProjects}

theorem get_cwdById_of_mem (h : project ∈ synced.projects) :
    KeyedMap.get project.key (currentProjects synced.projects).cwdById = some project.cwd :=
  (get_cwdById synced).mpr ⟨project, h, rfl, rfl⟩

theorem cwdOf_key (h : project ∈ synced.projects) : cwdOf synced project.key = project.cwd := by
  rw [cwdOf, get_cwdById_of_mem h, Option.getD_some]

theorem nodup_map_cwdOf (h : projectOrder.Perm synced.keys) :
    (projectOrder.map (cwdOf synced)).Nodup := by
  refine (h.map _).nodup_iff.mpr ?_
  have hcwds : synced.keys.map (cwdOf synced) = synced.projects.map SyncProjectInput.cwd := by
    rw [SyncedProjects.keys, List.map_map]
    exact List.map_congr_left fun project hproject => cwdOf_key hproject
  rw [hcwds]
  exact synced.nodup_cwds

theorem foldl_keepNew_of_nodup (h : (kept ++ cwds).Nodup) :
    cwds.foldl (fun kept cwd => if cwd ∈ kept then kept else kept ++ [cwd]) kept = kept ++ cwds := by
  induction cwds generalizing kept with
  | nil => simp
  | cons cwd rest ih =>
    have hnew : cwd ∉ kept := fun hmem =>
      (List.nodup_append.mp h).2.2 cwd hmem cwd List.mem_cons_self rfl
    have hnext : (kept ++ [cwd] ++ rest).Nodup := by simpa using h
    rw [List.foldl_cons, if_neg hnew, ih hnext, List.append_assoc, List.singleton_append]

section Stored

variable {before : UiStore} {synced : SyncedProjects}

theorem orderCwds_persistState (h : ShowsProjects before synced) :
    (hydratePersistedProjectState (persistState before)).orderCwds =
      before.state.projectOrder.map (cwdOf synced) := by
  have hcwd : ∀ projectId ∈ before.state.projectOrder,
      (KeyedMap.get projectId before.current.cwdById).filter (fun cwd => cwd ≠ []) =
        some (cwdOf synced projectId) := by
    intro projectId hmem
    obtain ⟨project, hproject, rfl⟩ := List.mem_map.mp (h.order.mem_iff.mp hmem)
    rw [h.current, get_cwdById_of_mem hproject, cwdOf_key hproject]
    simp [synced.cwd_ne_nil project hproject]
  have hstored : before.state.projectOrder.filterMap
      (fun projectId =>
        (KeyedMap.get projectId before.current.cwdById).filter (fun cwd => cwd ≠ [])) =
      before.state.projectOrder.map (cwdOf synced) := by
    rw [List.filterMap_congr hcwd, List.filterMap_eq_map']
  have hnonempty : (before.state.projectOrder.map (cwdOf synced)).filter
      (fun cwd => cwd.length > 0) = before.state.projectOrder.map (cwdOf synced) := by
    rw [List.filter_eq_self]
    intro cwd hcwdMem
    obtain ⟨projectId, hid, rfl⟩ := List.mem_map.mp hcwdMem
    obtain ⟨project, hproject, rfl⟩ := List.mem_map.mp (h.order.mem_iff.mp hid)
    rw [cwdOf_key hproject]
    simpa [List.length_pos_iff] using synced.cwd_ne_nil project hproject
  simp only [hydratePersistedProjectState, persistState, Option.getD_some]
  rw [hstored, hnonempty, foldl_keepNew_of_nodup (by simpa using nodup_map_cwdOf h.order),
    List.nil_append]

variable {project : SyncProjectInput}

theorem mem_groupCwdsWithFlag (h : ShowsProjects before synced)
    (hproject : project ∈ synced.projects) (flag : Bool) :
    project.cwd ∈ groupCwdsWithFlag before flag ↔
      KeyedMap.get project.logicalKey before.state.projectExpandedById = some flag := by
  unfold groupCwdsWithFlag
  rw [h.current, List.mem_flatMap]
  constructor
  · rintro ⟨⟨logicalKey, expanded⟩, hentry, hcwd⟩
    obtain ⟨hmem, hflag⟩ := List.mem_filter.mp hentry
    obtain ⟨other, hother, hgroup, hdirectory⟩ := (mem_cwdsUnder synced.projects).mp hcwd
    obtain rfl := SyncedProjects.eq_of_cwd hother hproject hdirectory
    rw [KeyedMap.get_eq_some_iff, hgroup, ← of_decide_eq_true hflag]
    exact hmem
  · intro hget
    refine ⟨(project.logicalKey, flag), ?_, ?_⟩
    · exact List.mem_filter.mpr ⟨KeyedMap.get_eq_some_iff.mp hget, by simp⟩
    · exact (mem_cwdsUnder synced.projects).mpr ⟨project, hproject, rfl, rfl⟩

theorem mem_storedCwds (h : ShowsProjects before synced) (hproject : project ∈ synced.projects)
    (flag : Bool) :
    project.cwd ∈ (groupCwdsWithFlag before flag).filter (fun cwd => cwd.length > 0) ↔
      KeyedMap.get project.logicalKey before.state.projectExpandedById = some flag := by
  have hlength : project.cwd.length > 0 := List.length_pos_iff.mpr (synced.cwd_ne_nil _ hproject)
  rw [List.mem_filter, decide_eq_true_eq, and_iff_left hlength, mem_groupCwdsWithFlag h hproject]

theorem fallbackFromPersistedShape_persistState (h : ShowsProjects before synced)
    {delivered : SyncedProjects} (hsub : delivered.projects ⊆ synced.projects)
    (hproject : project ∈ delivered.projects) {flag : Bool}
    (hflag : KeyedMap.get project.logicalKey before.state.projectExpandedById = some flag) :
    fallbackFromPersistedShape (hydratePersistedProjectState (persistState before))
      (cwdsUnder project.logicalKey (currentProjects delivered.projects).cwdsByLogicalKey) =
        flag := by
  have hown := (mem_cwdsUnder delivered.projects).mpr ⟨project, hproject, rfl, rfl⟩
  unfold fallbackFromPersistedShape
  cases flag with
  | true =>
    exact if_pos (List.any_eq_true.mpr ⟨project.cwd, hown,
      decide_eq_true ((mem_storedCwds h (hsub hproject) true).mpr hflag)⟩)
  | false =>
    rw [if_neg ?_, if_pos ?_]
    · exact List.any_eq_true.mpr ⟨project.cwd, hown,
        decide_eq_true ((mem_storedCwds h (hsub hproject) false).mpr hflag)⟩
    · intro hany
      obtain ⟨cwd, hcwd, hmem⟩ := List.any_eq_true.mp hany
      obtain ⟨other, hother, hgroup, rfl⟩ := (mem_cwdsUnder delivered.projects).mp hcwd
      have hexpanded := (mem_storedCwds h (hsub hother) true).mp (of_decide_eq_true hmem)
      rw [hgroup, hflag] at hexpanded
      cases hexpanded

end Stored

theorem pairwise_idxOf {α : Type*} [BEq α] [LawfulBEq α] {items : List α} (h : items.Nodup) :
    items.Pairwise (fun a b => items.idxOf a < items.idxOf b) := by
  rw [List.pairwise_iff_getElem]
  intro i j hi hj hij
  rwa [h.idxOf_getElem, h.idxOf_getElem]

theorem get_persistedOrderByCwd (h : cwds.Nodup) {cwd : Text} (hmem : cwd ∈ cwds) :
    KeyedMap.get cwd (persistedOrderByCwd cwds) = some (cwds.idxOf cwd) := by
  unfold persistedOrderByCwd
  have hkeys : (cwds.zipIdx.map Prod.fst).Nodup := by rwa [List.zipIdx_map_fst]
  rw [KeyedMap.get_ofEntries hkeys, List.mk_mem_zipIdx_iff_getElem?]
  exact List.getElem?_idxOf hmem

theorem rankedBy_compareOrderedProjects :
    RankedBy compareOrderedProjects
      (fun project => toLex (project.orderIndex, project.incomingIndex)) :=
  (rankedBy_byKey _).orElse (rankedBy_byKey _)

theorem sortedIds_eq_filter (horder : projectOrder.Perm synced.keys)
    (hsub : delivered.projects ⊆ synced.projects) :
    (toSorted compareOrderedProjects (delivered.projects.zipIdx.map
      (orderedProject (projectOrder.map (cwdOf synced))))).map OrderedProject.id =
        projectOrder.filter (fun id => id ∈ delivered.keys) := by
  have hcwds := nodup_map_cwdOf horder
  generalize hstored : projectOrder.map (cwdOf synced) = stored at hcwds ⊢
  have hkeys : ∀ project ∈ delivered.projects, project.key ∈ projectOrder := fun project hmem =>
    horder.mem_iff.mpr (List.mem_map_of_mem (hsub hmem))
  have hindex : ∀ entry ∈ delivered.projects.zipIdx,
      (orderedProject stored entry).orderIndex = stored.idxOf entry.1.cwd := by
    intro entry hentry
    have hproject : entry.1 ∈ delivered.projects := List.fst_mem_of_mem_zipIdx hentry
    have hmem : entry.1.cwd ∈ stored := by
      rw [← hstored, ← cwdOf_key (hsub hproject)]
      exact List.mem_map_of_mem (hkeys _ hproject)
    rw [orderedProject, get_persistedOrderByCwd hcwds hmem, Option.getD_some]
  have hordered : ∀ project ∈ toSorted compareOrderedProjects
      (delivered.projects.zipIdx.map (orderedProject stored)),
      project.orderIndex = stored.idxOf (cwdOf synced project.id) := by
    intro project hproject
    obtain ⟨entry, hentry, rfl⟩ := List.mem_map.mp (mem_toSorted.mp hproject)
    rw [hindex entry hentry]
    exact congrArg (fun cwd => stored.idxOf cwd) (cwdOf_key (hsub (List.fst_mem_of_mem_zipIdx hentry))).symm
  have hdistinct : ((toSorted compareOrderedProjects
      (delivered.projects.zipIdx.map (orderedProject stored))).map
        OrderedProject.orderIndex).Nodup := by
    refine ((toSorted_perm _ _).map _).nodup_iff.mpr ?_
    have hindices : (delivered.projects.zipIdx.map (orderedProject stored)).map
        OrderedProject.orderIndex =
          delivered.projects.map (fun project => stored.idxOf project.cwd) := by
      rw [List.map_map, ← List.zipIdx_map_fst 0 delivered.projects, List.map_map,
        List.zipIdx_map_fst]
      exact List.map_congr_left hindex
    rw [hindices]
    refine List.Nodup.map_on ?_ (List.Nodup.of_map _ delivered.nodup_keys)
    intro left hleft right hright heq
    have hstoredCwd : left.cwd ∈ stored := by
      rw [← hstored, ← cwdOf_key (hsub hleft)]
      exact List.mem_map_of_mem (hkeys _ hleft)
    exact SyncedProjects.eq_of_cwd hleft hright ((List.idxOf_inj hstoredCwd).mp heq)
  have hsorted : (toSorted compareOrderedProjects
      (delivered.projects.zipIdx.map (orderedProject stored))).Pairwise
        (fun left right => left.orderIndex < right.orderIndex) := by
    have hlex := rankedBy_compareOrderedProjects.pairwise_toSorted
      (delivered.projects.zipIdx.map (orderedProject stored))
    refine (hlex.and (List.pairwise_map.mp hdistinct)).imp ?_
    rintro left right ⟨hle, hne⟩
    rcases Prod.Lex.toLex_le_toLex.mp hle with hlt | ⟨heq, -⟩
    · exact hlt
    · exact absurd heq hne
  have hids : ((toSorted compareOrderedProjects (delivered.projects.zipIdx.map
      (orderedProject stored))).map OrderedProject.id).Pairwise
        (fun left right =>
          stored.idxOf (cwdOf synced left) < stored.idxOf (cwdOf synced right)) := by
    refine List.pairwise_map.mpr (hsorted.imp_of_mem ?_)
    intro left right hleft hright hlt
    rwa [hordered left hleft, hordered right hright] at hlt
  have hremembered : (projectOrder.filter (fun id => id ∈ delivered.keys)).Pairwise
      (fun left right =>
        stored.idxOf (cwdOf synced left) < stored.idxOf (cwdOf synced right)) := by
    have hall := pairwise_idxOf hcwds
    rw [← hstored, List.pairwise_map, hstored] at hall
    exact hall.filter _
  refine eq_of_pairwise_rank_lt hids hremembered ?_
  intro id
  have hdelivered : id ∈ (toSorted compareOrderedProjects
      (delivered.projects.zipIdx.map (orderedProject stored))).map OrderedProject.id ↔
        id ∈ delivered.keys := by
    have hperm := (toSorted_perm compareOrderedProjects
      (delivered.projects.zipIdx.map (orderedProject stored))).map OrderedProject.id
    rw [hperm.mem_iff, List.map_map, SyncedProjects.keys,
      ← List.zipIdx_map_fst 0 delivered.projects, List.map_map, List.zipIdx_map_fst]
    exact Iff.rfl
  rw [hdelivered, List.mem_filter, decide_eq_true_eq]
  refine ⟨fun hid => ⟨?_, hid⟩, And.right⟩
  obtain ⟨project, hproject, rfl⟩ := List.mem_map.mp hid
  exact hkeys project hproject

/-- What the new page has after a delivery of some of the projects it showed before. -/
structure Restored (before store : UiStore) (delivered : SyncedProjects) : Prop where
  shows : ShowsProjects store delivered
  persisted : store.persisted = hydratePersistedProjectState (persistState before)
  flags : ∀ logicalKey flag,
    KeyedMap.get logicalKey store.state.projectExpandedById = some flag →
      KeyedMap.get logicalKey before.state.projectExpandedById = some flag

theorem restored_readPersistedState (before : UiStore) :
    Restored before (readPersistedState (some (persistState before))) SyncedProjects.none where
  shows := shows_readPersistedState _
  persisted := rfl
  flags := by
    intro logicalKey flag h
    cases h

theorem foldl_keepProjectId_of_current (previousProjectCwdById : KeyedMap Text Text)
    (hcurrent : projectOrder ⊆ synced.keys) (h : (kept ++ projectOrder).Nodup) :
    projectOrder.foldl (keepProjectId previousProjectCwdById synced.projects) kept =
      kept ++ projectOrder := by
  induction projectOrder generalizing kept with
  | nil => simp
  | cons projectId rest ih =>
    obtain ⟨hmem, hrest⟩ := List.cons_subset.mp hcurrent
    have hnew : projectId ∉ kept := fun hkept =>
      (List.nodup_append.mp h).2.2 projectId hkept projectId List.mem_cons_self rfl
    have hnonempty : projectId ≠ [] := by
      obtain ⟨project, hproject, rfl⟩ := List.mem_map.mp hmem
      exact synced.key_ne_nil project hproject
    have hmatched : matchedProjectId previousProjectCwdById synced.projects projectId =
        some projectId := by
      have hkey : projectId ∈ synced.projects.map SyncProjectInput.key := hmem
      simp only [matchedProjectId, hkey, if_true, Option.some_or]
    have hstep : keepProjectId previousProjectCwdById synced.projects kept projectId =
        kept ++ [projectId] := by
      simp [keepProjectId, hmatched, hnonempty, hnew]
    rw [List.foldl_cons, hstep, ih hrest (by simpa using h), List.append_assoc,
      List.singleton_append]

section Delivery

variable {before store : UiStore} {synced delivered next : SyncedProjects}

theorem Restored.nextProjectOrder (hbefore : ShowsProjects before synced)
    (h : Restored before store delivered) (hgrow : delivered.projects ⊆ next.projects)
    (hsub : next.projects ⊆ synced.projects) :
    nextProjectOrder store next.projects =
      deliverPart before.state.projectOrder store.state.projectOrder next.keys := by
  unfold Web.nextProjectOrder deliverPart
  by_cases hempty : store.state.projectOrder = []
  · rw [if_neg (by simp [hempty]), if_pos hempty, h.persisted, orderCwds_persistState hbefore]
    refine (sortedIds_eq_filter hbefore.order hsub).trans (List.filter_congr ?_)
    exact fun _ _ => decide_eq_decide.mpr Iff.rfl
  · rw [if_pos (List.length_pos_iff.mpr hempty), if_neg hempty]
    have hcurrent : store.state.projectOrder ⊆ next.keys := fun projectId hmem =>
      List.map_subset _ hgrow (h.shows.order.mem_iff.mp hmem)
    have hnodup : ([] ++ store.state.projectOrder).Nodup := h.shows.nodup
    rw [foldl_keepProjectId_of_current _ hcurrent hnodup, List.nil_append]
    rfl

theorem Restored.previousLogicalKeys (h : Restored before store delivered)
    (hgrow : delivered.projects ⊆ next.projects) :
    previousLogicalKeysByNewLogicalKey store.current.logicalKeyByPhysicalKey next.projects =
      KeyedTable.empty _ := by
  have hfold : ∀ projects : List SyncProjectInput, projects ⊆ next.projects →
      projects.foldl (addPreviousLogicalKey store.current.logicalKeyByPhysicalKey)
        (KeyedTable.empty _) = KeyedTable.empty _ := by
    intro projects
    induction projects with
    | nil => exact fun _ => rfl
    | cons project rest ih =>
      intro hall
      obtain ⟨hproject, hrest⟩ := List.cons_subset.mp hall
      have hstep : addPreviousLogicalKey store.current.logicalKeyByPhysicalKey
          (KeyedTable.empty _) project = KeyedTable.empty _ := by
        unfold addPreviousLogicalKey
        rw [h.shows.current]
        cases hget : KeyedMap.get project.key
            (currentProjects delivered.projects).logicalKeyByPhysicalKey with
        | none => rfl
        | some previousLogicalKey =>
          obtain ⟨other, hother, hkey, rfl⟩ := (get_logicalKeyByPhysicalKey delivered).mp hget
          obtain rfl := SyncedProjects.eq_of_key (hgrow hother) hproject hkey
          simp
      rw [List.foldl_cons, hstep, ih hrest]
  exact hfold next.projects (List.Subset.refl _)

theorem Restored.syncedFlag (hbefore : ShowsProjects before synced) (h : Restored before store delivered)
    (hgrow : delivered.projects ⊆ next.projects) (hsub : next.projects ⊆ synced.projects)
    {project : SyncProjectInput} (hproject : project ∈ next.projects) :
    some (syncedFlag store next.projects project.logicalKey) =
      KeyedMap.get project.logicalKey before.state.projectExpandedById := by
  obtain ⟨flag, hflag⟩ := Option.isSome_iff_exists.mp (hbefore.flagged project (hsub hproject))
  have hstored := fallbackFromPersistedShape_persistState hbefore hsub hproject hflag
  rw [hflag, Web.syncedFlag, h.previousLogicalKeys hgrow, h.persisted, hstored]
  cases hget : KeyedMap.get project.logicalKey store.state.projectExpandedById with
  | none => simp [fallbackFromPreviousLogicalKey]
  | some value =>
    have hvalue := h.flags _ _ hget
    rw [hflag] at hvalue
    simpa using hvalue.symm

theorem Restored.syncProjects (hbefore : ShowsProjects before synced) (h : Restored before store delivered)
    (hgrow : delivered.projects ⊆ next.projects) (hsub : next.projects ⊆ synced.projects) :
    Restored before (syncProjects store next.projects) next where
  shows := shows_syncProjects store next
  persisted := h.persisted
  flags := by
    intro logicalKey flag hget
    rw [get_syncProjects_expanded, get_nextExpandedById] at hget
    split_ifs at hget with hmem
    obtain ⟨project, hproject, rfl⟩ := List.mem_map.mp hmem
    rw [← h.syncedFlag hbefore hgrow hsub hproject, hget]

end Delivery

/-- Every delivery has the projects of those before it, and the last one has all. -/
def DeliveredInParts (deliveries : List SyncedProjects) (synced : SyncedProjects) : Prop :=
  deliveries.Pairwise (fun earlier later => earlier.projects ⊆ later.projects) ∧
    (deliveries.getLast?.getD SyncedProjects.none).projects.Perm synced.projects

theorem DeliveredInParts.subset (h : DeliveredInParts deliveries synced) :
    ∀ delivered ∈ deliveries, delivered.projects ⊆ synced.projects := by
  obtain ⟨hgrow, hlast⟩ := h
  intro delivered hmem
  rcases deliveries.eq_nil_or_concat with rfl | ⟨initial, last, rfl⟩
  · cases hmem
  · rw [List.concat_eq_append] at *
    have hall : last.projects ⊆ synced.projects := by simpa using hlast.subset
    rcases List.mem_append.mp hmem with hinitial | hlastMem
    · have hbefore := (List.pairwise_append.mp hgrow).2.2 delivered hinitial last (by simp)
      exact fun project hproject => hall (hbefore hproject)
    · rwa [List.mem_singleton.mp hlastMem]

theorem restored_foldl {before : UiStore} (hbefore : ShowsProjects before synced)
    (h : Restored before store delivered)
    (hgrow : (delivered :: deliveries).Pairwise
      (fun earlier later => earlier.projects ⊆ later.projects))
    (hsub : ∀ next ∈ deliveries, next.projects ⊆ synced.projects) :
    let after := deliveries.foldl (fun store next => syncProjects store next.projects) store
    after.state.projectOrder =
        (deliveries.map SyncedProjects.keys).foldl (deliverPart before.state.projectOrder)
          store.state.projectOrder ∧
      Restored before after (deliveries.getLast?.getD delivered) := by
  induction deliveries generalizing store delivered with
  | nil => exact ⟨rfl, h⟩
  | cons next rest ih =>
    obtain ⟨hfirst, hrest⟩ := List.pairwise_cons.mp hgrow
    have hnext := hfirst next List.mem_cons_self
    have hnextSub := hsub next List.mem_cons_self
    have hstep := ih (h.syncProjects hbefore hnext hnextSub) hrest
      (fun later hlater => hsub later (List.mem_cons_of_mem _ hlater))
    rw [syncProjects_order, h.nextProjectOrder hbefore hnext hnextSub] at hstep
    rwa [List.map_cons, List.foldl_cons, List.foldl_cons, List.getLast?_cons,
      Option.getD_some]

structure SurvivesRestart (before after : UiStore) (synced : SyncedProjects) : Prop where
  nodup : before.state.projectOrder.Nodup
  permutation : before.state.projectOrder.Perm synced.keys
  order : after.state.projectOrder = before.state.projectOrder
  flags : ∀ project ∈ synced.projects, ∃ flag,
    KeyedMap.get project.logicalKey before.state.projectExpandedById = some flag ∧
      KeyedMap.get project.logicalKey after.state.projectExpandedById = some flag

theorem shows_run (stored : Option PersistedUiState) (actions : List ProjectAction) :
    ShowsProjects (actions.foldl performProjectAction (readPersistedState stored)) (lastSynced actions) :=
  shows_foldl (shows_readPersistedState stored) actions

/-- The sidebar comes back as it was exactly when its order lists the projects of the first
delivery that has some, then the others as they arrive. -/
theorem survivesRestart_iff (stored : Option PersistedUiState) (actions : List ProjectAction)
    (deliveries : List SyncedProjects)
    (hdelivered : DeliveredInParts deliveries (lastSynced actions)) :
    let before := actions.foldl performProjectAction (readPersistedState stored)
    SurvivesRestart before (restart before deliveries) (lastSynced actions) ↔
      ListsArrivals before.state.projectOrder (deliveries.map SyncedProjects.keys) := by
  intro before
  have hbefore : ShowsProjects before (lastSynced actions) := shows_run stored actions
  have hgrow : (SyncedProjects.none :: deliveries).Pairwise
      (fun earlier later => earlier.projects ⊆ later.projects) :=
    List.pairwise_cons.mpr ⟨fun _ _ => List.nil_subset _, hdelivered.1⟩
  obtain ⟨horder, hrestored⟩ := restored_foldl hbefore (restored_readPersistedState before) hgrow
    hdelivered.subset
  have hparts : ∀ delivered ∈ deliveries.map SyncedProjects.keys,
      delivered.Nodup ∧ delivered ⊆ before.state.projectOrder := by
    intro delivered hmem
    obtain ⟨next, hnext, rfl⟩ := List.mem_map.mp hmem
    exact ⟨next.nodup_keys, fun projectId hid =>
      hbefore.order.mem_iff.mpr (List.map_subset _ (hdelivered.subset next hnext) hid)⟩
  have hflags : ∀ project ∈ (lastSynced actions).projects, ∃ flag,
      KeyedMap.get project.logicalKey before.state.projectExpandedById = some flag ∧
        KeyedMap.get project.logicalKey
          (restart before deliveries).state.projectExpandedById = some flag := by
    intro project hproject
    obtain ⟨flag, hflag⟩ := Option.isSome_iff_exists.mp
      (hrestored.shows.flagged project (hdelivered.2.mem_iff.mpr hproject))
    exact ⟨flag, hrestored.flags _ _ hflag, hflag⟩
  rw [← foldl_deliverPart_eq_iff hbefore.nodup hparts]
  constructor
  · exact fun hsurvives => horder.symm.trans hsurvives.order
  · exact fun hsame => ⟨hbefore.nodup, hbefore.order, horder.trans hsame, hflags⟩

/-! Two projects in two environments, the remote one moved to the top. -/

def localProject : SyncProjectInput := ⟨ascii "local:/a", ascii "local:/a", ascii "/a"⟩

def remoteProject : SyncProjectInput := ⟨ascii "remote:/b", ascii "remote:/b", ascii "/b"⟩

def bothProjects : SyncedProjects where
  projects := [localProject, remoteProject]
  nodup_keys := by decide
  nodup_cwds := by decide
  key_ne_nil := by decide
  cwd_ne_nil := by decide

def onlyProject (project : SyncProjectInput) (hkey : project.key ≠ []) (hcwd : project.cwd ≠ []) :
    SyncedProjects where
  projects := [project]
  nodup_keys := List.nodup_singleton _
  nodup_cwds := List.nodup_singleton _
  key_ne_nil := fun _ hother => List.mem_singleton.mp hother ▸ hkey
  cwd_ne_nil := fun _ hother => List.mem_singleton.mp hother ▸ hcwd

def remoteMovedUp : List ProjectAction :=
  [.syncProjects bothProjects, .reorderProjects [remoteProject.key] [localProject.key],
    .setProjectExpanded localProject.logicalKey false]

theorem deliveredInParts_both (project : SyncProjectInput) (hkey : project.key ≠ [])
    (hcwd : project.cwd ≠ []) (hmem : project ∈ bothProjects.projects) :
    DeliveredInParts [onlyProject project hkey hcwd, bothProjects] (lastSynced remoteMovedUp) := by
  refine ⟨?_, List.Perm.refl _⟩
  simpa [onlyProject] using hmem

theorem survivesRestart_remote_first :
    SurvivesRestart (remoteMovedUp.foldl performProjectAction (readPersistedState none))
      (restart (remoteMovedUp.foldl performProjectAction (readPersistedState none))
        [onlyProject remoteProject (by decide) (by decide), bothProjects]) bothProjects :=
  (survivesRestart_iff none remoteMovedUp _
    (deliveredInParts_both remoteProject (by decide) (by decide) (by decide))).mpr (by decide)

/-- With the local project delivered first, the remote one comes back below it. -/
theorem not_survivesRestart :
    ¬ ∀ (stored : Option PersistedUiState) (actions : List ProjectAction)
      (deliveries : List SyncedProjects), DeliveredInParts deliveries (lastSynced actions) →
        SurvivesRestart (actions.foldl performProjectAction (readPersistedState stored))
          (restart (actions.foldl performProjectAction (readPersistedState stored)) deliveries)
          (lastSynced actions) := by
  intro h
  have hsurvives := h none remoteMovedUp _
    (deliveredInParts_both localProject (by decide) (by decide) (by decide))
  exact absurd hsurvives.order (by decide)

end GT3Code.Web
