import GT3Code.Base.Arrivals
import GT3Code.Base.FreshNames
import GT3Code.Base.KeyedMap
import GT3Code.Base.Ordering
import GT3Code.Contracts.Keybindings

/-! # Projects in the sidebar

The order of the projects is kept by project key, the collapsed groups by logical key. Both are
stored by the projects' directories, and read again when a synchronization brings the projects.
The sets and maps of the module stand beside the state in one structure.
-/

namespace GT3Code.Web

open GT3Code.Base GT3Code.Base.Json GT3Code.Contracts

/-- `key` is the physical project key (env + cwd), `logicalKey` the key of its group. -/
structure SyncProjectInput where
  key : Text
  logicalKey : Text
  cwd : Text
  deriving DecidableEq

structure UiProjectState where
  projectExpandedById : KeyedMap Text Bool
  projectOrder : List Text

structure PersistedUiState where
  collapsedProjectCwds : Option (List Text)
  expandedProjectCwds : Option (List Text)
  projectOrderCwds : Option (List Text)

/-- What `hydratePersistedProjectState` leaves in the module. -/
structure PersistedProjects where
  collapsedCwds : List Text
  expandedCwds : List Text
  orderCwds : List Text
  usesLegacyShape : Bool

/-- What the last `syncProjects` leaves in the module. -/
structure CurrentProjects where
  cwdById : KeyedMap Text Text
  cwdsByLogicalKey : KeyedMap Text (List Text)
  logicalKeyByPhysicalKey : KeyedMap Text Text

structure UiStore where
  state : UiProjectState
  persisted : PersistedProjects
  current : CurrentProjects

def initialUiState : UiProjectState where
  projectExpandedById := KeyedTable.empty _
  projectOrder := []

/-- The loop skips empty directories, and in the order those it has. -/
def hydratePersistedProjectState (parsed : PersistedUiState) : PersistedProjects where
  collapsedCwds := (parsed.collapsedProjectCwds.getD []).filter (fun cwd => cwd.length > 0)
  expandedCwds := (parsed.expandedProjectCwds.getD []).filter (fun cwd => cwd.length > 0)
  orderCwds :=
    ((parsed.projectOrderCwds.getD []).filter (fun cwd => cwd.length > 0)).foldl
      (fun kept cwd => if cwd ∈ kept then kept else kept ++ [cwd]) []
  usesLegacyShape := parsed.collapsedProjectCwds.isNone

def groupCwdsWithFlag (store : UiStore) (expanded : Bool) : List Text :=
  (store.state.projectExpandedById.rows.filter (fun entry => entry.2 = expanded)).flatMap
    (fun entry => (KeyedMap.get entry.1 store.current.cwdsByLogicalKey).getD [])

def persistState (store : UiStore) : PersistedUiState where
  collapsedProjectCwds := some (groupCwdsWithFlag store false)
  expandedProjectCwds := some (groupCwdsWithFlag store true)
  projectOrderCwds := some (store.state.projectOrder.filterMap
    (fun projectId => (KeyedMap.get projectId store.current.cwdById).filter (fun cwd => cwd ≠ [])))

def noProjects : CurrentProjects where
  cwdById := KeyedTable.empty _
  cwdsByLogicalKey := KeyedTable.empty _
  logicalKeyByPhysicalKey := KeyedTable.empty _

def readPersistedState (stored : Option PersistedUiState) : UiStore where
  state := initialUiState
  persisted :=
    match stored with
    | none => ⟨[], [], [], false⟩
    | some parsed => hydratePersistedProjectState parsed
  current := noProjects

/-! ## Synchronization -/

/-- `cwds` of a group in the loop, an entry with every project of the group. -/
def addGroupCwd (cwdsByLogicalKey : KeyedMap Text (List Text)) (project : SyncProjectInput) :
    KeyedMap Text (List Text) :=
  match KeyedMap.get project.logicalKey cwdsByLogicalKey with
  | some cwds =>
    if project.cwd ∈ cwds then cwdsByLogicalKey
    else KeyedMap.set project.logicalKey (cwds ++ [project.cwd]) cwdsByLogicalKey
  | none => KeyedMap.set project.logicalKey [project.cwd] cwdsByLogicalKey

def currentProjects (projects : List SyncProjectInput) : CurrentProjects where
  cwdById := KeyedMap.ofEntries (projects.map (fun project => (project.key, project.cwd)))
  cwdsByLogicalKey := projects.foldl addGroupCwd (KeyedTable.empty _)
  logicalKeyByPhysicalKey :=
    KeyedMap.ofEntries (projects.map (fun project => (project.key, project.logicalKey)))

/-- Where a project's logical key has changed, its previous one is noted under the new one. -/
def addPreviousLogicalKey (previousLogicalKeyByPhysicalKey : KeyedMap Text Text)
    (keys : KeyedMap Text (List Text)) (project : SyncProjectInput) :
    KeyedMap Text (List Text) :=
  match KeyedMap.get project.key previousLogicalKeyByPhysicalKey with
  | none => keys
  | some previousLogicalKey =>
    if previousLogicalKey = [] ∨ previousLogicalKey = project.logicalKey then keys
    else
      match KeyedMap.get project.logicalKey keys with
      | some set =>
        if previousLogicalKey ∈ set then keys
        else KeyedMap.set project.logicalKey (set ++ [previousLogicalKey]) keys
      | none => KeyedMap.set project.logicalKey [previousLogicalKey] keys

def previousLogicalKeysByNewLogicalKey (previousLogicalKeyByPhysicalKey : KeyedMap Text Text)
    (projects : List SyncProjectInput) : KeyedMap Text (List Text) :=
  projects.foldl (addPreviousLogicalKey previousLogicalKeyByPhysicalKey) (KeyedTable.empty _)

def fallbackFromPreviousLogicalKey (previousExpandedById : KeyedMap Text Bool)
    (previousKeys : Option (List Text)) : Option Bool :=
  (previousKeys.getD []).findSome?
    (fun previousKey => KeyedMap.get previousKey previousExpandedById)

def fallbackFromPersistedShape (persisted : PersistedProjects) (groupCwds : List Text) : Bool :=
  if groupCwds.any (fun cwd => cwd ∈ persisted.expandedCwds) then true
  else if groupCwds.any (fun cwd => cwd ∈ persisted.collapsedCwds) then false
  else if persisted.usesLegacyShape ∧ persisted.expandedCwds.length > 0 then false
  else true

/-- The flag a project's group gets, where the loop has not set it. -/
def syncExpanded (store : UiStore) (projects : List SyncProjectInput)
    (nextExpandedById : KeyedMap Text Bool) (project : SyncProjectInput) : KeyedMap Text Bool :=
  if KeyedMap.has project.logicalKey nextExpandedById then nextExpandedById
  else
    let previousExpandedById := store.state.projectExpandedById
    let groupCwds :=
      (KeyedMap.get project.logicalKey (currentProjects projects).cwdsByLogicalKey).getD
        [project.cwd]
    let previousKeys := KeyedMap.get project.logicalKey
      (previousLogicalKeysByNewLogicalKey store.current.logicalKeyByPhysicalKey projects)
    let expanded :=
      ((KeyedMap.get project.logicalKey previousExpandedById).or
        (fallbackFromPreviousLogicalKey previousExpandedById previousKeys)).getD
          (fallbackFromPersistedShape store.persisted groupCwds)
    KeyedMap.set project.logicalKey expanded nextExpandedById

def nextExpandedById (store : UiStore) (projects : List SyncProjectInput) : KeyedMap Text Bool :=
  projects.foldl (syncExpanded store projects) (KeyedTable.empty _)

/-- The project under a key of the order: the one with the key, else the one where the key's
project was. -/
def matchedProjectId (previousProjectCwdById : KeyedMap Text Text)
    (projects : List SyncProjectInput) (projectId : Text) : Option Text :=
  let nextProjectIdByCwd :=
    KeyedMap.ofEntries (projects.map (fun project => (project.cwd, project.key)))
  let current :=
    if projectId ∈ projects.map SyncProjectInput.key then some projectId else none
  let atPreviousCwd :=
    ((KeyedMap.get projectId previousProjectCwdById).filter (fun cwd => cwd ≠ [])).bind
      (fun previousCwd => KeyedMap.get previousCwd nextProjectIdByCwd)
  current.or atPreviousCwd

/-- One key of the order; the loop keeps the ids used in a set of their own. -/
def keepProjectId (previousProjectCwdById : KeyedMap Text Text)
    (projects : List SyncProjectInput) (orderedProjectIds : List Text) (projectId : Text) :
    List Text :=
  match matchedProjectId previousProjectCwdById projects projectId with
  | none => orderedProjectIds
  | some matched =>
    if matched = [] ∨ matched ∈ orderedProjectIds then orderedProjectIds
    else orderedProjectIds ++ [matched]

structure OrderedProject where
  id : Text
  incomingIndex : Nat
  orderIndex : Nat

def persistedOrderByCwd (persistedProjectOrderCwds : List Text) : KeyedMap Text Nat :=
  KeyedMap.ofEntries persistedProjectOrderCwds.zipIdx

def orderedProject (persistedProjectOrderCwds : List Text) (entry : SyncProjectInput × Nat) :
    OrderedProject where
  id := entry.1.key
  incomingIndex := entry.2
  orderIndex :=
    (KeyedMap.get entry.1.cwd (persistedOrderByCwd persistedProjectOrderCwds)).getD
      (persistedProjectOrderCwds.length + entry.2)

def compareOrderedProjects (left right : OrderedProject) : Int :=
  orElse (byKey OrderedProject.orderIndex left right)
    (byKey OrderedProject.incomingIndex left right)

def nextProjectOrder (store : UiStore) (projects : List SyncProjectInput) : List Text :=
  if store.state.projectOrder.length > 0 then
    let orderedProjectIds :=
      store.state.projectOrder.foldl (keepProjectId store.current.cwdById projects) []
    appendMissing orderedProjectIds (projects.map SyncProjectInput.key)
  else
    (toSorted compareOrderedProjects
      (projects.zipIdx.map (orderedProject store.persisted.orderCwds))).map OrderedProject.id

def recordsEqual (left right : KeyedMap Text Bool) : Bool :=
  left.rows.length = right.rows.length ∧
    left.rows.all (fun entry => KeyedMap.get entry.1 right = some entry.2)

def cwdMappingChanged (previousProjectCwdById : KeyedMap Text Text)
    (projects : List SyncProjectInput) : Bool :=
  previousProjectCwdById.rows.length ≠ (currentProjects projects).cwdById.rows.length ∨
    projects.any
      (fun project => KeyedMap.get project.key previousProjectCwdById ≠ some project.cwd)

def syncProjects (store : UiStore) (projects : List SyncProjectInput) : UiStore :=
  let nextExpandedById := nextExpandedById store projects
  let nextProjectOrder := nextProjectOrder store projects
  let unchanged :=
    recordsEqual store.state.projectExpandedById nextExpandedById ∧
      store.state.projectOrder = nextProjectOrder ∧
      ¬ cwdMappingChanged store.current.cwdById projects
  { store with
    state :=
      if unchanged then store.state
      else { projectExpandedById := nextExpandedById, projectOrder := nextProjectOrder }
    current := currentProjects projects }

def toggleProject (state : UiProjectState) (projectId : Text) : UiProjectState :=
  let expanded := (KeyedMap.get projectId state.projectExpandedById).getD true
  { state with
    projectExpandedById := KeyedMap.set projectId (!expanded) state.projectExpandedById }

def setProjectExpanded (state : UiProjectState) (projectId : Text) (expanded : Bool) :
    UiProjectState :=
  if (KeyedMap.get projectId state.projectExpandedById).getD true = expanded then state
  else
    { state with
      projectExpandedById := KeyedMap.set projectId expanded state.projectExpandedById }

/-- The dragged ids, the others and the number of dragged ones before the target, by the loop
from the end of the order. -/
def splitDragged (draggedProjectIds : List Text) (originalTargetIndex : Nat)
    (projectOrder : List Text) : List Text × List Text × Nat :=
  projectOrder.zipIdx.foldr
    (fun entry split =>
      if entry.1 ∈ draggedProjectIds then
        (entry.1 :: split.1, split.2.1,
          if entry.2 < originalTargetIndex then split.2.2 + 1 else split.2.2)
      else (split.1, entry.1 :: split.2.1, split.2.2))
    ([], [], 0)

def reorderProjects (state : UiProjectState) (draggedProjectIds targetProjectIds : List Text) :
    UiProjectState :=
  if draggedProjectIds.length = 0 then state
  else if draggedProjectIds.all (fun id => id ∈ targetProjectIds) then state
  else
    match state.projectOrder.findIdx? (fun id => id ∈ targetProjectIds) with
    | none => state
    | some originalTargetIndex =>
      let (removed, projectOrder, draggedBeforeTarget) :=
        splitDragged draggedProjectIds originalTargetIndex state.projectOrder
      if removed.length = 0 then state
      else
        let insertIndex := originalTargetIndex - (draggedBeforeTarget - 1)
        { state with
          projectOrder :=
            projectOrder.take insertIndex ++ removed ++ projectOrder.drop insertIndex }

end GT3Code.Web
