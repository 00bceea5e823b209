import GT3Code.Base.KeyedMap
import GT3Code.Contracts.Keybindings
import GT3Code.Web.ScopedRefs

/-! # Terminal panes

The terminals of a thread are shown in groups of panes. A state is normalized at the start of
every transition, and at the end of most; what is stored is the state of every thread that is
not in the default state.
-/

namespace GT3Code.Web

open GT3Code.Base GT3Code.Base.Json GT3Code.Contracts

structure ThreadTerminalGroup where
  id : Text
  terminalIds : List Text
  deriving DecidableEq

/-- A height that is not a finite number is `none`. -/
structure ThreadTerminalState where
  terminalOpen : Bool
  terminalHeight : Option ℚ
  terminalIds : List Text
  runningTerminalIds : List Text
  activeTerminalId : Text
  terminalGroups : List ThreadTerminalGroup
  activeTerminalGroupId : Text
  deriving DecidableEq

def DEFAULT_THREAD_TERMINAL_HEIGHT : ℚ := 280

def DEFAULT_THREAD_TERMINAL_ID : Text := ascii "default"

def MAX_TERMINALS_PER_GROUP : Nat := 4

/-! ## Normalizing -/

/-- `[...new Set(terminalIds.map((id) => id.trim()).filter((id) => id.length > 0))]` -/
def normalizeTerminalGroupIds (terminalIds : List Text) : List Text :=
  ((terminalIds.map trimText).filter (fun id => id.length > 0)).eraseDups

def normalizeTerminalIds (terminalIds : List Text) : List Text :=
  let ids := normalizeTerminalGroupIds terminalIds
  if ids.length > 0 then ids else [DEFAULT_THREAD_TERMINAL_ID]

def normalizeRunningTerminalIds (runningTerminalIds terminalIds : List Text) : List Text :=
  if runningTerminalIds.length = 0 then []
  else
    (runningTerminalIds.eraseDups.map trimText).filter
      (fun id => id.length > 0 ∧ id ∈ terminalIds)

def fallbackGroupId (terminalId : Text) : Text := ascii "group-" ++ terminalId

/-- The loop tries `baseId`, then numbers from 2 on. -/
def assignUniqueGroupId (baseId : Text) (usedGroupIds : List Text) : Text :=
  if baseId ∈ usedGroupIds then
    numbered baseId (firstFresh (numbered baseId) (numbered_injective baseId) usedGroupIds 2)
  else baseId

/-- The terminals the groups have; the loops keep them in a set of their own. -/
def assignedTerminalIds (groups : List ThreadTerminalGroup) : List Text :=
  groups.flatMap ThreadTerminalGroup.terminalIds

def usedGroupIds (groups : List ThreadTerminalGroup) : List Text :=
  groups.map ThreadTerminalGroup.id

/-- One group of the first loop in `normalizeTerminalGroups`. -/
def normalizeGroup (terminalIds : List Text) (nextGroups : List ThreadTerminalGroup)
    (group : ThreadTerminalGroup) : List ThreadTerminalGroup :=
  let groupTerminalIds := (normalizeTerminalGroupIds group.terminalIds).filter
    (fun id => id ∈ terminalIds ∧ id ∉ assignedTerminalIds nextGroups)
  match groupTerminalIds with
  | [] => nextGroups
  | first :: _ =>
    let baseGroupId :=
      if (trimText group.id).length > 0 then trimText group.id else fallbackGroupId first
    nextGroups ++
      [⟨assignUniqueGroupId baseGroupId (usedGroupIds nextGroups), groupTerminalIds⟩]

def appendGroup (nextGroups : List ThreadTerminalGroup) (terminalId : Text) :
    List ThreadTerminalGroup :=
  nextGroups ++
    [⟨assignUniqueGroupId (fallbackGroupId terminalId) (usedGroupIds nextGroups), [terminalId]⟩]

def normalizeTerminalGroups (terminalGroups : List ThreadTerminalGroup)
    (terminalIds : List Text) : List ThreadTerminalGroup :=
  let grouped := terminalGroups.foldl (normalizeGroup terminalIds) []
  let nextGroups :=
    (terminalIds.filter (fun id => id ∉ assignedTerminalIds grouped)).foldl appendGroup grouped
  if nextGroups.length = 0 then
    [⟨fallbackGroupId DEFAULT_THREAD_TERMINAL_ID, [DEFAULT_THREAD_TERMINAL_ID]⟩]
  else nextGroups

def groupOf (terminalGroups : List ThreadTerminalGroup) (terminalId : Text) :
    Option ThreadTerminalGroup :=
  terminalGroups.find? (fun group => terminalId ∈ group.terminalIds)

def normalizedActiveTerminalId (state : ThreadTerminalState) (terminalIds : List Text) : Text :=
  if state.activeTerminalId ∈ terminalIds then state.activeTerminalId
  else terminalIds.head?.getD DEFAULT_THREAD_TERMINAL_ID

def normalizedActiveGroupId (state : ThreadTerminalState) (activeTerminalId : Text)
    (terminalGroups : List ThreadTerminalGroup) : Text :=
  let activeGroupIdFromState :=
    if terminalGroups.any (fun group => group.id = state.activeTerminalGroupId) then
      some state.activeTerminalGroupId
    else none
  let activeGroupIdFromTerminal :=
    (groupOf terminalGroups activeTerminalId).map ThreadTerminalGroup.id
  ((activeGroupIdFromState.or activeGroupIdFromTerminal).or
    (terminalGroups.head?.map ThreadTerminalGroup.id)).getD
      (fallbackGroupId DEFAULT_THREAD_TERMINAL_ID)

def normalizedHeight (terminalHeight : Option ℚ) : Option ℚ :=
  some ((terminalHeight.filter (fun height => height > 0)).getD DEFAULT_THREAD_TERMINAL_HEIGHT)

def normalizeThreadTerminalState (state : ThreadTerminalState) : ThreadTerminalState :=
  let terminalIds := normalizeTerminalIds state.terminalIds
  let activeTerminalId := normalizedActiveTerminalId state terminalIds
  let terminalGroups := normalizeTerminalGroups state.terminalGroups terminalIds
  { terminalOpen := state.terminalOpen
    terminalHeight := normalizedHeight state.terminalHeight
    terminalIds
    runningTerminalIds := normalizeRunningTerminalIds state.runningTerminalIds terminalIds
    activeTerminalId
    terminalGroups
    activeTerminalGroupId := normalizedActiveGroupId state activeTerminalId terminalGroups }

def DEFAULT_THREAD_TERMINAL_STATE : ThreadTerminalState where
  terminalOpen := false
  terminalHeight := some DEFAULT_THREAD_TERMINAL_HEIGHT
  terminalIds := [DEFAULT_THREAD_TERMINAL_ID]
  runningTerminalIds := []
  activeTerminalId := DEFAULT_THREAD_TERMINAL_ID
  terminalGroups := [⟨fallbackGroupId DEFAULT_THREAD_TERMINAL_ID, [DEFAULT_THREAD_TERMINAL_ID]⟩]
  activeTerminalGroupId := fallbackGroupId DEFAULT_THREAD_TERMINAL_ID

def isValidTerminalId (terminalId : Text) : Bool := (trimText terminalId).length > 0

/-- The terminal leaves the first group that has it, and a group it leaves empty goes. -/
def leaveGroup (terminalId : Text) : List ThreadTerminalGroup → List ThreadTerminalGroup
  | [] => []
  | group :: groups =>
    if terminalId ∈ group.terminalIds then
      let rest := group.terminalIds.filter (fun id => id ≠ terminalId)
      if rest.length = 0 then groups else { group with terminalIds := rest } :: groups
    else group :: leaveGroup terminalId groups

/-- `splice(anchorIndex + 1, 0, terminalId)`, or `push` where there is no anchor. -/
def insertAtAnchor (terminalId anchor : Text) (group : ThreadTerminalGroup) :
    ThreadTerminalGroup :=
  if terminalId ∈ group.terminalIds then group
  else
    match group.terminalIds.findIdx? (fun id => id = anchor) with
    | some anchorIndex =>
      { group with
        terminalIds := group.terminalIds.take (anchorIndex + 1) ++
          terminalId :: group.terminalIds.drop (anchorIndex + 1) }
    | none => { group with terminalIds := group.terminalIds ++ [terminalId] }

inductive UpsertMode where
  | split
  | new

/-- The groups a terminal is split into, with the index of the one that takes it. -/
def splitDestination (normalized : ThreadTerminalState) (terminalGroups : List ThreadTerminalGroup) :
    List ThreadTerminalGroup × Nat :=
  match terminalGroups.findIdx? (fun group => group.id = normalized.activeTerminalGroupId) with
  | some index => (terminalGroups, index)
  | none =>
    match terminalGroups.findIdx?
      (fun group => normalized.activeTerminalId ∈ group.terminalIds) with
    | some index => (terminalGroups, index)
    | none => (appendGroup terminalGroups normalized.activeTerminalId, terminalGroups.length)

def upsertTerminalIntoGroups (state : ThreadTerminalState) (terminalId : Text)
    (mode : UpsertMode) : ThreadTerminalState :=
  let normalized := normalizeThreadTerminalState state
  if !isValidTerminalId terminalId then normalized
  else
    let isNewTerminal := terminalId ∉ normalized.terminalIds
    let terminalIds :=
      if isNewTerminal then normalized.terminalIds ++ [terminalId] else normalized.terminalIds
    let left := leaveGroup terminalId normalized.terminalGroups
    match mode with
    | .new =>
      normalizeThreadTerminalState
        { normalized with
          terminalOpen := true
          terminalIds
          activeTerminalId := terminalId
          terminalGroups := appendGroup left terminalId
          activeTerminalGroupId :=
            assignUniqueGroupId (fallbackGroupId terminalId) (usedGroupIds left) }
    | .split =>
      let (terminalGroups, activeGroupIndex) := splitDestination normalized left
      match terminalGroups[activeGroupIndex]? with
      | none => normalized
      | some destinationGroup =>
        if isNewTerminal ∧ terminalId ∉ destinationGroup.terminalIds ∧
            destinationGroup.terminalIds.length ≥ MAX_TERMINALS_PER_GROUP then
          normalized
        else
          normalizeThreadTerminalState
            { normalized with
              terminalOpen := true
              terminalIds
              activeTerminalId := terminalId
              terminalGroups := terminalGroups.modify activeGroupIndex
                (insertAtAnchor terminalId normalized.activeTerminalId)
              activeTerminalGroupId := destinationGroup.id }

def setThreadTerminalOpen (state : ThreadTerminalState) (isOpen : Bool) : ThreadTerminalState :=
  let normalized := normalizeThreadTerminalState state
  if normalized.terminalOpen = isOpen then normalized
  else { normalized with terminalOpen := isOpen }

def setThreadTerminalHeight (state : ThreadTerminalState) (height : Option ℚ) :
    ThreadTerminalState :=
  let normalized := normalizeThreadTerminalState state
  match height with
  | none => normalized
  | some value =>
    if value ≤ 0 ∨ normalized.terminalHeight = some value then normalized
    else { normalized with terminalHeight := some value }

def splitThreadTerminal (state : ThreadTerminalState) (terminalId : Text) : ThreadTerminalState :=
  upsertTerminalIntoGroups state terminalId .split

def newThreadTerminal (state : ThreadTerminalState) (terminalId : Text) : ThreadTerminalState :=
  upsertTerminalIntoGroups state terminalId .new

def setThreadActiveTerminal (state : ThreadTerminalState) (terminalId : Text) :
    ThreadTerminalState :=
  let normalized := normalizeThreadTerminalState state
  if terminalId ∉ normalized.terminalIds then normalized
  else
    let activeTerminalGroupId :=
      ((groupOf normalized.terminalGroups terminalId).map ThreadTerminalGroup.id).getD
        normalized.activeTerminalGroupId
    if normalized.activeTerminalId = terminalId ∧
        normalized.activeTerminalGroupId = activeTerminalGroupId then normalized
    else { normalized with activeTerminalId := terminalId, activeTerminalGroupId }

def closeThreadTerminal (state : ThreadTerminalState) (terminalId : Text) : ThreadTerminalState :=
  let normalized := normalizeThreadTerminalState state
  if terminalId ∉ normalized.terminalIds then normalized
  else
    let remainingTerminalIds := normalized.terminalIds.filter (fun id => id ≠ terminalId)
    if remainingTerminalIds.length = 0 then DEFAULT_THREAD_TERMINAL_STATE
    else
      let closedTerminalIndex := normalized.terminalIds.idxOf terminalId
      let nextActiveTerminalId :=
        if normalized.activeTerminalId = terminalId then
          ((remainingTerminalIds[min closedTerminalIndex (remainingTerminalIds.length - 1)]?).or
            remainingTerminalIds.head?).getD DEFAULT_THREAD_TERMINAL_ID
        else normalized.activeTerminalId
      let terminalGroups :=
        (normalized.terminalGroups.map (fun group =>
          { group with terminalIds := group.terminalIds.filter (fun id => id ≠ terminalId) })).filter
          (fun group => group.terminalIds.length > 0)
      let nextActiveTerminalGroupId :=
        (((groupOf terminalGroups nextActiveTerminalId).map ThreadTerminalGroup.id).or
          (terminalGroups.head?.map ThreadTerminalGroup.id)).getD
            (fallbackGroupId nextActiveTerminalId)
      normalizeThreadTerminalState
        { terminalOpen := normalized.terminalOpen
          terminalHeight := normalized.terminalHeight
          terminalIds := remainingTerminalIds
          runningTerminalIds := normalized.runningTerminalIds.filter (fun id => id ≠ terminalId)
          activeTerminalId := nextActiveTerminalId
          terminalGroups
          activeTerminalGroupId := nextActiveTerminalGroupId }

def setThreadTerminalActivity (state : ThreadTerminalState) (terminalId : Text)
    (hasRunningSubprocess : Bool) : ThreadTerminalState :=
  let normalized := normalizeThreadTerminalState state
  if terminalId ∉ normalized.terminalIds then normalized
  else
    let alreadyRunning := decide (terminalId ∈ normalized.runningTerminalIds)
    if hasRunningSubprocess = alreadyRunning then normalized
    else
      { normalized with
        runningTerminalIds :=
          if hasRunningSubprocess then normalized.runningTerminalIds.eraseDups ++ [terminalId]
          else normalized.runningTerminalIds.eraseDups.filter (fun id => id ≠ terminalId) }

/-! ## The store -/

def terminalThreadKey (threadRef : ScopedThreadRef) : Text :=
  threadRef.environmentId ++ ascii ":" ++ threadRef.threadId

abbrev TerminalStates := KeyedMap Text ThreadTerminalState

def selectThreadTerminalState (states : TerminalStates) (threadRef : ScopedThreadRef) :
    ThreadTerminalState :=
  if threadRef.threadId.length = 0 then DEFAULT_THREAD_TERMINAL_STATE
  else (KeyedMap.get (terminalThreadKey threadRef) states).getD DEFAULT_THREAD_TERMINAL_STATE

def isDefaultThreadTerminalState (state : ThreadTerminalState) : Bool :=
  normalizeThreadTerminalState state = DEFAULT_THREAD_TERMINAL_STATE

def updateTerminalStateByThreadKey (states : TerminalStates) (threadRef : ScopedThreadRef)
    (updater : ThreadTerminalState → ThreadTerminalState) : TerminalStates :=
  if threadRef.threadId.length = 0 then states
  else
    let current := selectThreadTerminalState states threadRef
    let next := updater current
    if next = current then states
    else if isDefaultThreadTerminalState next then
      KeyedMap.delete (terminalThreadKey threadRef) states
    else KeyedMap.set (terminalThreadKey threadRef) next states

def TerminalId := { id : Text // trimText id = id }

inductive TerminalEventType where
  | started
  | restarted
  | output
  | exited
  | error
  | cleared
  | activity (hasRunningSubprocess : Bool)
  deriving DecidableEq

structure TerminalEvent where
  terminalId : TerminalId
  type : TerminalEventType

def terminalRunningSubprocessFromEvent (event : TerminalEvent) : Option Bool :=
  match event.type with
  | .activity hasRunningSubprocess => some hasRunningSubprocess
  | .started => some false
  | .restarted => some false
  | .exited => some false
  | _ => none

inductive TerminalAction where
  | setTerminalOpen (isOpen : Bool)
  | setTerminalHeight (height : Option ℚ)
  | splitTerminal (terminalId : TerminalId)
  | newTerminal (terminalId : TerminalId)
  | ensureTerminal (terminalId : TerminalId) (isOpen active : Option Bool)
  | setActiveTerminal (terminalId : TerminalId)
  | closeTerminal (terminalId : TerminalId)
  | setTerminalActivity (terminalId : TerminalId) (hasRunningSubprocess : Bool)
  | applyTerminalEvent (event : TerminalEvent)
  | clearTerminalState

def ensureThreadTerminal (terminalId : Text) (isOpen active : Option Bool)
    (state : ThreadTerminalState) : ThreadTerminalState :=
  let created :=
    if terminalId ∉ state.terminalIds then newThreadTerminal state terminalId else state
  let kept :=
    if active = some false then
      { created with
        activeTerminalId := state.activeTerminalId
        activeTerminalGroupId := state.activeTerminalGroupId }
    else created
  let activated :=
    if active.getD true then setThreadActiveTerminal kept terminalId else kept
  normalizeThreadTerminalState
    (if isOpen = some true then setThreadTerminalOpen activated true else activated)

/-- What a `started` or `restarted` event does. -/
def startThreadTerminal (terminalId : Text) (state : ThreadTerminalState) : ThreadTerminalState :=
  let created :=
    if terminalId ∉ state.terminalIds then newThreadTerminal state terminalId else state
  normalizeThreadTerminalState
    (setThreadTerminalOpen (setThreadActiveTerminal created terminalId) true)

def applyTerminalEvent (states : TerminalStates) (threadRef : ScopedThreadRef)
    (event : TerminalEvent) : TerminalStates :=
  let started :=
    if event.type = .started ∨ event.type = .restarted then
      updateTerminalStateByThreadKey states threadRef (startThreadTerminal event.terminalId.val)
    else states
  match terminalRunningSubprocessFromEvent event with
  | some hasRunningSubprocess =>
    updateTerminalStateByThreadKey started threadRef (fun current =>
      setThreadTerminalActivity current event.terminalId.val hasRunningSubprocess)
  | none => started

def act (states : TerminalStates) (threadRef : ScopedThreadRef) :
    TerminalAction → TerminalStates
  | .setTerminalOpen isOpen =>
    updateTerminalStateByThreadKey states threadRef (setThreadTerminalOpen · isOpen)
  | .setTerminalHeight height =>
    updateTerminalStateByThreadKey states threadRef (setThreadTerminalHeight · height)
  | .splitTerminal terminalId =>
    updateTerminalStateByThreadKey states threadRef (splitThreadTerminal · terminalId.val)
  | .newTerminal terminalId =>
    updateTerminalStateByThreadKey states threadRef (newThreadTerminal · terminalId.val)
  | .ensureTerminal terminalId isOpen active =>
    updateTerminalStateByThreadKey states threadRef
      (ensureThreadTerminal terminalId.val isOpen active)
  | .setActiveTerminal terminalId =>
    updateTerminalStateByThreadKey states threadRef (setThreadActiveTerminal · terminalId.val)
  | .closeTerminal terminalId =>
    updateTerminalStateByThreadKey states threadRef (closeThreadTerminal · terminalId.val)
  | .setTerminalActivity terminalId hasRunningSubprocess =>
    updateTerminalStateByThreadKey states threadRef
      (setThreadTerminalActivity · terminalId.val hasRunningSubprocess)
  | .applyTerminalEvent event => applyTerminalEvent states threadRef event
  | .clearTerminalState =>
    updateTerminalStateByThreadKey states threadRef (fun _ => DEFAULT_THREAD_TERMINAL_STATE)

def terminalStep (states : TerminalStates) (step : ScopedThreadRef × TerminalAction) :
    Option TerminalStates :=
  some (act states step.1 step.2)

/-- The groups partition the terminals, and what is active and running are terminals. -/
structure PanesPartition (state : ThreadTerminalState) : Prop where
  nonempty : state.terminalIds ≠ []
  distinct : state.terminalIds.Nodup
  groups : (assignedTerminalIds state.terminalGroups).Perm state.terminalIds
  groupIds : (usedGroupIds state.terminalGroups).Nodup
  groupsNonempty : ∀ group ∈ state.terminalGroups, group.terminalIds ≠ []
  active : state.activeTerminalId ∈ state.terminalIds
  activeGroup : ∃ group ∈ state.terminalGroups, group.id = state.activeTerminalGroupId ∧
    state.activeTerminalId ∈ group.terminalIds
  running : state.runningTerminalIds.Nodup
  runningTerminals : ∀ id ∈ state.runningTerminalIds, id ∈ state.terminalIds

def NoneOutgrown (before after : ThreadTerminalState) : Prop :=
  ∀ group ∈ after.terminalGroups, MAX_TERMINALS_PER_GROUP < group.terminalIds.length →
    ∃ earlier ∈ before.terminalGroups, earlier.id = group.id ∧
      MAX_TERMINALS_PER_GROUP < earlier.terminalIds.length

instance (before after : ThreadTerminalState) : Decidable (NoneOutgrown before after) :=
  inferInstanceAs (Decidable (∀ group ∈ after.terminalGroups,
    MAX_TERMINALS_PER_GROUP < group.terminalIds.length → ∃ earlier ∈ before.terminalGroups,
      earlier.id = group.id ∧ MAX_TERMINALS_PER_GROUP < earlier.terminalIds.length))

/-- A terminal of another group is not split into an active group at the limit. -/
def SplitFits (state : ThreadTerminalState) (terminalId : Text) : Prop :=
  terminalId ∈ state.terminalIds → ∀ group ∈ state.terminalGroups,
    group.id = state.activeTerminalGroupId → terminalId ∉ group.terminalIds →
      group.terminalIds.length ≠ MAX_TERMINALS_PER_GROUP

instance (state : ThreadTerminalState) (terminalId : Text) :
    Decidable (SplitFits state terminalId) :=
  inferInstanceAs (Decidable (terminalId ∈ state.terminalIds → ∀ group ∈ state.terminalGroups,
    group.id = state.activeTerminalGroupId → terminalId ∉ group.terminalIds →
      group.terminalIds.length ≠ MAX_TERMINALS_PER_GROUP))

def StepFits (states : TerminalStates) : ScopedThreadRef × TerminalAction → Prop
  | (threadRef, .splitTerminal terminalId) =>
    SplitFits (selectThreadTerminalState states threadRef) terminalId.val
  | _ => True

/-- The persisted active group, if it is still there, has the active terminal, and no two running
terminals are the same but for white space. -/
structure PersistedFits (persisted : ThreadTerminalState) : Prop where
  activeGroup :
    ∀ group ∈ normalizeTerminalGroups persisted.terminalGroups
        (normalizeTerminalIds persisted.terminalIds),
      group.id = persisted.activeTerminalGroupId →
        normalizedActiveTerminalId persisted (normalizeTerminalIds persisted.terminalIds) ∈
          group.terminalIds
  running : ∀ left ∈ persisted.runningTerminalIds, ∀ right ∈ persisted.runningTerminalIds,
    trimText left = trimText right →
      trimText left ∈ normalizeTerminalIds persisted.terminalIds → left = right

def Partitioned (states : TerminalStates) : Prop :=
  ∀ threadRef, PanesPartition (selectThreadTerminalState states threadRef)

def KeepsLimit (states : TerminalStates) (step : ScopedThreadRef × TerminalAction) : Prop :=
  ∀ next, terminalStep states step = some next →
    ∀ threadRef, NoneOutgrown (selectThreadTerminalState states threadRef)
      (selectThreadTerminalState next threadRef)

end GT3Code.Web
