import GT3Code.Base.KeyedMap
import GT3Code.Contracts.Keybindings
import GT3Code.Web.ScopedRefs

/-! # Draft sessions

A draft session is a thread that has not been sent yet. The store has the sessions and the composer
contents under their keys, and for every logical project the draft it shows. What a composer
content is made of does not matter here. The three maps are plain objects, which have a function
under the name of every property of `Object.prototype` that is no key of their own.
-/

namespace GT3Code.Web

open GT3Code.Base GT3Code.Base.Json GT3Code.Contracts

inductive DraftThreadEnvMode where
  | «local»
  | worktree
  deriving DecidableEq

/-- The thread that a draft becomes, of ids that a session may lack. -/
structure PromotedThreadRef where
  environmentId : Option Text
  threadId : Option Text
  deriving DecidableEq

def PromotedThreadRef.ofRef (ref : ScopedThreadRef) : PromotedThreadRef :=
  ⟨some ref.environmentId, some ref.threadId⟩

/-- A session that is made of an inherited property has only what it is given. -/
structure DraftThreadState where
  threadId : Option Text
  environmentId : Option Text
  projectId : Option Text
  logicalProjectKey : Option Text
  createdAt : Option Text
  runtimeMode : Option RuntimeMode
  interactionMode : Option ProviderInteractionMode
  branch : Option Text
  worktreePath : Option Text
  envMode : Option DraftThreadEnvMode
  promotedTo : Option PromotedThreadRef
  deriving DecidableEq

/-- What an inherited property has of the fields of a session. -/
def inheritedDraftThread : DraftThreadState :=
  ⟨none, none, none, none, none, none, none, none, none, none, none⟩

def objectMethods : List Text :=
  ["hasOwnProperty", "isPrototypeOf", "propertyIsEnumerable", "toLocaleString", "toString",
    "valueOf", "__defineGetter__", "__defineSetter__", "__lookupGetter__",
    "__lookupSetter__"].map ascii

/-- The text of the property that an object inherits under the name. -/
def inheritedText (name : Text) : Option Text :=
  if name = ascii "__proto__" then some (ascii "[object Object]")
  else if name = ascii "constructor" then
    some (ascii "function Object() \x7b [native code] \x7d")
  else if name ∈ objectMethods then
    some (ascii "function " ++ name ++ ascii "() \x7b [native code] \x7d")
  else none

/-- A draft session by its `DraftId`, or a thread of the server. -/
inductive ComposerThreadTarget where
  | draft (draftId : Text)
  | thread (ref : ScopedThreadRef)

structure ComposerDraftStore (C : Type) where
  draftsByThreadKey : KeyedMap Text C
  draftThreadsByThreadKey : KeyedMap Text DraftThreadState
  logicalProjectDraftThreadKeyByLogicalProjectKey : KeyedMap Text Text

def emptyDraftStore (C : Type) : ComposerDraftStore C where
  draftsByThreadKey := KeyedTable.empty _
  draftThreadsByThreadKey := KeyedTable.empty _
  logicalProjectDraftThreadKeyByLogicalProjectKey := KeyedTable.empty _

/-- An option that may be absent, and `null` where it is not. -/
structure DraftThreadOptions where
  threadId : Option Text
  branch : Option (Option Text)
  worktreePath : Option (Option Text)
  createdAt : Option Text
  envMode : Option DraftThreadEnvMode
  runtimeMode : Option RuntimeMode
  interactionMode : Option ProviderInteractionMode

structure DraftContextOptions where
  branch : Option (Option Text)
  worktreePath : Option (Option Text)
  projectRef : Option ScopedProjectRef
  createdAt : Option Text
  envMode : Option DraftThreadEnvMode
  runtimeMode : Option RuntimeMode
  interactionMode : Option ProviderInteractionMode

def DEFAULT_RUNTIME_MODE : RuntimeMode := .fullAccess

def DEFAULT_INTERACTION_MODE : ProviderInteractionMode := .default

def logicalProjectDraftKey (logicalProjectKey : Text) : Text := trimText logicalProjectKey

def composerTargetKey : ComposerThreadTarget → Text
  | .draft draftId => trimText draftId
  | .thread ref => scopedThreadKey ref

def normalizeComposerTarget : ComposerThreadTarget → Option ComposerThreadTarget
  | .draft target =>
    let draftId := trimText target
    if draftId.length > 0 then some (.draft draftId) else none
  | .thread ref => some (.thread ref)

/-- `ThreadId.make`, which throws unless the text is trimmed and not empty. -/
def makeThreadId (value : Text) : Option Text :=
  if trimText value = value ∧ value.length > 0 then some value else none

section Store

variable {C : Type}

def draftThreadAt (draftThreads : KeyedMap Text DraftThreadState) (threadKey : Text) :
    Option DraftThreadState :=
  (KeyedMap.get threadKey draftThreads).or
    ((inheritedText threadKey).map fun _ => inheritedDraftThread)

/-- A scoped key has a colon, so no object inherits a property of that name. -/
def resolveComposerDraftKey (store : ComposerDraftStore C) (target : ComposerThreadTarget) :
    Option Text :=
  match normalizeComposerTarget target with
  | none => none
  | some (.thread ref) =>
    let scopedKey := scopedThreadKey ref
    if KeyedMap.has scopedKey store.draftsByThreadKey then some scopedKey
    else
      let session := store.draftThreadsByThreadKey.rows.find? (fun entry =>
        entry.2.environmentId = some ref.environmentId ∧ entry.2.threadId = some ref.threadId)
      some ((session.map Prod.fst).getD scopedKey)
  | some (.draft draftId) =>
    let threadKey := composerTargetKey (.draft draftId)
    if threadKey.length > 0 then some threadKey else none

def isComposerThreadKeyInUse (mappings : KeyedMap Text Text) (threadKey : Text) : Bool :=
  threadKey ∈ mappings.rows.map Prod.snd

def isDraftThreadPromoting (draftThread : Option DraftThreadState) : Bool :=
  (draftThread.bind DraftThreadState.promotedTo).isSome

/-! ## Sessions -/

def isPath (path : Option Text) : Bool := path.any (fun text => text.length > 0)

/-- `createdAt` is `now` where neither the options nor the session have one. -/
def createDraftThreadState (projectRef : ScopedProjectRef) (threadId logicalProjectKey : Text)
    (existingThread : Option DraftThreadState) (options : DraftThreadOptions) (now : Text) :
    DraftThreadState :=
  let projectChanged := existingThread.any (fun existing =>
    existing.environmentId ≠ some projectRef.environmentId ∨
      existing.projectId ≠ some projectRef.projectId)
  let nextWorktreePath := options.worktreePath.getD
    (if projectChanged then none else existingThread.bind DraftThreadState.worktreePath)
  let nextBranch := options.branch.getD
    (if projectChanged then none else existingThread.bind DraftThreadState.branch)
  { threadId := some threadId
    environmentId := some projectRef.environmentId
    projectId := some projectRef.projectId
    logicalProjectKey := some logicalProjectKey
    createdAt :=
      (options.createdAt.or (existingThread.bind DraftThreadState.createdAt)).getD now
    runtimeMode :=
      (options.runtimeMode.or (existingThread.bind DraftThreadState.runtimeMode)).getD
        DEFAULT_RUNTIME_MODE
    interactionMode :=
      (options.interactionMode.or (existingThread.bind DraftThreadState.interactionMode)).getD
        DEFAULT_INTERACTION_MODE
    branch := nextBranch
    worktreePath := nextWorktreePath
    envMode := options.envMode.getD
      (if isPath nextWorktreePath then .worktree
      else if projectChanged then .local
      else (existingThread.bind DraftThreadState.envMode).getD .local)
    promotedTo := none }

def draftThreadsEqual (left : Option DraftThreadState) (right : DraftThreadState) : Bool :=
  left = some right

def withoutDraftThread (store : ComposerDraftStore C) (threadKey : Text) :
    ComposerDraftStore C where
  draftsByThreadKey := KeyedMap.delete threadKey store.draftsByThreadKey
  draftThreadsByThreadKey := KeyedMap.delete threadKey store.draftThreadsByThreadKey
  logicalProjectDraftThreadKeyByLogicalProjectKey :=
    store.logicalProjectDraftThreadKeyByLogicalProjectKey.restrict
      (fun entry => entry.2 ≠ threadKey)

/-- An inherited property in the place of a composer content has no images to revoke the
previews of: the call throws and changes nothing. -/
def removeDraftThreadReferences (store : ComposerDraftStore C) (threadKey : Text) :
    ComposerDraftStore C :=
  if (KeyedMap.get threadKey store.draftsByThreadKey).isNone ∧ (inheritedText threadKey).isSome then
    store
  else withoutDraftThread store threadKey

/-- The key whose session and content go: the draft the project had, or the text of a property
inherited under the project's key, which equals no draft id and is no value of a mapping. -/
def unusedDraft (mappings : KeyedMap Text Text) (draftThreads : KeyedMap Text DraftThreadState)
    (draftId logicalProjectKey : Text) (previous : Option Text) : Option Text :=
  match previous with
  | some threadKey =>
    if threadKey.length > 0 ∧ threadKey ≠ draftId ∧ ¬ isComposerThreadKeyInUse mappings threadKey ∧
        ¬ isDraftThreadPromoting (draftThreadAt draftThreads threadKey) then some threadKey
    else none
  | none =>
    (inheritedText logicalProjectKey).filter (fun threadKey =>
      ¬ isDraftThreadPromoting (draftThreadAt draftThreads threadKey))

def nextDraftThreadId (store : ComposerDraftStore C) (draftId : Text)
    (options : DraftThreadOptions) : Option Text :=
  (options.threadId.or ((draftThreadAt store.draftThreadsByThreadKey draftId).bind
    DraftThreadState.threadId)).or (makeThreadId draftId)

/-- A call whose draft id is no thread id throws where it needs one, and changes nothing. -/
def setLogicalProjectDraftThreadId (store : ComposerDraftStore C) (logicalProjectKey : Text)
    (projectRef : ScopedProjectRef) (draftId : Text) (options : DraftThreadOptions) (now : Text) :
    ComposerDraftStore C :=
  let normalizedLogicalProjectKey := logicalProjectDraftKey logicalProjectKey
  if normalizedLogicalProjectKey.length = 0 ∨ draftId.length = 0 then store
  else
    let existingThread := draftThreadAt store.draftThreadsByThreadKey draftId
    let previous := KeyedMap.get normalizedLogicalProjectKey
      store.logicalProjectDraftThreadKeyByLogicalProjectKey
    match nextDraftThreadId store draftId options with
    | none => store
    | some threadId =>
      let nextDraftThread := createDraftThreadState projectRef threadId
        normalizedLogicalProjectKey existingThread options now
      if previous = some draftId ∧ draftThreadsEqual existingThread nextDraftThread then store
      else
        let mappings := KeyedMap.set normalizedLogicalProjectKey draftId
          store.logicalProjectDraftThreadKeyByLogicalProjectKey
        let draftThreads := KeyedMap.set draftId nextDraftThread store.draftThreadsByThreadKey
        match unusedDraft mappings draftThreads draftId normalizedLogicalProjectKey previous with
        | none =>
          { draftsByThreadKey := store.draftsByThreadKey
            draftThreadsByThreadKey := draftThreads
            logicalProjectDraftThreadKeyByLogicalProjectKey := mappings }
        | some threadKey =>
          { draftsByThreadKey := KeyedMap.delete threadKey store.draftsByThreadKey
            draftThreadsByThreadKey := KeyedMap.delete threadKey draftThreads
            logicalProjectDraftThreadKeyByLogicalProjectKey := mappings }

def putDraftThread (store : ComposerDraftStore C) (threadKey : Text)
    (draftThread : DraftThreadState) : ComposerDraftStore C :=
  { store with
    draftThreadsByThreadKey := KeyedMap.set threadKey draftThread store.draftThreadsByThreadKey }

def nextDraftContext (existing : DraftThreadState) (nextProjectRef : ScopedProjectRef)
    (options : DraftContextOptions) : DraftThreadState :=
  let projectChanged :=
    existing.environmentId ≠ some nextProjectRef.environmentId ∨
      existing.projectId ≠ some nextProjectRef.projectId
  let nextWorktreePath :=
    options.worktreePath.getD (if projectChanged then none else existing.worktreePath)
  let nextBranch := options.branch.getD (if projectChanged then none else existing.branch)
  { threadId := existing.threadId
    environmentId := some nextProjectRef.environmentId
    projectId := some nextProjectRef.projectId
    logicalProjectKey := existing.logicalProjectKey
    createdAt :=
      (options.createdAt.filter (fun createdAt => createdAt.length > 0)).or existing.createdAt
    runtimeMode := options.runtimeMode.or existing.runtimeMode
    interactionMode := options.interactionMode.or existing.interactionMode
    branch := nextBranch
    worktreePath := nextWorktreePath
    envMode := options.envMode.getD
      (if isPath nextWorktreePath then .worktree
      else if projectChanged then .local
      else existing.envMode.getD .local)
    promotedTo := existing.promotedTo }

def DraftThreadState.projectRef (existing : DraftThreadState) : Option ScopedProjectRef :=
  match existing.environmentId, existing.projectId with
  | some environmentId, some projectId => some ⟨environmentId, projectId⟩
  | _, _ => none

/-- Where there is no project id to take the length of, the call throws. -/
def setDraftThreadContext (store : ComposerDraftStore C) (target : ComposerThreadTarget)
    (options : DraftContextOptions) : ComposerDraftStore C :=
  match resolveComposerDraftKey store target with
  | none => store
  | some threadKey =>
    match draftThreadAt store.draftThreadsByThreadKey threadKey with
    | none => store
    | some existing =>
      match options.projectRef.or existing.projectRef with
      | none => store
      | some nextProjectRef =>
        if nextProjectRef.projectId.length = 0 ∨ nextProjectRef.environmentId.length = 0 then
          store
        else
          let nextDraftThread := nextDraftContext existing nextProjectRef options
          if nextDraftThread = existing then store
          else putDraftThread store threadKey nextDraftThread

def markDraftThreadPromoting (store : ComposerDraftStore C) (target : ComposerThreadTarget)
    (promotedTo : Option ScopedThreadRef) : ComposerDraftStore C :=
  match resolveComposerDraftKey store target with
  | none => store
  | some threadKey =>
    match draftThreadAt store.draftThreadsByThreadKey threadKey with
    | none => store
    | some existing =>
      let nextPromotedTo := (promotedTo.map PromotedThreadRef.ofRef).getD
        ⟨existing.environmentId, existing.threadId⟩
      if existing.promotedTo = some nextPromotedTo then store
      else putDraftThread store threadKey { existing with promotedTo := some nextPromotedTo }

def finalizePromotedDraftThread (store : ComposerDraftStore C) (target : ComposerThreadTarget) :
    ComposerDraftStore C :=
  match resolveComposerDraftKey store target with
  | none => store
  | some threadKey =>
    if isDraftThreadPromoting (draftThreadAt store.draftThreadsByThreadKey threadKey) then
      removeDraftThreadReferences store threadKey
    else store

def clearDraftThread (store : ComposerDraftStore C) (target : ComposerThreadTarget) :
    ComposerDraftStore C :=
  match resolveComposerDraftKey store target with
  | none => store
  | some threadKey =>
    if (draftThreadAt store.draftThreadsByThreadKey threadKey).isSome ∨
        isComposerThreadKeyInUse store.logicalProjectDraftThreadKeyByLogicalProjectKey threadKey ∨
        KeyedMap.has threadKey store.draftsByThreadKey ∨ (inheritedText threadKey).isSome then
      removeDraftThreadReferences store threadKey
    else store

def isDraftOfProject (projectRef : ScopedProjectRef) (draftThread : DraftThreadState) : Bool :=
  draftThread.projectId = some projectRef.projectId ∧
    draftThread.environmentId = some projectRef.environmentId

def clearProjectDraftThreadId (store : ComposerDraftStore C) (projectRef : ScopedProjectRef) :
    ComposerDraftStore C :=
  match store.draftThreadsByThreadKey.rows.find?
      (fun entry => isDraftOfProject projectRef entry.2) with
  | none => store
  | some entry => removeDraftThreadReferences store entry.1

def clearProjectDraftThreadById (store : ComposerDraftStore C) (projectRef : ScopedProjectRef)
    (target : ComposerThreadTarget) : ComposerDraftStore C :=
  match resolveComposerDraftKey store target with
  | none => store
  | some threadKey =>
    match draftThreadAt store.draftThreadsByThreadKey threadKey with
    | none => store
    | some draftThread =>
      if isDraftOfProject projectRef draftThread then
        removeDraftThreadReferences store threadKey
      else store

/-- Any of the actions that write a composer content, or remove one that became empty. -/
def editDraft (store : ComposerDraftStore C) (target : ComposerThreadTarget)
    (edit : Option C → Option C) : ComposerDraftStore C :=
  match resolveComposerDraftKey store target with
  | none => store
  | some threadKey =>
    { store with
      draftsByThreadKey :=
        match edit (KeyedMap.get threadKey store.draftsByThreadKey) with
        | none => KeyedMap.delete threadKey store.draftsByThreadKey
        | some content => KeyedMap.set threadKey content store.draftsByThreadKey }

end Store

end GT3Code.Web
