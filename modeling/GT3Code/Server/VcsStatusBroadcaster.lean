import GT3Code.Contracts.VcsStatus

/-! # VCS status broadcaster

The status of one working directory is kept in a cache. Requests and a poller query
the directory, update the cache and, some of them, publish the part they updated where
its fingerprint changed; the query, the update and the publish are separate steps.
A stream subscribes, reads both parts and then sends its snapshot and what was
published since.
-/

namespace GT3Code.Server

open GT3Code.Base GT3Code.Base.Json GT3Code.Contracts

/-! ## Cache -/

inductive StatusPart where
  | loc
  | remote
  deriving DecidableEq

inductive StatusValue where
  | loc (loc : VcsStatusLocalResult)
  | remote (remote : Option VcsStatusRemoteResult)

def StatusValue.part : StatusValue → StatusPart
  | .loc _ => .loc
  | .remote _ => .remote

def StatusValue.event : StatusValue → VcsStatusStreamEvent
  | .loc status => .localUpdated status
  | .remote status => .remoteUpdated status

def fingerprintLocal (loc : VcsStatusLocalResult) : Text :=
  stringify 0 ⟨loc.encode, loc.distinct_encode⟩

def fingerprintRemote (remote : Option VcsStatusRemoteResult) : Text :=
  stringify 0 ⟨orNull VcsStatusRemoteResult.encode remote,
    distinct_orNull VcsStatusRemoteResult.distinct_encode remote⟩

structure CachedValue {α : Type} (fingerprintOf : α → Text) where
  fingerprint : Text
  value : α
  matched : fingerprint = fingerprintOf value

def cachedValue {α : Type} (fingerprintOf : α → Text) (value : α) : CachedValue fingerprintOf :=
  ⟨fingerprintOf value, value, rfl⟩

structure CachedVcsStatus where
  loc : Option (CachedValue fingerprintLocal)
  remote : Option (CachedValue fingerprintRemote)

/-- Replace the local part, and say whether its fingerprint changed. -/
def updateCachedLocalStatus (cache : CachedVcsStatus) (loc : VcsStatusLocalResult) :
    Bool × CachedVcsStatus :=
  let nextLocal := cachedValue fingerprintLocal loc
  (cache.loc.map CachedValue.fingerprint ≠ some nextLocal.fingerprint,
    { cache with loc := some nextLocal })

def updateCachedRemoteStatus (cache : CachedVcsStatus) (remote : Option VcsStatusRemoteResult) :
    Bool × CachedVcsStatus :=
  let nextRemote := cachedValue fingerprintRemote remote
  (cache.remote.map CachedValue.fingerprint ≠ some nextRemote.fingerprint,
    { cache with remote := some nextRemote })

def updateCachedStatus (cache : CachedVcsStatus) : StatusValue → Bool × CachedVcsStatus
  | .loc loc => updateCachedLocalStatus cache loc
  | .remote remote => updateCachedRemoteStatus cache remote

def CachedVcsStatus.has (cache : CachedVcsStatus) : StatusPart → Bool
  | .loc => cache.loc.isSome
  | .remote => cache.remote.isSome

/-- `cached?.local?.value` -/
def CachedVcsStatus.localValue (cache : CachedVcsStatus) : Option VcsStatusLocalResult :=
  cache.loc.map CachedValue.value

/-- `cached?.remote?.value ?? null` -/
def CachedVcsStatus.remoteValue (cache : CachedVcsStatus) : Option VcsStatusRemoteResult :=
  cache.remote.bind CachedValue.value

/-- Next step of an operation: a look into the cache that loads what is missing, a query, an
update of the cache, a publish. -/
inductive Instruction where
  | getOrLoad (part : StatusPart)
  | query (part : StatusPart) (publish : Bool)
  | update (value : StatusValue) (publish : Bool)
  | publish (value : StatusValue)

def loadStatus (part : StatusPart) : List Instruction := [.query part false]

def getStatus : List Instruction := [.getOrLoad .loc, .getOrLoad .remote]

def refreshLocalStatus : List Instruction := [.query .loc true]

def refreshRemoteStatus : List Instruction := [.query .remote true]

def refreshStatus : List Instruction := refreshLocalStatus ++ refreshRemoteStatus

inductive Writer where
  | request (id : Nat)
  | poller
  deriving DecidableEq

inductive StreamStage where
  | idle
  | getCached
  | localStatus
  | updateLocal (loc : VcsStatusLocalResult)
  | readRemote (initialLocal : VcsStatusLocalResult)
  | retain (initialLocal : VcsStatusLocalResult) (initialRemote : Option VcsStatusRemoteResult)
  | streaming
  deriving DecidableEq

/-- `queue` is the subscription, `received` what the client was sent. -/
structure StatusStream where
  stage : StreamStage
  received : List VcsStatusStreamEvent
  queue : List VcsStatusStreamEvent

def StatusStream.closed : StatusStream := ⟨.idle, [], []⟩

def StatusStream.send (event : VcsStatusStreamEvent) (stream : StatusStream) : StatusStream :=
  if stream.stage = .idle then stream else { stream with queue := stream.queue ++ [event] }

def foldEvents (events : List VcsStatusStreamEvent) : Option VcsStatusResult :=
  events.foldl (fun current event => some (applyGitStatusStreamEvent current event)) none

/-! ## Steps -/

/-- `code` is what is left of an operation. `subscriberCount` is that of the poller, absent
without one. -/
structure BroadcasterState where
  cache : CachedVcsStatus
  code : Writer → List Instruction
  subscriberCount : Option Nat
  streams : Nat → StatusStream

def BroadcasterState.initial : BroadcasterState where
  cache := { loc := none, remote := none }
  code := fun _ => []
  subscriberCount := none
  streams := fun _ => .closed

inductive BroadcasterAction where
  | getStatus (id : Nat)
  | refreshLocalStatus (id : Nat)
  | refreshStatus (id : Nat)
  | streamStatus (i : Nat)
  | run (writer : Writer)
  | answer (writer : Writer) (value : StatusValue)
  | fail (writer : Writer)
  | interrupt (id : Nat)
  | wake
  | advance (i : Nat)
  | answerLocal (i : Nat) (loc : VcsStatusLocalResult)
  | failLocal (i : Nat)
  | deliver (i : Nat)
  | close (i : Nat)

namespace BroadcasterState

def setCode (state : BroadcasterState) (writer : Writer) (code : List Instruction) :
    BroadcasterState :=
  { state with code := Function.update state.code writer code }

def setStream (state : BroadcasterState) (i : Nat) (stream : StatusStream) : BroadcasterState :=
  { state with streams := Function.update state.streams i stream }

def start (state : BroadcasterState) (id : Nat) (code : List Instruction) :
    Option BroadcasterState :=
  if state.code (.request id) = [] then some (state.setCode (.request id) code) else none

def run (state : BroadcasterState) (writer : Writer) : Option BroadcasterState :=
  match state.code writer with
  | .getOrLoad part :: rest =>
    some (state.setCode writer
      (if state.cache.has part then rest else loadStatus part ++ rest))
  | .update value publish :: rest =>
    let (shouldPublish, cache) := updateCachedStatus state.cache value
    let code := if publish && shouldPublish then .publish value :: rest else rest
    some { state.setCode writer code with cache }
  | .publish value :: rest =>
    some { state.setCode writer rest with
      streams := fun i => (state.streams i).send value.event }
  | _ => none

def answer (state : BroadcasterState) (writer : Writer) (value : StatusValue) :
    Option BroadcasterState :=
  match state.code writer with
  | .query part publish :: rest =>
    if value.part = part then some (state.setCode writer (.update value publish :: rest))
    else none
  | _ => none

/-- A failed query ends the operation; the poller goes to sleep again. -/
def fail (state : BroadcasterState) (writer : Writer) : Option BroadcasterState :=
  match state.code writer with
  | .query _ _ :: _ => some (state.setCode writer [])
  | _ => none

/-- The first subscriber forks the poller, which refreshes at once. -/
def retainRemotePoller (state : BroadcasterState) : BroadcasterState :=
  match state.subscriberCount with
  | some count => { state with subscriberCount := some (count + 1) }
  | none => { state.setCode .poller Server.refreshRemoteStatus with subscriberCount := some 1 }

def releaseRemotePoller (state : BroadcasterState) : BroadcasterState :=
  match state.subscriberCount with
  | none => state
  | some count =>
    if count > 1 then { state with subscriberCount := some (count - 1) }
    else { state.setCode .poller [] with subscriberCount := none }

/-- A stage of `streamStatus` other than its query. -/
def advance (state : BroadcasterState) (i : Nat) : Option BroadcasterState :=
  let stream := state.streams i
  match stream.stage with
  | .getCached =>
    match state.cache.localValue with
    | some loc => some (state.setStream i { stream with stage := .readRemote loc })
    | none => some (state.setStream i { stream with stage := .localStatus })
  | .updateLocal loc =>
    some { state.setStream i { stream with stage := .readRemote loc } with
      cache := (updateCachedLocalStatus state.cache loc).2 }
  | .readRemote loc =>
    some (state.setStream i { stream with stage := .retain loc state.cache.remoteValue })
  | .retain loc remote =>
    some (state.retainRemotePoller.setStream i
      { stream with stage := .streaming, received := [.snapshot loc remote] })
  | _ => none

def deliver (state : BroadcasterState) (i : Nat) : Option BroadcasterState :=
  let stream := state.streams i
  match stream.stage, stream.queue with
  | .streaming, event :: rest =>
    some (state.setStream i { stream with received := stream.received ++ [event], queue := rest })
  | _, _ => none

/-- The client is gone: the subscription ends, and a stream that runs releases the poller. -/
def close (state : BroadcasterState) (i : Nat) : Option BroadcasterState :=
  match (state.streams i).stage with
  | .idle => none
  | .streaming => some (state.releaseRemotePoller.setStream i .closed)
  | _ => some (state.setStream i .closed)

def step (state : BroadcasterState) : BroadcasterAction → Option BroadcasterState
  | .getStatus id => state.start id Server.getStatus
  | .refreshLocalStatus id => state.start id Server.refreshLocalStatus
  | .refreshStatus id => state.start id Server.refreshStatus
  | .streamStatus i =>
    if (state.streams i).stage = .idle then
      some (state.setStream i { stage := .getCached, received := [], queue := [] })
    else none
  | .run writer => state.run writer
  | .answer writer value => state.answer writer value
  | .fail writer => state.fail writer
  | .interrupt id => some (state.setCode (.request id) [])
  | .wake =>
    if state.subscriberCount.isSome && (state.code .poller).isEmpty then
      some (state.setCode .poller Server.refreshRemoteStatus)
    else none
  | .advance i => state.advance i
  | .answerLocal i loc =>
    if (state.streams i).stage = .localStatus then
      some (state.setStream i { state.streams i with stage := .updateLocal loc })
    else none
  | .failLocal i =>
    if (state.streams i).stage = .localStatus then some (state.setStream i .closed) else none
  | .deliver i => state.deliver i
  | .close i => state.close i

/-- No operation is in progress and every published event is delivered. -/
structure Quiescent (state : BroadcasterState) : Prop where
  code : ∀ writer, state.code writer = []
  stage : ∀ i, (state.streams i).stage = .idle ∨ (state.streams i).stage = .streaming
  queue : ∀ i, (state.streams i).queue = []

/-- Every subscriber shows the cached status, once nothing is in progress any more. -/
def Converged (state : BroadcasterState) : Prop :=
  state.Quiescent → ∀ i, (state.streams i).stage = .streaming →
    ∃ loc, state.cache.localValue = some loc ∧
      foldEvents (state.streams i).received =
        some (mergeGitStatusParts loc state.cache.remoteValue)

end BroadcasterState

end GT3Code.Server
