import GT3Code.Orchestration.CheckpointReactor
import GT3Code.Orchestration.Decider

/-! # Reverting to a checkpoint

A revert restores the workspace, rolls the provider's conversation back, deletes the refs
of later checkpoints and dispatches `thread.revert.complete`, one after the other. Each
step may fail, and what was done before it stays done.
-/

namespace GT3Code.Orchestration

open GT3Code.Base GT3Code.Contracts GT3Code.Persistence

/-- A directory with its git repository. `worktree` is the commit the files were last
restored to, nothing where they have been left otherwise. -/
structure Repository where
  isGitRepository : Bool
  refs : CheckpointRef → Option String
  head : Option String
  worktree : Option String

structure RevertWorld where
  database : Database
  sessions : List ProviderSession
  repositories : String → Repository
  conversations : ThreadId → List TurnId

/-- The step that fails. A restore that fails leaves the files in any state; a rollback may
have taken effect when it fails; a deletion that fails has gone through some of the refs. -/
inductive RevertFault where
  | lookup
  | restore (worktree : Option String)
  | rollback (tookEffect : Bool)
  | deleteRefs (deleted : Nat)
  | dispatch
  deriving DecidableEq

/-- One run of the handler: the step that fails with its message, the refs that
`git update-ref -d` leaves with an exit code the store allows, whether the activity that
reports a failure is stored, and the ids and the time it dispatches with. -/
structure RevertAttempt where
  fault : Option RevertFault
  undeletable : List CheckpointRef
  message : String
  reported : Bool
  commandId : CommandId
  eventId : EventId
  activityId : EventId
  now : IsoDateTime

/-! ## What is dispatched -/

/-- What the decider plans for `thread.revert.complete`. -/
def revertCompleteEvent (attempt : RevertAttempt)
    (request : ThreadCheckpointRevertRequestedPayload) : PlannedOrchestrationEvent :=
  withEventBase attempt.eventId
    ⟨attempt.commandId, .threadRevertComplete
      { threadId := request.threadId, turnCount := request.turnCount, createdAt := attempt.now }⟩
    .thread request.threadId attempt.now none
    (.threadReverted { threadId := request.threadId, turnCount := request.turnCount })

def revertFailureActivity (attempt : RevertAttempt) (turnCount : Nat) (detail : String) :
    OrchestrationThreadActivity where
  id := attempt.activityId
  tone := .error
  kind := "checkpoint.revert.failed"
  summary := "Checkpoint revert failed"
  payload := .obj [("turnCount", .num (toString turnCount)), ("detail", .str detail)]
  turnId := none
  sequence := none
  createdAt := attempt.now

/-- What the decider plans for the `thread.activity.append` of a failure. -/
def revertFailureEvent (attempt : RevertAttempt)
    (request : ThreadCheckpointRevertRequestedPayload) (detail : String) :
    PlannedOrchestrationEvent :=
  let activity := revertFailureActivity attempt request.turnCount detail
  withEventBase attempt.eventId
    ⟨attempt.commandId, .threadActivityAppend
      { threadId := request.threadId, activity := activity, createdAt := attempt.now }⟩
    .thread request.threadId attempt.now none
    (.threadActivityAppended { threadId := request.threadId, activity := activity })

section Handler

variable [Collation] [TextRuntime] [Base64UrlRuntime]

namespace RevertWorld

def appendRevertFailureActivity (attempt : RevertAttempt)
    (request : ThreadCheckpointRevertRequestedPayload) (detail : String) (world : RevertWorld) :
    RevertWorld :=
  if attempt.reported then
    { world with database := world.database.persist (revertFailureEvent attempt request detail) }
  else world

def completeRevert (attempt : RevertAttempt) (request : ThreadCheckpointRevertRequestedPayload)
    (world : RevertWorld) : RevertWorld :=
  { world with database := world.database.persist (revertCompleteEvent attempt request) }

def setWorktree (cwd : String) (worktree : Option String) (world : RevertWorld) : RevertWorld :=
  { world with
    repositories := Function.update world.repositories cwd
      { world.repositories cwd with worktree := worktree } }

def rollbackConversation (threadId : ThreadId) (numTurns : Nat) (world : RevertWorld) :
    RevertWorld :=
  { world with
    conversations := Function.update world.conversations threadId
      ((world.conversations threadId).take ((world.conversations threadId).length - numTurns)) }

/-- `checkpointRefs` are those the deletion succeeds for. -/
def deleteCheckpointRefs (cwd : String) (checkpointRefs : List CheckpointRef)
    (world : RevertWorld) : RevertWorld :=
  { world with
    repositories := Function.update world.repositories cwd
      { world.repositories cwd with
        refs := fun ref =>
          if ref ∈ checkpointRefs then none else (world.repositories cwd).refs ref } }

/-- The commit `restoreCheckpoint` restores. -/
def restoredCommit (cwd : String) (checkpointRef : CheckpointRef) (fallbackToHead : Bool)
    (world : RevertWorld) : Option String :=
  ((world.repositories cwd).refs checkpointRef).or
    (if fallbackToHead then (world.repositories cwd).head else none)

def checkpoints (threadId : ThreadId) (world : RevertWorld) :
    Option (List OrchestrationCheckpointSummary) :=
  threadCheckpoints world.database.pipeline.tables threadId

end RevertWorld

structure RevertPlan where
  runtime : SessionRuntime
  currentTurnCount : Nat
  targetCheckpointRef : CheckpointRef
  staleCheckpointRefs : List CheckpointRef

def targetCheckpointRef (request : ThreadCheckpointRevertRequestedPayload)
    (checkpoints : List OrchestrationCheckpointSummary) : Option CheckpointRef :=
  (if request.turnCount = 0 then some (checkpointRefForThreadTurn request.threadId 0)
    else (checkpoints.find? (fun checkpoint =>
      checkpoint.checkpointTurnCount = request.turnCount)).map
        OrchestrationCheckpointSummary.checkpointRef).filter (fun ref => ref ≠ "")

def planRevert (request : ThreadCheckpointRevertRequestedPayload) (world : RevertWorld) :
    Except String RevertPlan :=
  match world.checkpoints request.threadId with
  | none => .error "Thread was not found in read model."
  | some checkpoints =>
    match resolveSessionRuntimeForThread world.sessions request.threadId with
    | none => .error "No active provider session with workspace cwd is bound to this thread."
    | some runtime =>
      if (world.repositories runtime.cwd).isGitRepository = false then
        .error "Checkpoints are unavailable because this project is not a git repository."
      else if currentTurnCount checkpoints < request.turnCount then
        .error ("Checkpoint turn count " ++ toString request.turnCount ++
          " exceeds current turn count " ++ toString (currentTurnCount checkpoints) ++ ".")
      else
        match targetCheckpointRef request checkpoints with
        | none =>
          .error ("Checkpoint ref for turn " ++ toString request.turnCount ++
            " is unavailable in read model.")
        | some ref =>
          .ok
            { runtime := runtime
              currentTurnCount := currentTurnCount checkpoints
              targetCheckpointRef := ref
              staleCheckpointRefs := (checkpoints.filter (fun checkpoint =>
                request.turnCount < checkpoint.checkpointTurnCount)).map
                  OrchestrationCheckpointSummary.checkpointRef }

def RevertAttempt.deletes (attempt : RevertAttempt) (checkpointRefs : List CheckpointRef) :
    List CheckpointRef :=
  checkpointRefs.filter (fun ref => ref ∉ attempt.undeletable)

def executeRevert (attempt : RevertAttempt) (request : ThreadCheckpointRevertRequestedPayload)
    (plan : RevertPlan) (world : RevertWorld) : RevertWorld :=
  match attempt.fault with
  | some (.restore worktree) =>
    (world.setWorktree plan.runtime.cwd worktree).appendRevertFailureActivity attempt request
      attempt.message
  | fault =>
    match world.restoredCommit plan.runtime.cwd plan.targetCheckpointRef
        (request.turnCount = 0) with
    | none =>
      world.appendRevertFailureActivity attempt request
        ("Filesystem checkpoint is unavailable for turn " ++ toString request.turnCount ++ ".")
    | some commit =>
      let restored := world.setWorktree plan.runtime.cwd (some commit)
      let numTurns := plan.currentTurnCount - request.turnCount
      if 0 < numTurns ∧ fault = some (.rollback false) then
        restored.appendRevertFailureActivity attempt request attempt.message
      else
        let rolledBack := if 0 < numTurns then
            restored.rollbackConversation plan.runtime.threadId numTurns
          else restored
        if 0 < numTurns ∧ fault = some (.rollback true) then
          rolledBack.appendRevertFailureActivity attempt request attempt.message
        else
          match fault with
          | some (.deleteRefs deleted) =>
            if plan.staleCheckpointRefs = [] then rolledBack.completeRevert attempt request
            else
              (rolledBack.deleteCheckpointRefs plan.runtime.cwd (attempt.deletes
                (plan.staleCheckpointRefs.take deleted))).appendRevertFailureActivity attempt
                  request attempt.message
          | fault =>
            let cleaned := if plan.staleCheckpointRefs = [] then rolledBack
              else rolledBack.deleteCheckpointRefs plan.runtime.cwd
                (attempt.deletes plan.staleCheckpointRefs)
            if fault = some .dispatch then
              cleaned.appendRevertFailureActivity attempt request attempt.message
            else cleaned.completeRevert attempt request

def handleRevertRequested (attempt : RevertAttempt)
    (request : ThreadCheckpointRevertRequestedPayload) (world : RevertWorld) : RevertWorld :=
  if attempt.fault = some .lookup then
    world.appendRevertFailureActivity attempt request attempt.message
  else
    match planRevert request world with
    | .error detail => world.appendRevertFailureActivity attempt request detail
    | .ok plan => executeRevert attempt request plan world

/-! ## All or nothing -/

/-- Workspace, conversation, refs and log are as a revert that went through leaves them. -/
structure RevertHappened (attempt : RevertAttempt)
    (request : ThreadCheckpointRevertRequestedPayload) (plan : RevertPlan)
    (before after : RevertWorld) : Prop where
  planned : planRevert request before = .ok plan
  worktree : ∃ commit, before.restoredCommit plan.runtime.cwd plan.targetCheckpointRef
      (request.turnCount = 0) = some commit ∧
    (after.repositories plan.runtime.cwd).worktree = some commit
  conversations : after.conversations = (before.rollbackConversation plan.runtime.threadId
    (plan.currentTurnCount - request.turnCount)).conversations
  refs : ∀ cwd, (after.repositories cwd).refs = ((before.deleteCheckpointRefs plan.runtime.cwd
    plan.staleCheckpointRefs).repositories cwd).refs
  reverted : after.database = before.database.persist (revertCompleteEvent attempt request)

/-- Conversations, refs and the thread's checkpoints are as before. -/
structure RevertUntouched (threadId : ThreadId) (before after : RevertWorld) : Prop where
  conversations : after.conversations = before.conversations
  refs : ∀ cwd, (after.repositories cwd).refs = (before.repositories cwd).refs
  checkpoints : after.checkpoints threadId = before.checkpoints threadId

def AllOrNothing (request : ThreadCheckpointRevertRequestedPayload) (world : RevertWorld)
    (attempt : RevertAttempt) : Prop :=
  (∃ plan, RevertHappened attempt request plan world
      (handleRevertRequested attempt request world)) ∨
    RevertUntouched request.threadId world (handleRevertRequested attempt request world)

/-- The refs gone through by a step that fails after the rollback. -/
def RevertFault.deletedRefs (staleCheckpointRefs : List CheckpointRef) :
    RevertFault → Option (List CheckpointRef)
  | .rollback true => some []
  | .deleteRefs deleted => some (staleCheckpointRefs.take deleted)
  | .dispatch => some staleCheckpointRefs
  | _ => none

/-- No step fails after the rollback of a turn took effect, unless neither the conversation nor
the refs had anything to lose, and git leaves no later ref of an attempt without a fault. -/
def LeavesNoTrace (request : ThreadCheckpointRevertRequestedPayload) (world : RevertWorld)
    (attempt : RevertAttempt) : Prop :=
  ∀ plan, planRevert request world = .ok plan →
    (world.restoredCommit plan.runtime.cwd plan.targetCheckpointRef
      (request.turnCount = 0)).isSome = true →
    request.turnCount < plan.currentTurnCount →
    (∀ deleted, attempt.fault.bind (RevertFault.deletedRefs plan.staleCheckpointRefs) =
        some deleted →
      world.conversations plan.runtime.threadId = [] ∧
        ∀ ref ∈ attempt.deletes deleted, (world.repositories plan.runtime.cwd).refs ref = none) ∧
    (attempt.fault = none → ∀ ref ∈ plan.staleCheckpointRefs, ref ∈ attempt.undeletable →
      (world.repositories plan.runtime.cwd).refs ref = none)

/-! ### What each step leaves alone -/

namespace RevertWorld

variable {world : RevertWorld}

omit [Collation] [TextRuntime] [Base64UrlRuntime] in
theorem refs_setWorktree (cwd other : String) (worktree : Option String) (world : RevertWorld) :
    ((world.setWorktree cwd worktree).repositories other).refs =
      (world.repositories other).refs := by
  unfold setWorktree
  by_cases h : other = cwd
  · subst h
    simp
  · simp [h]

omit [Collation] [TextRuntime] [Base64UrlRuntime] in
theorem refs_deleteCheckpointRefs (cwd other : String) (checkpointRefs : List CheckpointRef)
    (world : RevertWorld) (ref : CheckpointRef) :
    ((world.deleteCheckpointRefs cwd checkpointRefs).repositories other).refs ref =
      if other = cwd ∧ ref ∈ checkpointRefs then none else (world.repositories other).refs ref := by
  unfold deleteCheckpointRefs
  by_cases h : other = cwd
  · subst h
    simp
  · simp [h]

omit [Collation] [TextRuntime] [Base64UrlRuntime] in
theorem rollbackConversation_of_pos (threadId : ThreadId) (numTurns : Nat) (world : RevertWorld) :
    (if 0 < numTurns then world.rollbackConversation threadId numTurns else world) =
      world.rollbackConversation threadId numTurns := by
  split
  · rfl
  · next h =>
      rw [Nat.eq_zero_of_not_pos h]
      simp [rollbackConversation]

omit [Collation] [TextRuntime] [Base64UrlRuntime] in
theorem deleteCheckpointRefs_of_ne_nil (cwd : String) (checkpointRefs : List CheckpointRef)
    (world : RevertWorld) :
    (if checkpointRefs = [] then world else world.deleteCheckpointRefs cwd checkpointRefs) =
      world.deleteCheckpointRefs cwd checkpointRefs := by
  split
  · next h =>
      rw [h]
      simp [deleteCheckpointRefs]
  · rfl

omit [Collation] [TextRuntime] [Base64UrlRuntime] in
theorem rollbackConversation_eq_iff {threadId : ThreadId} {numTurns : Nat} (h : 0 < numTurns) :
    (world.rollbackConversation threadId numTurns).conversations = world.conversations ↔
      world.conversations threadId = [] := by
  unfold rollbackConversation
  rw [Function.update_eq_self_iff, List.take_eq_self_iff]
  rw [← List.length_eq_zero_iff]
  omega

section Activities

variable {attempt : RevertAttempt} {request : ThreadCheckpointRevertRequestedPayload}

omit [Base64UrlRuntime] in
theorem checkpoints_persist_failure (attempt : RevertAttempt)
    (request : ThreadCheckpointRevertRequestedPayload) (detail : String) (database : Database)
    (threadId : ThreadId) :
    threadCheckpoints (database.persist
        (revertFailureEvent attempt request detail)).pipeline.tables threadId =
      threadCheckpoints database.pipeline.tables threadId := by
  rw [tables_persist]
  exact threadCheckpoints_activityAppended rfl _ threadId

omit [Base64UrlRuntime] in
theorem untouched_appendFailure (attempt : RevertAttempt)
    (request : ThreadCheckpointRevertRequestedPayload) (detail : String) (world : RevertWorld)
    (threadId : ThreadId) :
    RevertUntouched threadId world
      (world.appendRevertFailureActivity attempt request detail) := by
  unfold appendRevertFailureActivity
  split
  · exact ⟨rfl, fun _ => rfl, checkpoints_persist_failure attempt request detail _ threadId⟩
  · exact ⟨rfl, fun _ => rfl, rfl⟩

omit [Base64UrlRuntime] in
theorem database_appendFailure_ne (detail : String) {before world : RevertWorld}
    (hdatabase : world.database = before.database) :
    (world.appendRevertFailureActivity attempt request detail).database ≠
      before.database.persist (revertCompleteEvent attempt request) := by
  unfold appendRevertFailureActivity
  split
  · show world.database.persist (revertFailureEvent attempt request detail) ≠ _
    rw [hdatabase]
    intro h
    have hevents := congrArg (fun database : Database => database.log.events) h
    have hlast := List.append_cancel_left hevents
    have hpayload := congrArg (fun event : OrchestrationEvent => event.payload) (List.cons.inj hlast).1
    cases hpayload
  · rw [hdatabase]
    intro h
    have hevents := congrArg (fun database : Database => database.log.events.length) h
    have hlength : (before.database.persist (revertCompleteEvent attempt request)).log.events.length =
        before.database.log.events.length + 1 := List.length_append
    simp only [hlength] at hevents
    omega

end Activities

end RevertWorld

omit [Collation] [TextRuntime] [Base64UrlRuntime] in
theorem RevertUntouched.trans {threadId : ThreadId} {first second third : RevertWorld}
    (h : RevertUntouched threadId first second) (h' : RevertUntouched threadId second third) :
    RevertUntouched threadId first third where
  conversations := h'.conversations.trans h.conversations
  refs cwd := (h'.refs cwd).trans (h.refs cwd)
  checkpoints := h'.checkpoints.trans h.checkpoints

omit [Collation] [TextRuntime] [Base64UrlRuntime] in
theorem untouched_setWorktree (cwd : String) (worktree : Option String) (world : RevertWorld)
    (threadId : ThreadId) : RevertUntouched threadId world (world.setWorktree cwd worktree) where
  conversations := rfl
  refs other := RevertWorld.refs_setWorktree cwd other worktree world
  checkpoints := rfl

/-! ### The steps in order -/

omit [Collation] [TextRuntime] in
theorem checkpoints_of_planRevert {request : ThreadCheckpointRevertRequestedPayload}
    {world : RevertWorld} {plan : RevertPlan} (h : planRevert request world = .ok plan) :
    ∃ checkpoints, world.checkpoints request.threadId = some checkpoints ∧
      plan.currentTurnCount = currentTurnCount checkpoints ∧
      plan.staleCheckpointRefs = (checkpoints.filter (fun checkpoint =>
        request.turnCount < checkpoint.checkpointTurnCount)).map
          OrchestrationCheckpointSummary.checkpointRef := by
  unfold planRevert at h
  split at h
  · cases h
  · next checkpoints hcheckpoints =>
      refine ⟨checkpoints, hcheckpoints, ?_⟩
      split at h
      · cases h
      · split at h
        · cases h
        · split at h
          · cases h
          · split at h
            · cases h
            · cases h
              exact ⟨rfl, rfl⟩

omit [Collation] [TextRuntime] in
theorem staleCheckpointRefs_eq_nil_iff {request : ThreadCheckpointRevertRequestedPayload}
    {world : RevertWorld} {plan : RevertPlan} (h : planRevert request world = .ok plan) :
    plan.staleCheckpointRefs = [] ↔ ¬ request.turnCount < plan.currentTurnCount := by
  obtain ⟨checkpoints, -, hcurrent, hstale⟩ := checkpoints_of_planRevert h
  rw [hstale, hcurrent, List.map_eq_nil_iff, List.filter_eq_nil_iff, lt_currentTurnCount_iff]
  simp

section Steps

variable {attempt : RevertAttempt} {request : ThreadCheckpointRevertRequestedPayload}
  {plan : RevertPlan} {world : RevertWorld}

/-- What the steps before the dispatch leave when they delete some of the refs. -/
def RevertPlan.undone (plan : RevertPlan) (request : ThreadCheckpointRevertRequestedPayload)
    (commit : String) (deleted : List CheckpointRef) (world : RevertWorld) : RevertWorld :=
  ((world.setWorktree plan.runtime.cwd (some commit)).rollbackConversation plan.runtime.threadId
    (plan.currentTurnCount - request.turnCount)).deleteCheckpointRefs plan.runtime.cwd deleted

omit [Collation] [TextRuntime] [Base64UrlRuntime] in
theorem refs_undone (commit : String) (deleted : List CheckpointRef) (cwd : String)
    (ref : CheckpointRef) :
    ((plan.undone request commit deleted world).repositories cwd).refs ref =
      if cwd = plan.runtime.cwd ∧ ref ∈ deleted then none
      else (world.repositories cwd).refs ref := by
  unfold RevertPlan.undone
  rw [RevertWorld.refs_deleteCheckpointRefs]
  congr 1
  exact congrFun (RevertWorld.refs_setWorktree plan.runtime.cwd cwd (some commit) world) ref

omit [Base64UrlRuntime] in
theorem untouched_undone_iff (hlater : request.turnCount < plan.currentTurnCount)
    (commit : String) (deleted : List CheckpointRef) (detail : String) :
    RevertUntouched request.threadId world
        ((plan.undone request commit deleted world).appendRevertFailureActivity attempt request
          detail) ↔
      world.conversations plan.runtime.threadId = [] ∧
        ∀ ref ∈ deleted, (world.repositories plan.runtime.cwd).refs ref = none := by
  have hreport := RevertWorld.untouched_appendFailure attempt request detail
    (plan.undone request commit deleted world) request.threadId
  have hconversations : (plan.undone request commit deleted world).conversations =
      (world.rollbackConversation plan.runtime.threadId
        (plan.currentTurnCount - request.turnCount)).conversations := rfl
  have hturns : 0 < plan.currentTurnCount - request.turnCount := by omega
  constructor
  · intro h
    constructor
    · rw [← RevertWorld.rollbackConversation_eq_iff hturns, ← hconversations,
        ← hreport.conversations]
      exact h.conversations
    · intro ref hmem
      have hsame := congrFun ((hreport.refs plan.runtime.cwd).symm.trans
        (h.refs plan.runtime.cwd)) ref
      rw [refs_undone, if_pos ⟨rfl, hmem⟩] at hsame
      exact hsame.symm
  · intro h
    have hbefore : RevertUntouched request.threadId world
        (plan.undone request commit deleted world) := by
      refine ⟨?_, ?_, rfl⟩
      · rw [hconversations, RevertWorld.rollbackConversation_eq_iff hturns]
        exact h.1
      · intro cwd
        funext ref
        rw [refs_undone]
        split
        · next hdeleted =>
            rw [hdeleted.1]
            exact (h.2 ref hdeleted.2).symm
        · rfl
    exact hbefore.trans hreport

omit [Base64UrlRuntime] in
theorem noneLater_of_reverted {after : RevertWorld}
    (h : after.database = world.database.persist (revertCompleteEvent attempt request))
    {checkpoints : List OrchestrationCheckpointSummary}
    (hcheckpoints : after.checkpoints request.threadId = some checkpoints) :
    ¬ request.turnCount < currentTurnCount checkpoints := by
  rw [lt_currentTurnCount_iff]
  intro hlater
  obtain ⟨checkpoint, hmem, hlt⟩ := hlater
  rw [RevertWorld.checkpoints, h, tables_persist] at hcheckpoints
  have hpayload : (world.database.log.nextRow (revertCompleteEvent attempt request)).payload =
      .threadReverted ⟨request.threadId, request.turnCount⟩ := rfl
  exact absurd hlt
    (Nat.not_lt.mpr (turnCount_le_of_threadReverted hpayload hcheckpoints checkpoint hmem))

theorem not_untouched_of_reverted (hplan : planRevert request world = .ok plan)
    (hlater : request.turnCount < plan.currentTurnCount) {after : RevertWorld}
    (h : after.database = world.database.persist (revertCompleteEvent attempt request)) :
    ¬ RevertUntouched request.threadId world after := by
  intro huntouched
  obtain ⟨checkpoints, hcheckpoints, hcurrent, -⟩ := checkpoints_of_planRevert hplan
  exact noneLater_of_reverted h (huntouched.checkpoints.trans hcheckpoints) (hcurrent ▸ hlater)

variable {commit : String}

omit [Collation] [TextRuntime] [Base64UrlRuntime] in
/-- Refs that git leaves are deleted all the same where they did not exist. -/
theorem refs_deletes_iff (attempt : RevertAttempt) (cwd : String)
    (checkpointRefs : List CheckpointRef) (world : RevertWorld) :
    (∀ other, (((world.deleteCheckpointRefs cwd (attempt.deletes checkpointRefs)).repositories
        other).refs = ((world.deleteCheckpointRefs cwd checkpointRefs).repositories other).refs)) ↔
      ∀ ref ∈ checkpointRefs, ref ∈ attempt.undeletable → (world.repositories cwd).refs ref = none := by
  constructor
  · intro h ref hmem hleft
    have hsame := congrFun (h cwd) ref
    rw [RevertWorld.refs_deleteCheckpointRefs, RevertWorld.refs_deleteCheckpointRefs] at hsame
    simpa [RevertAttempt.deletes, hmem, hleft] using hsame
  · intro h other
    funext ref
    rw [RevertWorld.refs_deleteCheckpointRefs, RevertWorld.refs_deleteCheckpointRefs]
    by_cases hleft : ref ∈ attempt.undeletable
    · by_cases hstale : other = cwd ∧ ref ∈ checkpointRefs
      · obtain ⟨rfl, hmem⟩ := hstale
        simp [RevertAttempt.deletes, hleft, hmem, h ref hmem hleft]
      · simp [RevertAttempt.deletes, hleft, hstale]
    · simp [RevertAttempt.deletes, hleft]

theorem happened_undone_iff (hplan : planRevert request world = .ok plan)
    (hcommit : world.restoredCommit plan.runtime.cwd plan.targetCheckpointRef
      (request.turnCount = 0) = some commit) :
    RevertHappened attempt request plan world
      ((plan.undone request commit (attempt.deletes plan.staleCheckpointRefs)
        world).completeRevert attempt request) ↔
    ∀ ref ∈ plan.staleCheckpointRefs, ref ∈ attempt.undeletable →
      (world.repositories plan.runtime.cwd).refs ref = none := by
  have hrefs : ∀ cwd, ((plan.undone request commit (attempt.deletes plan.staleCheckpointRefs)
      world).repositories cwd).refs = ((world.deleteCheckpointRefs plan.runtime.cwd
        (attempt.deletes plan.staleCheckpointRefs)).repositories cwd).refs := by
    intro cwd
    funext ref
    rw [refs_undone, RevertWorld.refs_deleteCheckpointRefs]
  rw [← refs_deletes_iff]
  constructor
  · exact fun h cwd => (hrefs cwd).symm.trans (h.refs cwd)
  · intro h
    refine ⟨hplan, ⟨commit, hcommit, ?_⟩, rfl, fun cwd => (hrefs cwd).trans (h cwd), rfl⟩
    simp [RevertWorld.completeRevert, RevertPlan.undone, RevertWorld.deleteCheckpointRefs,
      RevertWorld.rollbackConversation, RevertWorld.setWorktree]

omit [Collation] [TextRuntime] [Base64UrlRuntime] in
theorem undone_of_not_lt (hturns : ¬ 0 < plan.currentTurnCount - request.turnCount)
    (commit : String) :
    plan.undone request commit [] world = world.setWorktree plan.runtime.cwd (some commit) := by
  unfold RevertPlan.undone
  rw [← RevertWorld.rollbackConversation_of_pos, ← RevertWorld.deleteCheckpointRefs_of_ne_nil,
    if_pos rfl, if_neg hturns]

theorem undone_iff (hlater : request.turnCount < plan.currentTurnCount) (commit : String)
    (deleted : List CheckpointRef) (detail : String) :
    ((∃ plan', RevertHappened attempt request plan' world
        ((plan.undone request commit deleted world).appendRevertFailureActivity attempt request
          detail)) ∨
      RevertUntouched request.threadId world
        ((plan.undone request commit deleted world).appendRevertFailureActivity attempt request
          detail)) ↔
      world.conversations plan.runtime.threadId = [] ∧
        ∀ ref ∈ deleted, (world.repositories plan.runtime.cwd).refs ref = none := by
  rw [untouched_undone_iff hlater]
  refine or_iff_right ?_
  intro h
  obtain ⟨plan', hhappened⟩ := h
  exact RevertWorld.database_appendFailure_ne detail rfl hhappened.reverted

/-- The steps after the checks, where a commit is found to restore: all of them, the files
alone, or those up to a failure after a rollback. -/
theorem executeRevert_cases (hlookup : attempt.fault ≠ some .lookup)
    (hplan : planRevert request world = .ok plan)
    (hcommit : world.restoredCommit plan.runtime.cwd plan.targetCheckpointRef
      (request.turnCount = 0) = some commit) :
    (executeRevert attempt request plan world =
        (plan.undone request commit (attempt.deletes plan.staleCheckpointRefs)
          world).completeRevert attempt request ∧
      (request.turnCount < plan.currentTurnCount → attempt.fault = none)) ∨
    (∃ worktree, executeRevert attempt request plan world =
        (world.setWorktree plan.runtime.cwd worktree).appendRevertFailureActivity attempt request
          attempt.message ∧
      (request.turnCount < plan.currentTurnCount → attempt.fault ≠ none ∧
        attempt.fault.bind (RevertFault.deletedRefs plan.staleCheckpointRefs) = none)) ∨
    (request.turnCount < plan.currentTurnCount ∧
      ∃ deleted, attempt.fault.bind (RevertFault.deletedRefs plan.staleCheckpointRefs) =
          some deleted ∧
        executeRevert attempt request plan world =
          (plan.undone request commit (attempt.deletes deleted)
            world).appendRevertFailureActivity attempt request attempt.message) := by
  have hstale := staleCheckpointRefs_eq_nil_iff hplan
  by_cases hlater : request.turnCount < plan.currentTurnCount
  · have hturns : 0 < plan.currentTurnCount - request.turnCount := by omega
    have hsome : plan.staleCheckpointRefs ≠ [] := fun h => hstale.mp h hlater
    cases hfault : attempt.fault with
    | none =>
      refine Or.inl ⟨?_, fun _ => rfl⟩
      simp only [executeRevert, hfault, hcommit, reduceCtorEq, and_false, if_false, hturns,
        if_true, hsome]
      rfl
    | some fault =>
      cases fault with
      | lookup => exact absurd hfault hlookup
      | restore worktree =>
        refine Or.inr (Or.inl ⟨worktree, ?_, fun _ => ⟨by simp, rfl⟩⟩)
        simp only [executeRevert, hfault]
      | rollback tookEffect =>
        cases tookEffect with
        | false =>
          refine Or.inr (Or.inl ⟨some commit, ?_, fun _ => ⟨by simp, rfl⟩⟩)
          simp only [executeRevert, hfault, hcommit, hturns, and_self, if_true]
        | true =>
          refine Or.inr (Or.inr ⟨hlater, [], rfl, ?_⟩)
          simp only [executeRevert, hfault, hcommit, hturns, Option.some.injEq,
            RevertFault.rollback.injEq, Bool.true_eq_false, and_false, and_self, if_true, if_false]
          rw [RevertPlan.undone, RevertAttempt.deletes, List.filter_nil,
            ← RevertWorld.deleteCheckpointRefs_of_ne_nil, if_pos rfl]
      | deleteRefs deleted =>
        refine Or.inr (Or.inr ⟨hlater, plan.staleCheckpointRefs.take deleted, rfl, ?_⟩)
        simp only [executeRevert, hfault, hcommit, reduceCtorEq, and_false, if_false,
          Option.some.injEq, hsome, hturns, if_true]
        rfl
      | dispatch =>
        refine Or.inr (Or.inr ⟨hlater, plan.staleCheckpointRefs, rfl, ?_⟩)
        simp only [executeRevert, hfault, hcommit, reduceCtorEq, and_false, if_false,
          if_true, Option.some.injEq, hsome, hturns]
        rfl
  · have hturns : ¬ 0 < plan.currentTurnCount - request.turnCount := by omega
    have hnil := hstale.mpr hlater
    have hall : (world.setWorktree plan.runtime.cwd (some commit)).completeRevert attempt request =
        (plan.undone request commit (attempt.deletes plan.staleCheckpointRefs)
          world).completeRevert attempt request := by
      rw [hnil, RevertAttempt.deletes, List.filter_nil, undone_of_not_lt hturns]
    cases hfault : attempt.fault with
    | none =>
      refine Or.inl ⟨?_, fun _ => rfl⟩
      rw [← hall]
      simp only [executeRevert, hfault, hcommit, reduceCtorEq, and_false, if_false, hturns, hnil,
        if_true]
    | some fault =>
      cases fault with
      | lookup => exact absurd hfault hlookup
      | restore worktree =>
        refine Or.inr (Or.inl ⟨worktree, ?_, fun h => absurd h hlater⟩)
        simp only [executeRevert, hfault]
      | rollback | deleteRefs =>
        refine Or.inl ⟨?_, fun h => absurd h hlater⟩
        rw [← hall]
        simp only [executeRevert, hfault, hcommit, hturns, false_and, if_false, hnil, if_true,
          reduceCtorEq, Option.some.injEq]
      | dispatch =>
        refine Or.inr (Or.inl ⟨some commit, ?_, fun h => absurd h hlater⟩)
        simp only [executeRevert, hfault, hcommit, hturns, false_and, if_false, hnil, if_true]

theorem executeRevert_iff (hlookup : attempt.fault ≠ some .lookup)
    (hplan : planRevert request world = .ok plan)
    (hcommit : world.restoredCommit plan.runtime.cwd plan.targetCheckpointRef
      (request.turnCount = 0) = some commit) :
    ((∃ plan', RevertHappened attempt request plan' world
        (executeRevert attempt request plan world)) ∨
      RevertUntouched request.threadId world (executeRevert attempt request plan world)) ↔
    (request.turnCount < plan.currentTurnCount →
      (∀ deleted, attempt.fault.bind (RevertFault.deletedRefs plan.staleCheckpointRefs) =
          some deleted →
        world.conversations plan.runtime.threadId = [] ∧ ∀ ref ∈ attempt.deletes deleted,
          (world.repositories plan.runtime.cwd).refs ref = none) ∧
      (attempt.fault = none → ∀ ref ∈ plan.staleCheckpointRefs, ref ∈ attempt.undeletable →
        (world.repositories plan.runtime.cwd).refs ref = none)) := by
  rcases executeRevert_cases hlookup hplan hcommit with
    ⟨hexec, hsafe⟩ | ⟨worktree, hexec, hsafe⟩ | ⟨hlater, deleted, hdeleted, hexec⟩
  · rw [hexec]
    by_cases hlater : request.turnCount < plan.currentTurnCount
    · have hfault := hsafe hlater
      have huntouched : ¬ RevertUntouched request.threadId world
          ((plan.undone request commit (attempt.deletes plan.staleCheckpointRefs)
            world).completeRevert attempt request) :=
        not_untouched_of_reverted hplan hlater rfl
      rw [or_iff_left huntouched]
      constructor
      · rintro ⟨plan', hhappened⟩ _
        cases hplan.symm.trans hhappened.planned
        refine ⟨?_, fun _ => (happened_undone_iff hplan hcommit).mp hhappened⟩
        intro deleted hdeleted
        rw [hfault] at hdeleted
        cases hdeleted
      · intro h
        exact ⟨plan, (happened_undone_iff hplan hcommit).mpr ((h hlater).2 hfault)⟩
    · have hnil := (staleCheckpointRefs_eq_nil_iff hplan).mpr hlater
      refine iff_of_true (Or.inl ⟨plan, (happened_undone_iff hplan hcommit).mpr ?_⟩)
        (fun h => absurd h hlater)
      simp [hnil]
  · rw [hexec]
    refine iff_of_true (Or.inr ((untouched_setWorktree _ _ _ _).trans
      (RevertWorld.untouched_appendFailure attempt request _ _ _))) ?_
    intro hlater
    obtain ⟨hfault, hnone⟩ := hsafe hlater
    refine ⟨?_, fun h => absurd h hfault⟩
    intro other hother
    cases hnone.symm.trans hother
  · rw [hexec, undone_iff hlater, hdeleted]
    constructor
    · intro h _
      refine ⟨fun other hother => Option.some.inj hother ▸ h, ?_⟩
      intro hfault
      rw [hfault] at hdeleted
      cases hdeleted
    · exact fun h => (h hlater).1 deleted rfl

omit [Base64UrlRuntime] in
theorem untouched_executeRevert (plan : RevertPlan)
    (hcommit : world.restoredCommit plan.runtime.cwd plan.targetCheckpointRef
      (request.turnCount = 0) = none) :
    RevertUntouched request.threadId world (executeRevert attempt request plan world) := by
  unfold executeRevert
  split
  · exact (untouched_setWorktree _ _ _ _).trans
      (RevertWorld.untouched_appendFailure attempt request _ _ _)
  · rw [hcommit]
    exact RevertWorld.untouched_appendFailure attempt request _ _ _

theorem allOrNothing_iff : AllOrNothing request world attempt ↔
    LeavesNoTrace request world attempt := by
  unfold AllOrNothing LeavesNoTrace handleRevertRequested
  by_cases hlookup : attempt.fault = some .lookup
  · rw [if_pos hlookup]
    refine iff_of_true (Or.inr (RevertWorld.untouched_appendFailure attempt request _ _ _)) ?_
    intro plan _ _ _
    rw [hlookup]
    exact ⟨fun _ h => (by cases h), fun h => (by cases h)⟩
  · rw [if_neg hlookup]
    cases hplan : planRevert request world with
    | error detail =>
      refine iff_of_true (Or.inr (RevertWorld.untouched_appendFailure attempt request _ _ _)) ?_
      intro plan hplan
      cases hplan
    | ok plan =>
      cases hcommit : world.restoredCommit plan.runtime.cwd plan.targetCheckpointRef
          (request.turnCount = 0) with
      | none =>
        refine iff_of_true (Or.inr (untouched_executeRevert plan hcommit)) ?_
        intro other hother hsome
        cases hother
        rw [hcommit] at hsome
        cases hsome
      | some commit =>
        refine (executeRevert_iff hlookup hplan hcommit).trans ?_
        constructor
        · intro h other hother _ hlater
          cases hother
          exact h hlater
        · intro h hlater
          exact h plan rfl (by rw [hcommit]; rfl) hlater

/-! ## Repeating a request -/

def revertStep (request : ThreadCheckpointRevertRequestedPayload) (world : RevertWorld)
    (attempt : RevertAttempt) : Option RevertWorld :=
  some (handleRevertRequested attempt request world)

def revertedCount (world : RevertWorld) : Nat :=
  (world.database.log.events.filter (fun event =>
    match event.payload with
    | .threadReverted _ => true
    | _ => false)).length

/-- Without a `thread.reverted` the conversation is as it was. With one or more it has been
rolled back by the turns the first world was past the target, once. -/
def RolledBackOnce (request : ThreadCheckpointRevertRequestedPayload)
    (before after : RevertWorld) : Prop :=
  (revertedCount after = revertedCount before ∧ after.conversations = before.conversations) ∨
    (revertedCount before < revertedCount after ∧
      ∃ plan, planRevert request before = .ok plan ∧
        after.conversations = (before.rollbackConversation plan.runtime.threadId
          (plan.currentTurnCount - request.turnCount)).conversations)

/-- Where repeating the request has led: nothing done yet, or all of it. -/
structure RevertProgress (request : ThreadCheckpointRevertRequestedPayload)
    (before world : RevertWorld) : Prop where
  sessions : world.sessions = before.sessions
  git : ∀ cwd, (world.repositories cwd).isGitRepository =
    (before.repositories cwd).isGitRepository
  rolledBack : RolledBackOnce request before world
  checkpoints : revertedCount world = revertedCount before →
    world.checkpoints request.threadId = before.checkpoints request.threadId
  noneLater : revertedCount before < revertedCount world → ∀ checkpoints,
    world.checkpoints request.threadId = some checkpoints →
      ¬ request.turnCount < currentTurnCount checkpoints

omit [Collation] [TextRuntime] in
theorem planRevert_congr {before : RevertWorld} (hsessions : world.sessions = before.sessions)
    (hgit : ∀ cwd, (world.repositories cwd).isGitRepository =
      (before.repositories cwd).isGitRepository)
    (hcheckpoints : world.checkpoints request.threadId = before.checkpoints request.threadId) :
    planRevert request world = planRevert request before := by
  unfold planRevert
  rw [hsessions, hcheckpoints]
  simp only [hgit]

structure SameSetting (before after : RevertWorld) : Prop where
  sessions : after.sessions = before.sessions
  git : ∀ cwd, (after.repositories cwd).isGitRepository =
    (before.repositories cwd).isGitRepository

omit [Collation] [TextRuntime] [Base64UrlRuntime] in
theorem SameSetting.trans {first second third : RevertWorld} (h : SameSetting first second)
    (h' : SameSetting second third) : SameSetting first third where
  sessions := h'.sessions.trans h.sessions
  git cwd := (h'.git cwd).trans (h.git cwd)

omit [Collation] [TextRuntime] [Base64UrlRuntime] in
theorem sameSetting_setWorktree (cwd : String) (worktree : Option String) :
    SameSetting world (world.setWorktree cwd worktree) where
  sessions := rfl
  git other := by
    unfold RevertWorld.setWorktree
    by_cases h : other = cwd
    · subst h
      simp
    · simp [h]

omit [Collation] [TextRuntime] [Base64UrlRuntime] in
theorem sameSetting_deleteCheckpointRefs (cwd : String) (checkpointRefs : List CheckpointRef) :
    SameSetting world (world.deleteCheckpointRefs cwd checkpointRefs) where
  sessions := rfl
  git other := by
    unfold RevertWorld.deleteCheckpointRefs
    by_cases h : other = cwd
    · subst h
      simp
    · simp [h]

omit [Base64UrlRuntime] in
theorem sameSetting_appendFailure (detail : String) :
    SameSetting world (world.appendRevertFailureActivity attempt request detail) := by
  unfold RevertWorld.appendRevertFailureActivity
  split
  · exact ⟨rfl, fun _ => rfl⟩
  · exact ⟨rfl, fun _ => rfl⟩

omit [Base64UrlRuntime] in
theorem revertedCount_appendFailure (detail : String) :
    revertedCount (world.appendRevertFailureActivity attempt request detail) =
      revertedCount world := by
  unfold RevertWorld.appendRevertFailureActivity
  split
  · show (List.filter _ (world.database.log.events ++ [_])).length = revertedCount world
    rw [List.filter_append, List.length_append]
    rfl
  · rfl

omit [Base64UrlRuntime] in
theorem revertedCount_completeRevert :
    revertedCount (world.completeRevert attempt request) = revertedCount world + 1 := by
  show (List.filter _ (world.database.log.events ++ [_])).length = revertedCount world + 1
  rw [List.filter_append, List.length_append]
  rfl

omit [Collation] [TextRuntime] [Base64UrlRuntime] in
theorem sameSetting_undone (commit : String) (deleted : List CheckpointRef) :
    SameSetting world (plan.undone request commit deleted world) := by
  have hrestored : SameSetting world (world.setWorktree plan.runtime.cwd (some commit)) :=
    sameSetting_setWorktree plan.runtime.cwd (some commit)
  have hrolled : SameSetting (world.setWorktree plan.runtime.cwd (some commit))
      ((world.setWorktree plan.runtime.cwd (some commit)).rollbackConversation
        plan.runtime.threadId (plan.currentTurnCount - request.turnCount)) :=
    ⟨rfl, fun _ => rfl⟩
  exact (hrestored.trans hrolled).trans (sameSetting_deleteCheckpointRefs plan.runtime.cwd deleted)

/-- Everything in place, and the revert completed or no `thread.reverted` added. -/
structure AttemptEffect (attempt : RevertAttempt)
    (request : ThreadCheckpointRevertRequestedPayload) (before after : RevertWorld) : Prop where
  setting : SameSetting before after
  reverted : (∃ plan, (LeavesNoTrace request before attempt →
        RevertHappened attempt request plan before after) ∧
      revertedCount after = revertedCount before + 1) ∨
    revertedCount after = revertedCount before

variable {before : RevertWorld}

theorem attemptEffect_appendFailure (hsetting : SameSetting before world)
    (hdatabase : world.database = before.database) (detail : String) :
    AttemptEffect attempt request before
      (world.appendRevertFailureActivity attempt request detail) where
  setting := hsetting.trans (sameSetting_appendFailure detail)
  reverted := by
    right
    rw [revertedCount_appendFailure, revertedCount, revertedCount, hdatabase]

theorem attemptEffect_executeRevert (hlookup : attempt.fault ≠ some .lookup)
    (hplan : planRevert request world = .ok plan) :
    AttemptEffect attempt request world (executeRevert attempt request plan world) := by
  have hself : SameSetting world world := ⟨rfl, fun _ => rfl⟩
  cases hcommit : world.restoredCommit plan.runtime.cwd plan.targetCheckpointRef
      (request.turnCount = 0) with
  | none =>
    unfold executeRevert
    split
    · exact attemptEffect_appendFailure (sameSetting_setWorktree _ _) rfl _
    · rw [hcommit]
      exact attemptEffect_appendFailure hself rfl _
  | some commit =>
    rcases executeRevert_cases hlookup hplan hcommit with
      ⟨hexec, hsafe⟩ | ⟨worktree, hexec, -⟩ | ⟨-, deleted, -, hexec⟩
    · rw [hexec]
      have hundone : SameSetting world (plan.undone request commit
          (attempt.deletes plan.staleCheckpointRefs) world) :=
        sameSetting_undone commit (attempt.deletes plan.staleCheckpointRefs)
      refine ⟨⟨hundone.sessions, hundone.git⟩,
        Or.inl ⟨plan, ?_, revertedCount_completeRevert⟩⟩
      intro htrace
      rw [happened_undone_iff hplan hcommit]
      by_cases hlater : request.turnCount < plan.currentTurnCount
      · exact (htrace plan hplan (by rw [hcommit]; rfl) hlater).2 (hsafe hlater)
      · simp [(staleCheckpointRefs_eq_nil_iff hplan).mpr hlater]
    · rw [hexec]
      exact attemptEffect_appendFailure (sameSetting_setWorktree _ _) rfl _
    · rw [hexec]
      exact attemptEffect_appendFailure (sameSetting_undone commit _) rfl _

theorem attemptEffect_handleRevertRequested (attempt : RevertAttempt)
    (request : ThreadCheckpointRevertRequestedPayload) (world : RevertWorld) :
    AttemptEffect attempt request world (handleRevertRequested attempt request world) := by
  have hself : SameSetting world world := ⟨rfl, fun _ => rfl⟩
  unfold handleRevertRequested
  split
  · exact attemptEffect_appendFailure hself rfl _
  · rename_i hlookup
    cases hplan : planRevert request world with
    | error detail => exact attemptEffect_appendFailure hself rfl _
    | ok plan => exact attemptEffect_executeRevert hlookup hplan

omit [Collation] [TextRuntime] [Base64UrlRuntime] in
theorem conversations_rollback_congr {before : RevertWorld}
    (h : world.conversations = before.conversations) (threadId : ThreadId) (numTurns : Nat) :
    (world.rollbackConversation threadId numTurns).conversations =
      (before.rollbackConversation threadId numTurns).conversations := by
  simp only [RevertWorld.rollbackConversation, h]

theorem revertProgress_step (hprogress : RevertProgress request before world)
    (hwhole : AllOrNothing request world attempt) :
    RevertProgress request before (handleRevertRequested attempt request world) := by
  obtain ⟨hsetting, hreverted⟩ := attemptEffect_handleRevertRequested attempt request world
  have hsessions := hsetting.sessions.trans hprogress.sessions
  have hgit := fun cwd => (hsetting.git cwd).trans (hprogress.git cwd)
  rcases hreverted with ⟨plan, hcompleted, hcount⟩ | hcount
  · have hhappened := hcompleted (allOrNothing_iff.mp hwhole)
    refine ⟨hsessions, hgit, Or.inr ⟨?_, ?_⟩, ?_, ?_⟩
    · rcases hprogress.rolledBack with h | h
      · omega
      · omega
    · rcases hprogress.rolledBack with ⟨hfirst, hconversations⟩ | ⟨hagain, first, hfirst, hrolled⟩
      · -- The first revert to go through starts from the checkpoints of the first world.
        have hplan := planRevert_congr hprogress.sessions hprogress.git
          (hprogress.checkpoints hfirst)
        refine ⟨plan, hplan ▸ hhappened.planned, ?_⟩
        rw [hhappened.conversations]
        exact conversations_rollback_congr hconversations _ _
      · -- A later one finds no turn past the target.
        obtain ⟨checkpoints, hcheckpoints, hcurrent, -⟩ :=
          checkpoints_of_planRevert hhappened.planned
        have hnone := hprogress.noneLater hagain checkpoints hcheckpoints
        have hturns : ¬ 0 < plan.currentTurnCount - request.turnCount := by omega
        refine ⟨first, hfirst, ?_⟩
        rw [hhappened.conversations, ← RevertWorld.rollbackConversation_of_pos, if_neg hturns]
        exact hrolled
    · intro hsame
      rcases hprogress.rolledBack with h | h
      · omega
      · omega
    · intro _ checkpoints hcheckpoints
      exact noneLater_of_reverted hhappened.reverted hcheckpoints
  · have huntouched : RevertUntouched request.threadId world
        (handleRevertRequested attempt request world) := by
      refine hwhole.resolve_left ?_
      intro h
      obtain ⟨plan, hhappened⟩ := h
      have hmore : revertedCount (handleRevertRequested attempt request world) =
          revertedCount (world.completeRevert attempt request) := by
        rw [revertedCount, hhappened.reverted]
        rfl
      rw [revertedCount_completeRevert] at hmore
      omega
    refine ⟨hsessions, hgit, ?_, ?_, ?_⟩
    · unfold RolledBackOnce
      rw [hcount, huntouched.conversations]
      exact hprogress.rolledBack
    · rw [hcount, huntouched.checkpoints]
      exact hprogress.checkpoints
    · rw [hcount, huntouched.checkpoints]
      exact hprogress.noneLater

end Steps

end Handler

/-- A thread of two turns, each with its checkpoint, in a git repository. -/
def twoTurnTables : ProjectionTables :=
  { ProjectionTables.empty with
    threads := KeyedTable.put (createdThreadRow {
      threadId := "t1"
      projectId := "p1"
      title := "Thread"
      modelSelection := ⟨"codex", "model", none⟩
      runtimeMode := .fullAccess
      interactionMode := .default
      branch := none
      worktreePath := none
      customMetadata := none
      createdAt := "2026-01-01T00:00:00.000Z"
      updatedAt := "2026-01-01T00:00:00.000Z" }) (.empty _)
    turns := [("u1", 1, "ref1"), ("u2", 2, "ref2")].foldl (fun turns turn =>
      completeTurnDiff turns {
        threadId := "t1"
        turnId := turn.1
        checkpointTurnCount := turn.2.1
        checkpointRef := turn.2.2
        status := .ready
        files := []
        assistantMessageId := none
        completedAt := "2026-01-01T00:00:00.000Z" }) (.empty _) }

def twoTurnWorld : RevertWorld where
  database := { log := .empty, pipeline := { PipelineState.empty with tables := twoTurnTables } }
  sessions := [⟨"t1", some "/workspace"⟩]
  repositories := fun _ =>
    { isGitRepository := true
      refs := fun ref =>
        if ref = "ref1" then some "oid1" else if ref = "ref2" then some "oid2" else none
      head := none
      worktree := none }
  conversations := fun _ => ["u1", "u2"]

def failingDispatch : RevertAttempt where
  fault := some .dispatch
  undeletable := []
  message := "dispatch failed"
  reported := true
  commandId := "server:checkpoint-revert-complete:1"
  eventId := "event1"
  activityId := "activity1"
  now := "2026-01-01T00:01:00.000Z"

end GT3Code.Orchestration
