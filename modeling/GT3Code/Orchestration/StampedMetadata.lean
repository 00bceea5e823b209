import GT3Code.Gc.CanonicalMetadata
import GT3Code.Orchestration.CommandIdempotency
import GT3Code.Orchestration.LiveProjection

/-! # Stamped metadata in runs

The decider stamps a thread's metadata on its own copy; the event is then merged into
the thread's row. Live, copy and row change alike. A restart reads the copy without
metadata, and from then on it holds less than the row.
-/

namespace GT3Code.Orchestration

open GT3Code.Base GT3Code.Contracts GT3Code.Persistence GT3Code.Gc
open GT3Code.Contracts.CustomMetadata (Within)

/-! ## Metadata of one thread -/

/-- What an event makes of a thread's metadata, in the read model and in its row. -/
def metadataEffect (threadId : ThreadId) (metadata : Option CustomMetadata) :
    EventPayload → Option CustomMetadata
  | .threadCreated payload =>
    if payload.threadId = threadId then
      some (payload.customMetadata.getD (KeyedTable.empty _))
    else metadata
  | .threadMetaUpdated payload =>
    if payload.threadId = threadId then
      metadata.map (fun existing =>
        (payload.customMetadata.map (CustomMetadata.merge existing)).getD existing)
    else metadata
  | _ => metadata

def copyMetadata (threads : List OrchestrationThread) (threadId : ThreadId) :
    Option CustomMetadata :=
  (threads.find? (fun thread => thread.id = threadId)).map OrchestrationThread.customMetadata

def rowMetadata (threads : ThreadTable) (threadId : ThreadId) : Option CustomMetadata :=
  (KeyedTable.lookup threadId threads).map ProjectionThread.customMetadata

variable {threads : List OrchestrationThread} {threadId other : ThreadId} {action : EngineAction}

theorem copyMetadata_updateThread {patch : OrchestrationThread → OrchestrationThread}
    (hid : ∀ thread, (patch thread).id = thread.id)
    (hmetadata : ∀ thread, (patch thread).customMetadata = thread.customMetadata) :
    copyMetadata (updateThread threads threadId patch) other = copyMetadata threads other := by
  have hpred : ((fun thread : OrchestrationThread => decide (thread.id = other)) ∘
      fun thread => if thread.id = threadId then patch thread else thread) =
      fun thread => decide (thread.id = other) := by
    funext thread
    by_cases hthread : thread.id = threadId
    · simp [hthread, hid]
    · simp [hthread]
  rw [copyMetadata, updateThread, List.find?_map, hpred, Option.map_map]
  refine Option.map_congr (fun thread _ => ?_)
  by_cases hthread : thread.id = threadId
  · simp [hthread, hmetadata]
  · simp [hthread]

theorem copyMetadata_updateFound
    {patch : OrchestrationThread → OrchestrationThread → OrchestrationThread}
    (hid : ∀ found thread, (patch found thread).id = thread.id)
    (hmetadata : ∀ found thread, (patch found thread).customMetadata = thread.customMetadata) :
    copyMetadata (updateFound threads threadId patch) other = copyMetadata threads other := by
  unfold updateFound
  cases threads.find? (fun entry => entry.id = threadId) with
  | none => rfl
  | some found => exact copyMetadata_updateThread (hid found) (hmetadata found)

theorem copyMetadata_upsertEntry (thread : OrchestrationThread) (threads : List OrchestrationThread)
    (threadId : ThreadId) :
    copyMetadata (upsertEntry OrchestrationThread.id thread threads) threadId =
      if thread.id = threadId then some thread.customMetadata
      else copyMetadata threads threadId := by
  unfold upsertEntry
  by_cases hfound : (threads.find? (fun other => other.id = thread.id)).isSome
  · rw [if_pos hfound, copyMetadata, List.find?_map]
    have hpred : ((fun other : OrchestrationThread => decide (other.id = threadId)) ∘
        fun other => if other.id = thread.id then thread else other) =
        fun other => decide (other.id = threadId) := by
      funext other
      by_cases hother : other.id = thread.id
      · simp [hother]
      · simp [hother]
    rw [hpred, Option.map_map]
    by_cases hid : thread.id = threadId
    · subst hid
      obtain ⟨found, hsome⟩ := Option.isSome_iff_exists.mp hfound
      have hsame : found.id = thread.id := by simpa using List.find?_some hsome
      rw [hsome, if_pos rfl]
      simp [hsame]
    · rw [if_neg hid, copyMetadata]
      refine Option.map_congr (fun found hmem => ?_)
      have hsame : found.id = threadId := by simpa using List.find?_some hmem
      have hother : found.id ≠ thread.id := fun h => hid (h.symm.trans hsame)
      simp [hother]
  · rw [if_neg hfound, copyMetadata, List.find?_append]
    by_cases hid : thread.id = threadId
    · subst hid
      have hnone : threads.find? (fun other => other.id = thread.id) = none := by
        simpa using hfound
      rw [if_pos rfl, hnone]
      simp
    · rw [if_neg hid, copyMetadata, List.find?_cons_of_neg (by simpa using hid)]
      simp

theorem copyMetadata_patchThreadMeta (payload : ThreadMetaUpdatedPayload)
    (threads : List OrchestrationThread) (threadId : ThreadId) :
    copyMetadata (updateThread threads payload.threadId
        (patchThreadMeta payload (threads.find? (fun entry => entry.id = payload.threadId))))
        threadId =
      metadataEffect threadId (copyMetadata threads threadId) (.threadMetaUpdated payload) := by
  have hpred : ((fun thread : OrchestrationThread => decide (thread.id = threadId)) ∘
      fun thread => if thread.id = payload.threadId then
        patchThreadMeta payload (threads.find? (fun entry => entry.id = payload.threadId)) thread
      else thread) = fun thread => decide (thread.id = threadId) := by
    funext thread
    by_cases hthread : thread.id = payload.threadId
    · simp [hthread, patchThreadMeta]
    · simp [hthread]
  rw [metadataEffect, copyMetadata, updateThread, List.find?_map, hpred, Option.map_map]
  by_cases hid : payload.threadId = threadId
  · subst hid
    rw [if_pos rfl, copyMetadata, Option.map_map]
    refine Option.map_congr (fun thread hthread => ?_)
    have hsame : thread.id = payload.threadId := by simpa using List.find?_some hthread
    cases hgiven : payload.customMetadata <;> simp [hsame, patchThreadMeta, hthread, hgiven]
  · rw [if_neg hid, copyMetadata]
    refine Option.map_congr (fun thread hthread => ?_)
    have hsame : thread.id = threadId := by simpa using List.find?_some hthread
    have hother : thread.id ≠ payload.threadId := fun h => hid (h.symm.trans hsame)
    simp [hother]

variable [Collation]

theorem copyMetadata_projectThreads (threads : List OrchestrationThread)
    (event : OrchestrationEvent) (threadId : ThreadId) :
    copyMetadata (projectThreads threads event) threadId =
      metadataEffect threadId (copyMetadata threads threadId) event.payload := by
  unfold projectThreads
  cases event.payload with
  | threadCreated payload => exact copyMetadata_upsertEntry _ threads threadId
  | threadMetaUpdated payload => exact copyMetadata_patchThreadMeta payload threads threadId
  | threadDeleted | threadArchived | threadUnarchived | threadRuntimeModeSet
  | threadInteractionModeSet => exact copyMetadata_updateThread (fun _ => rfl) (fun _ => rfl)
  | threadMessageSent | threadSessionSet | threadProposedPlanUpserted | threadActivityAppended =>
    exact copyMetadata_updateFound (fun _ _ => rfl) (fun _ _ => rfl)
  | threadReverted payload =>
    exact copyMetadata_updateFound (fun _ _ => by simp only [revertThread])
      (fun _ _ => by simp only [revertThread])
  | threadTurnDiffCompleted payload =>
    refine copyMetadata_updateFound (fun found thread => ?_) (fun found thread => ?_) <;>
      (split <;> rfl)
  | _ => rfl

variable [TextRuntime]

theorem metadata_step (tables : ProjectionTables) (event : OrchestrationEvent)
    (threadId : ThreadId) (row : Option ProjectionThread) :
    ((threadRowEffect event).step tables threadId row).map ProjectionThread.customMetadata =
      metadataEffect threadId (row.map ProjectionThread.customMetadata) event.payload := by
  have hkept : ∀ change : ThreadRowChange,
      (∀ row, (change.columns row).customMetadata = row.customMetadata) →
      ((ThreadRowEffect.update change).step tables threadId row).map
        ProjectionThread.customMetadata = row.map ProjectionThread.customMetadata := by
    intro change hcolumns
    rw [ThreadRowEffect.step]
    split
    · rw [Option.map_map]
      refine Option.map_congr (fun before _ => ?_)
      rw [Function.comp_apply, ThreadRowChange.apply, ← hcolumns before]
      dsimp only
      split <;> rfl
    · rfl
  unfold threadRowEffect
  cases event.payload with
  | threadCreated payload =>
    simp only [ThreadRowEffect.step, metadataEffect]
    split <;> rfl
  | threadMetaUpdated payload =>
    simp only [ThreadRowEffect.step, metadataEffect]
    split
    · rw [Option.map_map, Option.map_map]
      rfl
    · rfl
  | projectCreated | projectMetaUpdated | projectDeleted | threadTurnStartRequested
  | threadTurnInterruptRequested | threadCheckpointRevertRequested | threadSessionStopRequested =>
    rfl
  | _ => exact hkept _ (fun _ => rfl)

theorem rowMetadata_applyThreadsProjection (tables : ProjectionTables) (event : OrchestrationEvent)
    (threadId : ThreadId) :
    rowMetadata (applyThreadsProjection tables event) threadId =
      metadataEffect threadId (rowMetadata tables.threads threadId) event.payload := by
  rw [rowMetadata, lookup_applyThreadsProjection]
  exact metadata_step tables event threadId _

theorem rowMetadata_projectTables (tables : ProjectionTables) (event : OrchestrationEvent)
    (threadId : ThreadId) :
    rowMetadata (projectTables tables event).threads threadId =
      metadataEffect threadId (rowMetadata tables.threads threadId) event.payload := by
  rw [projectTables_eq]
  exact rowMetadata_applyThreadsProjection _ event threadId

omit [Collation] [TextRuntime] in
def metadataEffects (threadId : ThreadId) (metadata : Option CustomMetadata)
    (events : List PlannedOrchestrationEvent) : Option CustomMetadata :=
  events.foldl (fun metadata event => metadataEffect threadId metadata event.payload) metadata

theorem rowMetadata_persistAll (database : Database) (events : List PlannedOrchestrationEvent)
    (threadId : ThreadId) :
    rowMetadata (database.persistAll events).pipeline.tables.threads threadId =
      metadataEffects threadId (rowMetadata database.pipeline.tables.threads threadId) events := by
  induction events generalizing database with
  | nil => rfl
  | cons event events ih =>
    have hpersist : rowMetadata (database.persist event).pipeline.tables.threads threadId =
        metadataEffect threadId (rowMetadata database.pipeline.tables.threads threadId)
          event.payload := by
      rw [Database.persist, tables_projectEvent, rowMetadata_projectTables]
      rfl
    rw [metadataEffects, List.foldl_cons, ← hpersist]
    exact ih (database.persist event)

omit [TextRuntime] in
theorem copyMetadata_projectEvents (log : EventLog) (readModel : OrchestrationReadModel)
    (events : List PlannedOrchestrationEvent) (threadId : ThreadId) :
    copyMetadata (projectEventsOntoReadModel readModel (log.nextRows events)).threads threadId =
      metadataEffects threadId (copyMetadata readModel.threads threadId) events := by
  induction events generalizing log readModel with
  | nil => rfl
  | cons event events ih =>
    have hproject : copyMetadata (projectEvent readModel (log.nextRow event)).threads threadId =
        metadataEffect threadId (copyMetadata readModel.threads threadId) event.payload := by
      rw [projectEvent_threads, copyMetadata_projectThreads]
      rfl
    rw [metadataEffects, List.foldl_cons, ← hproject]
    exact ih (log.append event) (projectEvent readModel (log.nextRow event))

omit [Collation] [TextRuntime] in
theorem metadataEffect_of_ne {payload : EventPayload}
    (hcreated : ∀ created, payload ≠ .threadCreated created)
    (hupdated : ∀ updated, payload ≠ .threadMetaUpdated updated) (threadId : ThreadId)
    (metadata : Option CustomMetadata) : metadataEffect threadId metadata payload = metadata := by
  cases payload with
  | threadCreated created => exact absurd rfl (hcreated created)
  | threadMetaUpdated updated => exact absurd rfl (hupdated updated)
  | _ => rfl

omit [Collation] [TextRuntime] in
theorem metadataEffects_of_ne {events : List PlannedOrchestrationEvent}
    (h : ∀ event ∈ events, (∀ created, event.payload ≠ .threadCreated created) ∧
      ∀ updated, event.payload ≠ .threadMetaUpdated updated) (threadId : ThreadId)
    (metadata : Option CustomMetadata) : metadataEffects threadId metadata events = metadata := by
  induction events with
  | nil => rfl
  | cons event events ih =>
    obtain ⟨hcreated, hupdated⟩ := h event List.mem_cons_self
    rw [metadataEffects, List.foldl_cons, metadataEffect_of_ne hcreated hupdated]
    exact ih (fun later hlater => h later (List.mem_cons_of_mem _ hlater))

inductive PlansMetadata (readModel : OrchestrationReadModel) (body : CommandBody)
    (events : List PlannedOrchestrationEvent) : Prop where
  | create (c : ThreadCreateCommand) (hbody : body = .threadCreate c)
      (heffects : ∀ threadId metadata, metadataEffects threadId metadata events =
        if c.threadId = threadId then
          some (afterStamp (KeyedTable.empty _) (KeyedTable.empty _) c.customMetadata)
        else metadata)
  | update (c : ThreadMetaUpdateCommand) (copy : CustomMetadata)
      (hbody : body = .threadMetaUpdate c)
      (hcopy : copyMetadata readModel.threads c.threadId = some copy)
      (heffects : ∀ threadId metadata, metadataEffects threadId metadata events =
        if c.threadId = threadId then
          metadata.map (fun existing => afterStamp copy existing c.customMetadata)
        else metadata)
  | keep (hbody : ∀ c, body ≠ .threadMetaUpdate c)
      (heffects : ∀ threadId metadata, metadataEffects threadId metadata events = metadata)

omit [Collation] in
theorem getD_stamp_eq_afterStamp (incoming : Option CustomMetadata) :
    (buildStampedGcMetadataUpdate none incoming).getD (KeyedTable.empty _) =
      afterStamp (KeyedTable.empty _) (KeyedTable.empty _) incoming := by
  have hmerge : ∀ update : CustomMetadata,
      CustomMetadata.merge (KeyedTable.empty _) update = update := by
    intro update
    exact KeyedTable.ext (KeyedTable.putAll_append update.unique)
  rw [afterStamp, funext hmerge, Option.map_id']
  rfl

theorem plansMetadata_of_decide {env : DecideEnv} {readModel : OrchestrationReadModel}
    {command : OrchestrationCommand} {events : List PlannedOrchestrationEvent}
    (h : decideOrchestrationCommand env readModel command = .ok events) :
    PlansMetadata readModel command.body events := by
  have hkeep : (∀ c, command.body ≠ .threadMetaUpdate c) →
      (∀ event ∈ events, (∀ p, event.payload ≠ .threadCreated p) ∧
        ∀ p, event.payload ≠ .threadMetaUpdated p) →
      PlansMetadata readModel command.body events := by
    intro hbody hother
    exact .keep hbody (metadataEffects_of_ne hother)
  cases hbody : command.body with
  | threadCreate c =>
    simp only [decideOrchestrationCommand, decideWith, hbody, bind_eq_ok, Except.ok.injEq] at h
    obtain ⟨-, -, -, -, rfl⟩ := h
    refine .create c rfl (fun threadId metadata => ?_)
    rw [← getD_stamp_eq_afterStamp]
    rfl
  | threadMetaUpdate c =>
    simp only [decideOrchestrationCommand, decideWith, hbody, bind_eq_ok, Except.ok.injEq] at h
    obtain ⟨thread, hthread, rfl⟩ := h
    refine .update c thread.customMetadata rfl ?_ (fun threadId metadata => rfl)
    rw [copyMetadata, ← findThreadById, requireThread_eq_ok.mp hthread]
    rfl
  | projectDelete c =>
    rw [← hbody]
    refine hkeep (by simp [hbody]) (fun event hevent => ?_)
    have hplanned := plannedBy_decide h event hevent
    rw [hbody] at hplanned
    rcases hplanned with ⟨p, hp, -⟩ | ⟨p, hp⟩ <;> simp [hp]
  | projectCreate c =>
    rw [← hbody]
    refine hkeep (by simp [hbody]) (fun event hevent => ?_)
    obtain ⟨p, hp, -⟩ := hbody ▸ plannedBy_decide h event hevent
    simp [hp]
  | threadTurnStart c =>
    rw [← hbody]
    refine hkeep (by simp [hbody]) ?_
    simp only [decideOrchestrationCommand, decideWith, hbody, bind_eq_ok, Except.ok.injEq] at h
    obtain ⟨-, -, -, -, rfl⟩ := h
    simp
  | _ c =>
    rw [← hbody]
    refine hkeep (by simp [hbody]) (fun event hevent => ?_)
    simp only [decideOrchestrationCommand, decideWith, hbody, bind_eq_ok, Except.ok.injEq] at h
    obtain ⟨-, -, rfl⟩ := h
    simp only [planProject, planThread, List.mem_singleton] at hevent
    subst hevent
    simp

/-! ## Runs -/

/-- Accepted commands and restarts. A command that is not accepted takes no step. -/
def acceptedStep (state : EngineState) : EngineAction → Option EngineState
  | .dispatch envelope =>
    match attemptCommand state envelope with
    | .committed committed => some (publishCommitted state committed)
    | _ => none
  | .restart => some (startEngine state.database)

def MetadataCanonical (state : EngineState) : Prop :=
  ∀ threadId metadata,
    rowMetadata state.database.pipeline.tables.threads threadId = some metadata →
      FolderCanonical metadata

/-- An update is stamped on a copy that fits the persisted metadata. -/
def StampsPersisted (state : EngineState) : EngineAction → Prop
  | .dispatch envelope =>
    ∀ c copy metadata, envelope.command.body = .threadMetaUpdate c →
      copyMetadata state.commandReadModel.threads c.threadId = some copy →
      rowMetadata state.database.pipeline.tables.threads c.threadId = some metadata →
        StampFits copy metadata (c.customMetadata.getD (KeyedTable.empty _))
  | .restart => True

/-- The projections are up to date, and the decider's copies say nothing the rows do not. -/
structure CopiesWithin (state : EngineState) : Prop where
  caughtUp : CaughtUp state.database.toDatabase
  noEventSkipped : NoEventSkipped state.database.toDatabase
  within : ∀ threadId copy metadata,
    copyMetadata state.commandReadModel.threads threadId = some copy →
      rowMetadata state.database.pipeline.tables.threads threadId = some metadata →
        Within copy metadata

variable {state next : EngineState}

theorem bootstrap_of_caughtUp {database : Database} (h : CaughtUp database) :
    ProjectionPipeline.bootstrap database.log database.pipeline = database.pipeline := by
  have hnothing : ∀ projector,
      bootstrapProjector database.log database.pipeline projector = database.pipeline := by
    intro projector
    rw [bootstrapProjector, EventLog.readFromSequence_eq_take, h projector,
      EventLog.after_lastSequence]
    rfl
  rw [ProjectionPipeline.bootstrap]
  exact List.foldl_fixed' hnothing projectors

omit [Collation] [TextRuntime] in
theorem copyMetadata_getCommandReadModel {pipeline : PipelineState} {threadId : ThreadId}
    {copy : CustomMetadata}
    (h : copyMetadata (getCommandReadModel pipeline).threads threadId = some copy) :
    copy = KeyedTable.empty _ := by
  obtain ⟨thread, hthread, rfl⟩ := Option.map_eq_some_iff.mp h
  obtain ⟨row, -, rfl⟩ := List.mem_map.mp (List.mem_of_find?_eq_some hthread)
  rfl

theorem startEngine_of_caughtUp (h : CaughtUp state.database.toDatabase) :
    startEngine state.database =
      ⟨state.database, getCommandReadModel state.database.pipeline, []⟩ := by
  rw [startEngine, bootstrap_of_caughtUp h]

theorem CopiesWithin.restart (h : CopiesWithin state) :
    CopiesWithin (startEngine state.database) := by
  rw [startEngine_of_caughtUp h.caughtUp]
  refine ⟨h.caughtUp, h.noEventSkipped, fun threadId copy metadata hcopy _ => ?_⟩
  rw [copyMetadata_getCommandReadModel hcopy]
  exact CustomMetadata.within_empty metadata

variable {envelope : CommandEnvelope}

theorem plansMetadata_of_committed {committed : CommittedCommand}
    (h : attemptCommand state envelope = .committed committed) :
    ∃ events, PlansMetadata state.commandReadModel envelope.command.body events ∧
      committed.database.toDatabase = state.database.persistAll events ∧
      (∀ threadId, rowMetadata committed.database.pipeline.tables.threads threadId =
        metadataEffects threadId
          (rowMetadata state.database.pipeline.tables.threads threadId) events) ∧
      ∀ threadId, copyMetadata committed.nextCommandReadModel.threads threadId =
        metadataEffects threadId (copyMetadata state.commandReadModel.threads threadId) events := by
  have hspec := exitSpec_attemptCommand state envelope
  rw [h] at hspec
  obtain ⟨-, events, hdecide, hcommits⟩ := hspec
  refine ⟨events, plansMetadata_of_decide hdecide, hcommits.database, fun threadId => ?_,
    fun threadId => ?_⟩
  · rw [hcommits.database]
    exact rowMetadata_persistAll state.database.toDatabase events threadId
  · rw [hcommits.nextCommandReadModel]
    exact copyMetadata_projectEvents state.database.log state.commandReadModel events threadId

theorem CopiesWithin.committed {committed : CommittedCommand} (h : CopiesWithin state)
    (hattempt : attemptCommand state envelope = .committed committed) :
    CopiesWithin (publishCommitted state committed) := by
  obtain ⟨events, hplan, hdatabase, hrows, hcopies⟩ := plansMetadata_of_committed hattempt
  have hcursors := caughtUp_persistAll events ⟨h.caughtUp, h.noEventSkipped⟩
  refine ⟨hdatabase ▸ hcursors.1, hdatabase ▸ hcursors.2, ?_⟩
  intro threadId copy metadata hcopy hrow
  rw [publishCommitted] at hcopy hrow
  rw [hcopies] at hcopy
  rw [hrows] at hrow
  cases hplan with
  | create c hbody heffects =>
    rw [heffects] at hcopy hrow
    by_cases hid : c.threadId = threadId
    · rw [if_pos hid] at hcopy hrow
      cases hcopy.symm.trans hrow
      exact fun _ _ hvalue => hvalue
    · rw [if_neg hid] at hcopy hrow
      exact h.within threadId copy metadata hcopy hrow
  | update c own hbody hown heffects =>
    rw [heffects] at hcopy hrow
    by_cases hid : c.threadId = threadId
    · subst hid
      rw [if_pos rfl, hown] at hcopy
      rw [if_pos rfl] at hrow
      cases hcopy
      obtain ⟨before, hbefore, rfl⟩ := Option.map_eq_some_iff.mp hrow
      exact within_afterStamp c.customMetadata (h.within _ _ _ hown hbefore)
    · rw [if_neg hid] at hcopy hrow
      exact h.within threadId copy metadata hcopy hrow
  | keep hbody heffects =>
    rw [heffects] at hcopy hrow
    exact h.within threadId copy metadata hcopy hrow

theorem metadataCanonical_committed_iff {committed : CommittedCommand} (h : CopiesWithin state)
    (hcanonical : MetadataCanonical state)
    (hattempt : attemptCommand state envelope = .committed committed) :
    MetadataCanonical (publishCommitted state committed) ↔
      StampsPersisted state (.dispatch envelope) := by
  obtain ⟨events, hplan, -, hrows, -⟩ := plansMetadata_of_committed hattempt
  simp only [MetadataCanonical, publishCommitted, hrows]
  cases hplan with
  | create c hbody heffects =>
    refine iff_of_true ?_ (fun d copy metadata hd => by simp [hbody] at hd)
    intro threadId metadata hrow
    rw [heffects] at hrow
    by_cases hid : c.threadId = threadId
    · rw [if_pos hid] at hrow
      cases hrow
      refine folderCanonical_iff.mpr ((carriesFolder_afterStamp_iff c.customMetadata
        (CustomMetadata.within_empty _)).mpr ?_)
      exact fun canonical hderived => Or.inl hderived
    · rw [if_neg hid] at hrow
      exact hcanonical threadId metadata hrow
  | update c copy hbody hcopy heffects =>
    constructor
    · intro hnext d own metadata hd hown hrow
      cases hbody.symm.trans hd
      cases hcopy.symm.trans hown
      refine (carriesFolder_afterStamp_iff c.customMetadata
        (h.within _ _ _ hcopy hrow)).mp (hnext c.threadId _ ?_).carries
      rw [heffects, if_pos rfl, hrow]
      rfl
    · intro hfits threadId metadata hrow
      rw [heffects] at hrow
      by_cases hid : c.threadId = threadId
      · subst hid
        rw [if_pos rfl] at hrow
        obtain ⟨before, hbefore, rfl⟩ := Option.map_eq_some_iff.mp hrow
        exact folderCanonical_iff.mpr ((carriesFolder_afterStamp_iff c.customMetadata
          (h.within _ _ _ hcopy hbefore)).mpr (hfits c copy before hbody hcopy hbefore))
      · rw [if_neg hid] at hrow
        exact hcanonical threadId metadata hrow
  | keep hbody heffects =>
    refine iff_of_true ?_ (fun d copy metadata hd => absurd hd (hbody d))
    intro threadId metadata hrow
    rw [heffects] at hrow
    exact hcanonical threadId metadata hrow

theorem copiesWithin_acceptedStep (h : CopiesWithin state)
    (hnext : acceptedStep state action = some next) : CopiesWithin next := by
  cases action with
  | dispatch envelope =>
    rw [acceptedStep] at hnext
    cases hattempt : attemptCommand state envelope with
    | committed committed =>
      rw [hattempt] at hnext
      cases hnext
      exact h.committed hattempt
    | _ => simp [hattempt] at hnext
  | restart =>
    cases hnext
    exact h.restart

theorem metadataCanonical_acceptedStep (h : CopiesWithin state)
    (hcanonical : MetadataCanonical state) (hnext : acceptedStep state action = some next) :
    MetadataCanonical next ↔ StampsPersisted state action := by
  cases action with
  | dispatch envelope =>
    rw [acceptedStep] at hnext
    cases hattempt : attemptCommand state envelope with
    | committed committed =>
      rw [hattempt] at hnext
      cases hnext
      exact metadataCanonical_committed_iff h hcanonical hattempt
    | _ => simp [hattempt] at hnext
  | restart =>
    cases hnext
    rw [startEngine_of_caughtUp h.caughtUp]
    exact iff_of_true hcanonical trivial

theorem copiesWithin_start : CopiesWithin (startEngine .empty) := by
  rw [startEngine_empty]
  refine ⟨fun _ => rfl, noEventSkipped_empty .empty, ?_⟩
  intro threadId copy metadata hcopy hrow
  cases hrow

/-- In every run of accepted commands and restarts, the persisted metadata stays canonical
exactly when every update's stamp fits the metadata it is merged into. -/
theorem metadataCanonical_throughout_iff (actions : List EngineAction) :
    Throughout acceptedStep MetadataCanonical (startEngine .empty) actions ↔
      StepsMeet acceptedStep StampsPersisted (startEngine .empty) actions :=
  throughout_iff_stepsMeet (fun _ _ _ h hnext => copiesWithin_acceptedStep h hnext)
    (fun _ _ _ h hcanonical hnext => metadataCanonical_acceptedStep h hcanonical hnext)
    copiesWithin_start (by
      rw [startEngine_empty]
      intro threadId metadata hrow
      cases hrow) actions

def rigAfterRestart : List EngineAction :=
  let now := "2026-01-01T00:00:00.000Z"
  let submit := fun commandId body => EngineAction.dispatch
    ⟨⟨fun _ => now, fun _ => commandId⟩, ⟨commandId, body⟩, none, false, now⟩
  let metadata := fun entries => some (KeyedTable.putAll entries (KeyedTable.empty _))
  [submit "c1" (.projectCreate ⟨"p1", "Project", "/srv/app", none, now⟩),
    submit "c2" (.threadCreate ⟨"t1", "p1", "Thread", ⟨"codex", "model", none⟩, .fullAccess,
      .default, none, none, metadata [("gc.agent", "coder"), ("gc.city", "metro")], now⟩),
    .restart,
    submit "c3" (.threadMetaUpdate ⟨"t1", none, none, none, none, metadata [("gc.rig", "api")]⟩)]

omit [Collation] [TextRuntime] in
/-- The rig comes to a row that has a city, from a copy that has none. -/
theorem not_metadataCanonical_throughout :
    letI := codePointCollation
    letI := asciiTextRuntime
    ¬ ∀ actions, Throughout acceptedStep MetadataCanonical (startEngine .empty) actions := by
  let _ := codePointCollation
  let _ := asciiTextRuntime
  intro h
  have hreached : ((exec acceptedStep (startEngine .empty) rigAfterRestart).bind
      (fun state => rowMetadata state.database.pipeline.tables.threads "t1")).map
        (fun metadata => ((deriveCanonicalGcFolderMetadata metadata).bind (fun entries => entries[1]?),
          CustomMetadata.get "gc.groupId" metadata)) =
      some (some ("gc.groupId", "metro/api"), some "metro") := by decide +kernel
  obtain ⟨metadata, hmetadata, hread⟩ := Option.map_eq_some_iff.mp hreached
  obtain ⟨state, hexec, hrow⟩ := Option.bind_eq_some_iff.mp hmetadata
  rw [Prod.mk.injEq] at hread
  obtain ⟨hderived, hheld⟩ := hread
  have hcarries := ((h rigAfterRestart).final hexec "t1" metadata hrow).carries
  obtain ⟨canonical, hcanonical, hsecond⟩ := Option.bind_eq_some_iff.mp hderived
  have hholds := hcarries canonical hcanonical _ (List.mem_of_getElem? hsecond)
  rw [hheld] at hholds
  exact absurd hholds (by decide)

end GT3Code.Orchestration
