import GT3Code.Base.Feed
import GT3Code.Base.Runs
import GT3Code.Orchestration.Engine

/-! # Thread subscriptions

`subscribeThread` reads the thread, reads the snapshot sequence, emits both and only
then pulls the live stream, which subscribes to what is published from there on. The
worker commits and publishes meanwhile. The client applies whatever it is sent.
-/

namespace GT3Code.Server

open GT3Code.Base GT3Code.Contracts GT3Code.Persistence GT3Code.Orchestration

def isThreadDetailEvent (event : OrchestrationEvent) : Bool :=
  match event.payload with
  | .threadMessageSent _ => true
  | .threadProposedPlanUpserted _ => true
  | .threadActivityAppended _ => true
  | .threadTurnDiffCompleted _ => true
  | .threadReverted _ => true
  | .threadSessionSet _ => true
  | _ => false

def inThreadStream (threadId : ThreadId) (event : OrchestrationEvent) : Bool :=
  decide (event.aggregateKind = .thread) && decide (event.aggregateId = threadId) &&
    isThreadDetailEvent event

/-- The thread-detail events among `events`. -/
def detailEvents (threadId : ThreadId) (events : List OrchestrationEvent) :
    List OrchestrationEvent :=
  events.filter (inThreadStream threadId)

@[simp] theorem detailEvents_append (threadId : ThreadId) (left right : List OrchestrationEvent) :
    detailEvents threadId (left ++ right) =
      detailEvents threadId left ++ detailEvents threadId right :=
  List.filter_append ..

structure ThreadDetailSnapshot where
  snapshotSequence : Nat
  thread : OrchestrationThread

/-- How far the client's call has come. `contained` are the events committed when the
thread was read, whose rows the read returns; `applied` are the streamed events the
client has applied on top of the snapshot. -/
inductive ThreadClient where
  | requested
  | threadRead (contained : List OrchestrationEvent) (thread : Option OrchestrationThread)
  | sequenceRead (contained : List OrchestrationEvent) (thread : Option OrchestrationThread)
      (snapshotSequence : Nat)
  | notFound
  | snapshotApplied (contained : List OrchestrationEvent) (snapshot : ThreadDetailSnapshot)
  | live (contained : List OrchestrationEvent) (snapshot : ThreadDetailSnapshot)
      (applied : List OrchestrationEvent)

structure ThreadSession where
  database : Database
  feed : Feed OrchestrationEvent
  client : ThreadClient

inductive ThreadAction where
  | commit (events : List PlannedOrchestrationEvent)
  | publish
  | readThread
  | readSequence
  | emitSnapshot
  | subscribe
  | receive

/-- A session before the client's call: all earlier events have been published. -/
def ThreadSession.start (database : Database) : ThreadSession where
  database := database
  feed := .settled database.log.events
  client := .requested

/-- The client applies a streamed event; the filter of the stream drops the others. -/
def applyStreamed (threadId : ThreadId) (event : OrchestrationEvent) : ThreadClient → ThreadClient
  | .live contained snapshot applied =>
    if inThreadStream threadId event then .live contained snapshot (applied ++ [event])
    else .live contained snapshot applied
  | client => client

variable [Collation] [TextRuntime]

def ThreadSession.step (threadId : ThreadId) (session : ThreadSession) :
    ThreadAction → Option ThreadSession
  | .commit events =>
    (session.feed.commit (session.database.log.nextRows events)).map (fun feed =>
      { session with database := session.database.persistAll events, feed := feed })
  | .publish => session.feed.publish.map (fun feed => { session with feed := feed })
  | .readThread =>
    match session.client with
    | .requested =>
      some { session with
        client := .threadRead session.database.log.events
          (getThreadDetailById session.database.pipeline.tables threadId) }
    | _ => none
  | .readSequence =>
    match session.client with
    | .threadRead contained thread =>
      some { session with
        client := .sequenceRead contained thread
          (getSnapshotSequence session.database.pipeline) }
    | _ => none
  | .emitSnapshot =>
    match session.client with
    | .sequenceRead _ none _ => some { session with client := .notFound }
    | .sequenceRead contained (some thread) snapshotSequence =>
      some { session with client := .snapshotApplied contained ⟨snapshotSequence, thread⟩ }
    | _ => none
  | .subscribe =>
    match session.client with
    | .snapshotApplied contained snapshot =>
      session.feed.subscribe.map (fun feed =>
        { session with feed := feed, client := .live contained snapshot [] })
    | _ => none
  | .receive =>
    match session.client with
    | .live _ _ _ =>
      session.feed.take.map (fun taken =>
        { session with
          feed := taken.2
          client := applyStreamed threadId taken.1 session.client })
    | _ => none

/-! ## Exactly once -/

/-- The rows after `events`, from none. -/
def rowsOf (events : List OrchestrationEvent) : PipelineState :=
  events.foldl ProjectionPipeline.projectEvent .empty

/-- The thread that `events` make. -/
def threadDetailOf (threadId : ThreadId) (events : List OrchestrationEvent) :
    Option OrchestrationThread :=
  getThreadDetailById (rowsOf events).tables threadId

/-- The snapshot is the thread that the events it contains make. These and the streamed
events the client has applied on top, continued by those on their way to it, are the committed
thread-detail events, each once and in order. -/
def AppliesExactlyOnce (threadId : ThreadId) (session : ThreadSession) : Prop :=
  match session.client with
  | .live contained snapshot applied =>
    threadDetailOf threadId contained = some snapshot.thread ∧
    detailEvents threadId contained ++ applied ++ detailEvents threadId session.feed.pending =
      detailEvents threadId session.database.log.events
  | _ => True

/-- The live stream is pulled when the thread-detail events published are exactly those
the snapshot contains. -/
def SubscribesAtSnapshot (threadId : ThreadId) (session : ThreadSession) : ThreadAction → Prop
  | .subscribe =>
    match session.client with
    | .snapshotApplied contained _ =>
      detailEvents threadId session.feed.published = detailEvents threadId contained
    | _ => True
  | _ => True

/-- The rows of the database are those its log gives. -/
def Projected (database : Database) : Prop :=
  database.pipeline = rowsOf database.log.events

theorem Projected.persistAll {database : Database} (h : Projected database)
    (events : List PlannedOrchestrationEvent) : Projected (database.persistAll events) := by
  induction events generalizing database with
  | nil => exact h
  | cons event events ih =>
    apply ih
    simp only [Projected, rowsOf, Database.persist, EventLog.append] at h ⊢
    rw [List.foldl_append, ← h]
    rfl

/-- What the client read is the thread that the contained events make. -/
def ThreadClient.Faithful (threadId : ThreadId) : ThreadClient → Prop
  | .threadRead contained thread | .sequenceRead contained thread _ =>
    threadDetailOf threadId contained = thread
  | .snapshotApplied contained snapshot | .live contained snapshot _ =>
    threadDetailOf threadId contained = some snapshot.thread
  | .requested | .notFound => True

/-- The feed's rows are the log's, and a live client has a subscription. -/
structure FeedsLog (threadId : ThreadId) (session : ThreadSession) : Prop where
  committed : session.feed.committed = session.database.log.events
  subscribed : ∀ contained snapshot applied, session.client = .live contained snapshot applied →
    session.feed.subscription.isSome
  projected : Projected session.database
  faithful : session.client.Faithful threadId

variable {threadId : ThreadId} {session next : ThreadSession} {action : ThreadAction}

theorem feedsLog_start {database : Database} (h : Projected database) :
    FeedsLog threadId (.start database) :=
  ⟨Feed.committed_settled _, fun _ _ _ hlive => (by cases hlive), h, trivial⟩

theorem events_persistAll (database : Database) (events : List PlannedOrchestrationEvent) :
    (database.persistAll events).log.events =
      database.log.events ++ database.log.nextRows events := by
  rw [log_persistAll, EventLog.events_appendAll]

theorem step_eq_some (h : session.step threadId action = some next) :
    match action with
    | .commit events => ∃ feed,
        session.feed.commit (session.database.log.nextRows events) = some feed ∧
          next = { session with database := session.database.persistAll events, feed := feed }
    | .publish => ∃ feed, session.feed.publish = some feed ∧ next = { session with feed := feed }
    | .subscribe => ∃ contained snapshot feed,
        session.client = .snapshotApplied contained snapshot ∧
          session.feed.subscribe = some feed ∧
          next = { session with feed := feed, client := .live contained snapshot [] }
    | .receive => ∃ contained snapshot applied event feed,
        session.client = .live contained snapshot applied ∧
          session.feed.take = some (event, feed) ∧
          next = { session with
            feed := feed
            client := .live contained snapshot (applied ++ detailEvents threadId [event]) }
    | _ => (∀ contained snapshot applied, session.client ≠ .live contained snapshot applied) ∧
        (∀ contained snapshot applied, next.client ≠ .live contained snapshot applied) ∧
        next.feed = session.feed ∧ next.database = session.database := by
  cases action with
  | commit | publish =>
    obtain ⟨feed, hfeed, rfl⟩ := Option.map_eq_some_iff.mp h
    exact ⟨feed, hfeed, rfl⟩
  | readThread | readSequence =>
    simp only [ThreadSession.step] at h
    split at h
    · rename_i hclient
      cases h
      simp [hclient]
    · cases h
  | emitSnapshot =>
    simp only [ThreadSession.step] at h
    split at h
    · rename_i hclient
      cases h
      simp [hclient]
    · rename_i hclient
      cases h
      simp [hclient]
    · cases h
  | subscribe =>
    simp only [ThreadSession.step] at h
    split at h
    · rename_i contained snapshot hclient
      obtain ⟨feed, hfeed, rfl⟩ := Option.map_eq_some_iff.mp h
      exact ⟨contained, snapshot, feed, hclient, hfeed, rfl⟩
    · cases h
  | receive =>
    simp only [ThreadSession.step] at h
    split at h
    · rename_i contained snapshot applied hclient
      obtain ⟨⟨event, feed⟩, htake, rfl⟩ := Option.map_eq_some_iff.mp h
      refine ⟨contained, snapshot, applied, event, feed, hclient, htake, ?_⟩
      rw [hclient, applyStreamed]
      by_cases hpasses : inThreadStream threadId event <;> simp [detailEvents, hpasses]
    · cases h

theorem faithful_step (hfeeds : FeedsLog threadId session)
    (h : session.step threadId action = some next) : next.client.Faithful threadId := by
  have hfaithful := hfeeds.faithful
  cases action with
  | commit | publish =>
    obtain ⟨feed, -, rfl⟩ := step_eq_some h
    exact hfaithful
  | readThread =>
    simp only [ThreadSession.step] at h
    split at h
    · cases h
      simp only [ThreadClient.Faithful, threadDetailOf]
      rw [← hfeeds.projected]
    · cases h
  | readSequence =>
    simp only [ThreadSession.step] at h
    split at h
    · rename_i hclient
      cases h
      rw [hclient] at hfaithful
      exact hfaithful
    · cases h
  | emitSnapshot =>
    simp only [ThreadSession.step] at h
    split at h
    · cases h
      trivial
    · rename_i hclient
      cases h
      rw [hclient] at hfaithful
      exact hfaithful
    · cases h
  | subscribe =>
    obtain ⟨contained, snapshot, feed, hclient, -, rfl⟩ := step_eq_some h
    rw [hclient] at hfaithful
    exact hfaithful
  | receive =>
    obtain ⟨contained, snapshot, applied, event, feed, hclient, -, rfl⟩ := step_eq_some h
    rw [hclient] at hfaithful
    exact hfaithful

theorem feedsLog_step (hfeeds : FeedsLog threadId session)
    (h : session.step threadId action = some next) : FeedsLog threadId next := by
  have hfaithful := faithful_step hfeeds h
  have hstep := step_eq_some h
  cases action with
  | commit events =>
    obtain ⟨feed, hfeed, rfl⟩ := hstep
    obtain ⟨hcommitted, hsubscription, -⟩ := Feed.commit_eq_some hfeed
    constructor
    · simp only
      rw [hcommitted, hfeeds.committed, events_persistAll]
    · intro contained snapshot applied hlive
      simp only
      rw [hsubscription]
      exact hfeeds.subscribed contained snapshot applied hlive
    · exact hfeeds.projected.persistAll events
    · exact hfaithful
  | publish =>
    obtain ⟨feed, hfeed, rfl⟩ := hstep
    obtain ⟨event, events, -, hcommitted, hsubscription, -⟩ := Feed.publish_eq_some hfeed
    constructor
    · exact hcommitted.trans hfeeds.committed
    · intro contained snapshot applied hlive
      simp only
      rw [hsubscription, Option.isSome_map]
      exact hfeeds.subscribed contained snapshot applied hlive
    · exact hfeeds.projected
    · exact hfaithful
  | subscribe =>
    obtain ⟨contained, snapshot, feed, -, hfeed, rfl⟩ := hstep
    obtain ⟨hcommitted, hsubscription, -⟩ := Feed.subscribe_eq_some hfeed
    constructor
    · exact hcommitted.trans hfeeds.committed
    · intro _ _ _ _
      simp only
      rw [hsubscription]
      rfl
    · exact hfeeds.projected
    · exact hfaithful
  | receive =>
    obtain ⟨contained, snapshot, applied, event, feed, -, htake, rfl⟩ := hstep
    obtain ⟨hcommitted, hsubscribed, -⟩ := Feed.take_eq_some htake
    exact ⟨hcommitted.trans hfeeds.committed, fun _ _ _ _ => hsubscribed, hfeeds.projected,
      hfaithful⟩
  | readThread | readSequence | emitSnapshot =>
    obtain ⟨-, hnotLive, hfeed, hdatabase⟩ := hstep
    constructor
    · rw [hfeed, hdatabase]
      exact hfeeds.committed
    · intro contained snapshot applied hlive
      exact absurd hlive (hnotLive contained snapshot applied)
    · rw [hdatabase]
      exact hfeeds.projected
    · exact hfaithful

theorem appliesExactlyOnce_of_not_live
    (h : ∀ contained snapshot applied, session.client ≠ .live contained snapshot applied) :
    AppliesExactlyOnce threadId session := by
  unfold AppliesExactlyOnce
  split
  · rename_i hclient
    exact absurd hclient (h _ _ _)
  · trivial

theorem appliesExactlyOnce_step (hfeeds : FeedsLog threadId session)
    (honce : AppliesExactlyOnce threadId session) (h : session.step threadId action = some next) :
    AppliesExactlyOnce threadId next ↔ SubscribesAtSnapshot threadId session action := by
  have hstep := step_eq_some h
  cases action with
  | commit events =>
    obtain ⟨feed, hfeed, rfl⟩ := hstep
    obtain ⟨-, -, hpending⟩ := Feed.commit_eq_some hfeed
    refine iff_of_true ?_ trivial
    unfold AppliesExactlyOnce at honce ⊢
    cases hclient : session.client with
    | live contained snapshot applied =>
      simp only [hclient] at honce ⊢
      refine ⟨honce.1, ?_⟩
      rw [hpending, events_persistAll, detailEvents_append, detailEvents_append, ← honce.2]
      simp only [List.append_assoc]
    | _ => trivial
  | publish =>
    obtain ⟨feed, hfeed, rfl⟩ := hstep
    refine iff_of_true ?_ trivial
    unfold AppliesExactlyOnce at honce ⊢
    cases hclient : session.client with
    | live contained snapshot applied =>
      have hsubscribed := hfeeds.subscribed contained snapshot applied hclient
      simp only [hclient] at honce ⊢
      rw [Feed.pending_publish hfeed hsubscribed]
      exact honce
    | _ => trivial
  | subscribe =>
    obtain ⟨contained, snapshot, feed, hclient, hfeed, rfl⟩ := hstep
    obtain ⟨-, -, hpending⟩ := Feed.subscribe_eq_some hfeed
    have hlog : detailEvents threadId session.database.log.events =
        detailEvents threadId session.feed.published ++
          detailEvents threadId session.feed.unpublished := by
      rw [← hfeeds.committed, Feed.committed, detailEvents_append]
    have hfaithful := hfeeds.faithful
    simp only [hclient, ThreadClient.Faithful] at hfaithful
    simp only [AppliesExactlyOnce, SubscribesAtSnapshot, hclient]
    rw [hpending, hlog, List.append_nil, List.append_left_inj, and_iff_right hfaithful]
    exact eq_comm
  | receive =>
    obtain ⟨contained, snapshot, applied, event, feed, hclient, htake, rfl⟩ := hstep
    obtain ⟨-, -, hpending⟩ := Feed.take_eq_some htake
    refine iff_of_true ?_ trivial
    have hsplit : detailEvents threadId (event :: feed.pending) =
        detailEvents threadId [event] ++ detailEvents threadId feed.pending :=
      detailEvents_append threadId [event] feed.pending
    simp only [AppliesExactlyOnce, hclient] at honce ⊢
    refine ⟨honce.1, ?_⟩
    rw [← honce.2, hpending, hsplit]
    simp only [List.append_assoc]
  | readThread | readSequence | emitSnapshot =>
    obtain ⟨-, hnotLive, -, -⟩ := hstep
    exact iff_of_true (appliesExactlyOnce_of_not_live hnotLive) trivial

/-- Along a run the client applies every committed thread-detail event exactly once if
and only if its live stream is pulled when exactly the events of the snapshot have been
published. -/
theorem applies_exactly_once_iff_subscribes_at_snapshot (threadId : ThreadId)
    (database : Database) (hprojected : Projected database) (actions : List ThreadAction) :
    Throughout (ThreadSession.step threadId) (AppliesExactlyOnce threadId) (.start database)
        actions ↔
      StepsMeet (ThreadSession.step threadId) (SubscribesAtSnapshot threadId) (.start database)
        actions :=
  throughout_iff_stepsMeet (fun _ _ _ hfeeds h => feedsLog_step hfeeds h)
    (fun _ _ _ hfeeds honce h => appliesExactlyOnce_step hfeeds honce h)
    (feedsLog_start hprojected) trivial actions

/-- An event of thread `t1`. -/
def threadEvent (payload : EventPayload) : PlannedOrchestrationEvent where
  eventId := "event"
  aggregateKind := .thread
  aggregateId := "t1"
  occurredAt := "2026-01-01T00:00:00.000Z"
  commandId := none
  causationEventId := none
  correlationId := none
  metadata := ⟨none⟩
  payload := payload

def createdEvent : PlannedOrchestrationEvent :=
  threadEvent (.threadCreated {
    threadId := "t1"
    projectId := "p1"
    title := "Thread"
    modelSelection := ⟨"codex", "model", none⟩
    runtimeMode := .fullAccess
    interactionMode := .default
    branch := none
    worktreePath := none
    customMetadata := none
    createdAt := "2026-01-01T00:00:00.000Z"
    updatedAt := "2026-01-01T00:00:00.000Z" })

def deltaEvent : PlannedOrchestrationEvent :=
  threadEvent (.threadMessageSent {
    threadId := "t1"
    messageId := "m1"
    role := .assistant
    text := "delta"
    attachments := none
    turnId := none
    streaming := true
    createdAt := "2026-01-01T00:00:00.000Z"
    updatedAt := "2026-01-01T00:00:00.000Z" })

/-- The delta is committed and published between the read and the subscription. -/
def lostDeltaRun : List ThreadAction :=
  [.commit [createdEvent], .publish, .readThread, .readSequence, .emitSnapshot,
    .commit [deltaEvent], .publish, .subscribe]

/-- The delta is committed before the read and published after the subscription. -/
def doubledDeltaRun : List ThreadAction :=
  [.commit [createdEvent], .publish, .commit [deltaEvent], .readThread, .readSequence,
    .emitSnapshot, .subscribe, .publish, .receive]

def emptyDatabase : Database := ⟨.empty, .empty⟩

/-- One delta is in the snapshot, the next is committed and published after the
subscription. -/
def streamedDeltaRun : List ThreadAction :=
  [.commit [createdEvent, deltaEvent], .publish, .publish, .readThread, .readSequence,
    .emitSnapshot, .subscribe, .commit [deltaEvent], .publish, .receive]

omit [Collation] [TextRuntime] in
theorem exactly_once_streamedDeltaRun :
    letI := codePointCollation
    letI := asciiTextRuntime
    Throughout (ThreadSession.step "t1") (AppliesExactlyOnce "t1") (.start emptyDatabase)
        streamedDeltaRun ∧
      ∃ contained snapshot applied session,
        exec (ThreadSession.step "t1") (.start emptyDatabase) streamedDeltaRun = some session ∧
        session.client = .live contained snapshot applied ∧
        snapshot.thread.messages.map OrchestrationMessage.text = ["delta"] ∧
        applied.length = 1 := by
  let _ := codePointCollation
  let _ := asciiTextRuntime
  refine ⟨(applies_exactly_once_iff_subscribes_at_snapshot "t1" emptyDatabase rfl
    streamedDeltaRun).mpr ?_, _, _, _, _, rfl, rfl, rfl, rfl⟩
  refine (stepsMeet_cons rfl).mpr ⟨trivial, ?_⟩
  refine (stepsMeet_cons rfl).mpr ⟨trivial, ?_⟩
  refine (stepsMeet_cons rfl).mpr ⟨trivial, ?_⟩
  refine (stepsMeet_cons rfl).mpr ⟨trivial, ?_⟩
  refine (stepsMeet_cons rfl).mpr ⟨trivial, ?_⟩
  refine (stepsMeet_cons rfl).mpr ⟨trivial, ?_⟩
  refine (stepsMeet_cons rfl).mpr ⟨rfl, ?_⟩
  refine (stepsMeet_cons rfl).mpr ⟨trivial, ?_⟩
  refine (stepsMeet_cons rfl).mpr ⟨trivial, ?_⟩
  exact (stepsMeet_cons rfl).mpr ⟨trivial, trivial⟩

omit [Collation] [TextRuntime] in
theorem delta_lost_and_delta_doubled :
    ¬ ∀ [Collation] [TextRuntime],
      Throughout (ThreadSession.step "t1") (AppliesExactlyOnce "t1") (.start emptyDatabase)
          lostDeltaRun ∨
        Throughout (ThreadSession.step "t1") (AppliesExactlyOnce "t1") (.start emptyDatabase)
          doubledDeltaRun := by
  intro h
  let _ := codePointCollation
  let _ := asciiTextRuntime
  have hlost : ∃ session, exec (ThreadSession.step "t1") (.start emptyDatabase) lostDeltaRun =
      some session ∧ ¬ AppliesExactlyOnce "t1" session :=
    ⟨_, rfl, fun honce => absurd (congrArg List.length honce.2) (by decide)⟩
  have hdoubled : ∃ session, exec (ThreadSession.step "t1") (.start emptyDatabase)
      doubledDeltaRun = some session ∧ ¬ AppliesExactlyOnce "t1" session :=
    ⟨_, rfl, fun honce => absurd (congrArg List.length honce.2) (by decide)⟩
  rcases h with h | h
  · obtain ⟨session, hexec, hnot⟩ := hlost
    exact hnot (h.final hexec)
  · obtain ⟨session, hexec, hnot⟩ := hdoubled
    exact hnot (h.final hexec)

end GT3Code.Server
