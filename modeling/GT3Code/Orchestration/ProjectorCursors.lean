import GT3Code.Base.Runs
import GT3Code.Orchestration.ProjectionPipeline

/-! # Projector cursors

What a projector has applied, against its `lastAppliedSequence` and the log. Live
projection moves every cursor to the event projected, so a backlog that bootstrap
leaves behind is skipped by the next dispatched event.
-/

namespace GT3Code.Orchestration

open GT3Code.Base GT3Code.Contracts GT3Code.Persistence

/-- Each projector has applied the events up to its cursor, each once and in order. -/
def NoEventSkipped (database : Database) : Prop :=
  ∀ projector, database.pipeline.applied projector =
    database.log.upTo (database.pipeline.cursor projector)

/-- Every projector's `lastAppliedSequence` is the last sequence of the log. -/
def CaughtUp (database : Database) : Prop :=
  ∀ projector, database.pipeline.cursor projector = database.log.lastSequence

/-! ## One projector's view of the state -/

def PipelineState.progress (state : PipelineState) (projector : ProjectorName) :
    Nat × List OrchestrationEvent :=
  (state.cursor projector, state.applied projector)

theorem mem_projectors (projector : ProjectorName) : projector ∈ projectors := by
  cases projector <;> decide

theorem nodup_projectors : projectors.Nodup := by decide

variable {projector : ProjectorName} {log : EventLog} {state : PipelineState}

theorem progress_pass {f : PipelineState → ProjectorName → PipelineState}
    {g : Nat × List OrchestrationEvent → Nat × List OrchestrationEvent}
    (hown : ∀ state, (f state projector).progress projector = g (state.progress projector))
    (hframe : ∀ state other, other ≠ projector →
      (f state other).progress projector = state.progress projector)
    (state : PipelineState) :
    (projectors.foldl f state).progress projector = g (state.progress projector) := by
  have untouched : ∀ (names : List ProjectorName) (state : PipelineState), projector ∉ names →
      (names.foldl f state).progress projector = state.progress projector := by
    intro names
    induction names with
    | nil => intro _ _; rfl
    | cons name names ih =>
      intro state hnot
      rw [List.mem_cons, not_or] at hnot
      rw [List.foldl_cons, ih _ hnot.2, hframe state name (Ne.symm hnot.1)]
  have pass : ∀ (names : List ProjectorName) (state : PipelineState), names.Nodup →
      projector ∈ names →
      (names.foldl f state).progress projector = g (state.progress projector) := by
    intro names
    induction names with
    | nil => intro _ _ hmem; cases hmem
    | cons name names ih =>
      intro state hnodup hmem
      rw [List.nodup_cons] at hnodup
      rw [List.foldl_cons]
      by_cases hname : name = projector
      · subst hname
        rw [untouched names _ hnodup.1, hown]
      · rw [ih _ hnodup.2 ((List.mem_cons.mp hmem).resolve_left (Ne.symm hname)),
          hframe state name hname]
  exact pass projectors state nodup_projectors (mem_projectors projector)

variable [Collation] [TextRuntime]

theorem progress_runProjectorForEvent (projector : ProjectorName) (state : PipelineState)
    (event : OrchestrationEvent) :
    (runProjectorForEvent projector state event).progress projector =
      (event.sequence, state.applied projector ++ [event]) := by
  simp [PipelineState.progress, PipelineState.cursor, runProjectorForEvent,
    KeyedTable.lookup_put_self]

variable {other : ProjectorName} {database : Database}

theorem progress_runProjectorForEvent_of_ne (h : other ≠ projector) (state : PipelineState)
    (event : OrchestrationEvent) :
    (runProjectorForEvent other state event).progress projector = state.progress projector := by
  have hlookup : KeyedTable.lookup projector
      (KeyedTable.put ⟨other, event.sequence, event.occurredAt⟩ state.projectionState) =
        KeyedTable.lookup projector state.projectionState :=
    KeyedTable.lookup_put_of_ne (by simpa using h) state.projectionState
  simp [PipelineState.progress, PipelineState.cursor, runProjectorForEvent, hlookup, Ne.symm h]

theorem progress_foldl_runProjectorForEvent (projector : ProjectorName)
    (events : List OrchestrationEvent) (state : PipelineState) :
    (events.foldl (runProjectorForEvent projector) state).progress projector =
      (advance OrchestrationEvent.sequence (state.cursor projector) events,
        state.applied projector ++ events) := by
  induction events using List.reverseRecOn with
  | nil => simp [PipelineState.progress]
  | append_singleton events event ih =>
    rw [List.foldl_append, List.foldl_cons, List.foldl_nil, progress_runProjectorForEvent]
    have happlied := congrArg Prod.snd ih
    simp only [PipelineState.progress] at happlied
    rw [happlied, advance_append_singleton, List.append_assoc]

theorem progress_foldl_runProjectorForEvent_of_ne (h : other ≠ projector)
    (events : List OrchestrationEvent) (state : PipelineState) :
    (events.foldl (runProjectorForEvent other) state).progress projector =
      state.progress projector := by
  induction events generalizing state with
  | nil => rfl
  | cons event events ih => rw [List.foldl_cons, ih, progress_runProjectorForEvent_of_ne h]

theorem progress_projectEvent (projector : ProjectorName) (state : PipelineState)
    (event : OrchestrationEvent) :
    (ProjectionPipeline.projectEvent state event).progress projector =
      (event.sequence, state.applied projector ++ [event]) :=
  progress_pass (g := fun progress => (event.sequence, progress.2 ++ [event]))
    (fun state => progress_runProjectorForEvent projector state event)
    (fun state _ h => progress_runProjectorForEvent_of_ne h state event) state

theorem progress_bootstrap (projector : ProjectorName) (log : EventLog) (state : PipelineState) :
    (ProjectionPipeline.bootstrap log state).progress projector =
      (advance OrchestrationEvent.sequence (state.cursor projector)
          ((log.after (state.cursor projector)).take DEFAULT_READ_FROM_SEQUENCE_LIMIT),
        state.applied projector ++
          (log.after (state.cursor projector)).take DEFAULT_READ_FROM_SEQUENCE_LIMIT) := by
  refine progress_pass (g := fun progress =>
      let page := (log.after progress.1).take DEFAULT_READ_FROM_SEQUENCE_LIMIT
      (advance OrchestrationEvent.sequence progress.1 page, progress.2 ++ page)) ?_ ?_ state
  · intro state
    rw [bootstrapProjector, progress_foldl_runProjectorForEvent,
      EventLog.readFromSequence_eq_take]
    rfl
  · intro state other h
    exact progress_foldl_runProjectorForEvent_of_ne h _ state

theorem noEventSkipped_bootstrap (h : NoEventSkipped ⟨log, state⟩) :
    NoEventSkipped ⟨log, ProjectionPipeline.bootstrap log state⟩ := by
  intro projector
  have hprogress := progress_bootstrap projector log state
  simp only [PipelineState.progress, Prod.mk.injEq] at hprogress
  have hbefore := h projector
  simp only at hbefore ⊢
  rw [hprogress.1, hprogress.2, hbefore]
  exact upTo_append_page log.increasing (List.take_append_drop _ _).symm

theorem cursor_bootstrap (projector : ProjectorName) (log : EventLog) (state : PipelineState) :
    (ProjectionPipeline.bootstrap log state).cursor projector =
      advance OrchestrationEvent.sequence (state.cursor projector)
        ((log.after (state.cursor projector)).take DEFAULT_READ_FROM_SEQUENCE_LIMIT) :=
  congrArg Prod.fst (progress_bootstrap projector log state)

/-- Bootstrap catches a projector up exactly when its backlog is not longer than
what one default read returns. -/
theorem cursor_bootstrap_eq_iff (hcursor : state.cursor projector ≤ log.lastSequence) :
    (ProjectionPipeline.bootstrap log state).cursor projector = log.lastSequence ↔
      (log.after (state.cursor projector)).length ≤ DEFAULT_READ_FROM_SEQUENCE_LIMIT := by
  rw [cursor_bootstrap]
  exact log.advance_eq_lastSequence_iff hcursor

theorem caughtUp_bootstrap_iff (hcursor : ∀ projector, state.cursor projector ≤ log.lastSequence) :
    CaughtUp ⟨log, ProjectionPipeline.bootstrap log state⟩ ↔
      ∀ projector, (log.after (state.cursor projector)).length ≤
        DEFAULT_READ_FROM_SEQUENCE_LIMIT :=
  forall_congr' (fun projector => cursor_bootstrap_eq_iff (hcursor projector))

theorem caughtUp_persist (event : PlannedOrchestrationEvent) (hcaught : CaughtUp database)
    (hskipped : NoEventSkipped database) :
    CaughtUp (database.persist event) ∧ NoEventSkipped (database.persist event) := by
  have hprogress := fun projector =>
    progress_projectEvent projector database.pipeline (database.log.nextRow event)
  simp only [PipelineState.progress, Prod.mk.injEq] at hprogress
  have hcursor : ∀ projector, (database.persist event).pipeline.cursor projector =
      (database.persist event).log.lastSequence := by
    intro projector
    rw [Database.persist, (hprogress projector).1, EventLog.lastSequence_append,
      EventLog.nextRow_sequence]
  refine ⟨hcursor, fun projector => ?_⟩
  rw [hcursor, EventLog.upTo_lastSequence]
  simp only [Database.persist, EventLog.append_events]
  rw [(hprogress projector).2, hskipped projector, hcaught projector, EventLog.upTo_lastSequence]

theorem caughtUp_persistAll (events : List PlannedOrchestrationEvent)
    (h : CaughtUp database ∧ NoEventSkipped database) :
    CaughtUp (database.persistAll events) ∧ NoEventSkipped (database.persistAll events) := by
  induction events generalizing database with
  | nil => exact h
  | cons event events ih => exact ih (caughtUp_persist event h.1 h.2)

def dispatchEvents (database : Database) (events : List PlannedOrchestrationEvent) :
    Option Database :=
  some (database.persistAll events)

/-- Whatever cursors bootstrap starts from, it ends caught up and no later dispatch
skips an event exactly when every backlog fits one default read of the log. -/
theorem no_event_skipped_iff_backlog_fits {log : EventLog} {state : PipelineState}
    (hskipped : NoEventSkipped ⟨log, state⟩)
    (hcursor : ∀ projector, state.cursor projector ≤ log.lastSequence)
    (dispatches : List (List PlannedOrchestrationEvent)) :
    (CaughtUp ⟨log, ProjectionPipeline.bootstrap log state⟩ ∧
      Throughout dispatchEvents NoEventSkipped
        ⟨log, ProjectionPipeline.bootstrap log state⟩ dispatches) ↔
      ∀ projector, (log.after (state.cursor projector)).length ≤
        DEFAULT_READ_FROM_SEQUENCE_LIMIT := by
  rw [← caughtUp_bootstrap_iff hcursor]
  refine ⟨And.left, fun hcaught => ⟨hcaught, ?_⟩⟩
  have hrun : Throughout dispatchEvents (fun database => CaughtUp database ∧ NoEventSkipped database)
      ⟨log, ProjectionPipeline.bootstrap log state⟩ dispatches := by
    refine throughout_of_invariant ?_ ⟨hcaught, noEventSkipped_bootstrap hskipped⟩ dispatches
    intro database events next h hnext
    cases hnext
    exact caughtUp_persistAll events h
  exact hrun.imp (fun _ h => h.2)

omit [Collation] [TextRuntime] in
theorem noEventSkipped_empty (log : EventLog) : NoEventSkipped ⟨log, .empty⟩ := by
  intro projector
  refine (List.filter_eq_nil_iff.mpr (fun event hevent => ?_)).symm
  have := log.positive event hevent
  simp only [decide_eq_true_eq]
  exact Nat.not_le.mpr this

theorem not_noEventSkipped_of_long_backlog (projector : ProjectorName)
    (hlong : DEFAULT_READ_FROM_SEQUENCE_LIMIT < log.events.length)
    (event : PlannedOrchestrationEvent) :
    ¬ NoEventSkipped ((Database.mk log (ProjectionPipeline.bootstrap log .empty)).persist event) := by
  intro hskipped
  have hboot := progress_bootstrap projector log .empty
  have hnext := progress_projectEvent projector (ProjectionPipeline.bootstrap log .empty)
    (log.nextRow event)
  simp only [PipelineState.progress, Prod.mk.injEq] at hboot hnext
  have happlied := hskipped projector
  simp only [Database.persist] at happlied
  rw [hnext.1, hnext.2, hboot.2, EventLog.nextRow_sequence, ← EventLog.lastSequence_append log event,
    EventLog.upTo_lastSequence] at happlied
  have hlength := congrArg List.length happlied
  have hzero : PipelineState.empty.cursor projector = 0 := rfl
  rw [hzero, EventLog.after_zero] at hlength
  simp only [PipelineState.empty, List.nil_append, List.length_append, List.length_take,
    EventLog.append_events, List.length_singleton] at hlength
  omega

def stopEvent : PlannedOrchestrationEvent where
  eventId := "event"
  aggregateKind := .thread
  aggregateId := "t1"
  occurredAt := "2026-01-01T00:00:00.000Z"
  commandId := none
  causationEventId := none
  correlationId := none
  metadata := ⟨none⟩
  payload := .threadSessionStopRequested ⟨"t1", "2026-01-01T00:00:00.000Z"⟩

/-- A log of `count` stop requests. -/
def stopLog (count : Nat) : EventLog := EventLog.empty.appendAll (List.replicate count stopEvent)

omit [Collation] [TextRuntime] in
theorem length_stopLog (count : Nat) : (stopLog count).events.length = count := by
  simp [stopLog, EventLog.length_appendAll, EventLog.empty]

omit [Collation] [TextRuntime] in
/-- Bootstrap over 1001 events neither catches up nor lets the next dispatch apply
every event up to the cursors. -/
theorem backlog_of_1001_events_skipped :
    ¬ ∀ [Collation] [TextRuntime],
      CaughtUp ⟨stopLog 1001, ProjectionPipeline.bootstrap (stopLog 1001) .empty⟩ ∨
        NoEventSkipped ((Database.mk (stopLog 1001)
          (ProjectionPipeline.bootstrap (stopLog 1001) .empty)).persist stopEvent) := by
  intro h
  let _ := codePointCollation
  let _ := asciiTextRuntime
  have hlong : DEFAULT_READ_FROM_SEQUENCE_LIMIT < (stopLog 1001).events.length := by
    rw [length_stopLog]
    decide
  rcases h with hcaught | hskipped
  · have hfits := (caughtUp_bootstrap_iff (fun _ => Nat.zero_le _)).mp hcaught .projects
    have hzero : PipelineState.empty.cursor .projects = 0 := rfl
    rw [hzero, EventLog.after_zero] at hfits
    omega
  · exact not_noEventSkipped_of_long_backlog .projects hlong stopEvent hskipped

omit [Collation] [TextRuntime] in
theorem two_events_then_dispatch_not_skipped :
    letI := codePointCollation
    letI := asciiTextRuntime
    CaughtUp ⟨stopLog 2, ProjectionPipeline.bootstrap (stopLog 2) .empty⟩ ∧
      Throughout dispatchEvents NoEventSkipped
        ⟨stopLog 2, ProjectionPipeline.bootstrap (stopLog 2) .empty⟩ [[stopEvent]] := by
  let _ := codePointCollation
  let _ := asciiTextRuntime
  refine (no_event_skipped_iff_backlog_fits (noEventSkipped_empty (stopLog 2))
    (fun _ => Nat.zero_le _) [[stopEvent]]).mpr ?_
  intro projector
  have hzero : PipelineState.empty.cursor projector = 0 := rfl
  rw [hzero, EventLog.after_zero, length_stopLog]
  decide

end GT3Code.Orchestration
