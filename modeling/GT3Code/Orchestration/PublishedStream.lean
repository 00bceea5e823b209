import GT3Code.Orchestration.DispatchAtomicity

/-! # The published stream

Whatever fails while a command is processed, the engine publishes only what the log
holds, in the order of the log and once, and its model is the start-up model folded over
what it published.
-/

namespace GT3Code.Orchestration

open GT3Code.Base GT3Code.Contracts GT3Code.Persistence

variable [Collation]

structure StreamFollowsLog (start state : EngineState) : Prop where
  log : start.database.log.events <+: state.database.log.events
  model : state.commandReadModel =
    projectEventsOntoReadModel start.commandReadModel state.published
  published : state.published.Sublist state.database.log.events

/-- `StreamFollowsLog`, where nothing beyond the model's sequence was published. -/
structure Streams (start state : EngineState) : Prop where
  log : start.database.log.events <+: state.database.log.events
  model : state.commandReadModel =
    projectEventsOntoReadModel start.commandReadModel state.published
  published : state.published.Sublist
    (state.database.log.upTo state.commandReadModel.snapshotSequence)

namespace Streams

variable {start state : EngineState}

theorem streamFollowsLog (h : Streams start state) : StreamFollowsLog start state :=
  ⟨h.log, h.model, h.published.trans List.filter_sublist⟩

theorem reconcile (h : Streams start state) :
    Streams start (reconcileReadModelAfterDispatchFailure state) := by
  unfold reconcileReadModelAfterDispatchFailure
  dsimp only
  split
  · exact h
  · refine ⟨h.log, ?_, ?_⟩
    · rw [h.model, projectEventsOntoReadModel, projectEventsOntoReadModel,
        projectEventsOntoReadModel, List.foldl_append]
    · have hpage := upTo_append_page state.database.log.increasing
        (List.take_append_drop DEFAULT_READ_FROM_SEQUENCE_LIMIT
          (state.database.log.after state.commandReadModel.snapshotSequence)).symm
      rw [EventLog.readFromSequence_eq_take, snapshotSequence_projectEvents, EventLog.upTo, ← hpage]
      exact h.published.append_right _

theorem handleFailure (h : Streams start state) (envelope : CommandEnvelope)
    (error : OrchestrationDispatchError) :
    Streams start (handleFailure state envelope error) := by
  cases error with
  | previouslyRejected commandId detail => exact h
  | invariant error =>
    rw [Orchestration.handleFailure, storeRejection]
    split
    · exact h.reconcile
    · exact ⟨h.reconcile.log, h.reconcile.model, h.reconcile.published⟩
  | persistence | projectorDecode => exact h.reconcile

variable [TextRuntime] {command : OrchestrationCommand} {eventBases : List PlannedOrchestrationEvent}
  {committed : CommittedCommand}

theorem log_commits (h : Streams start state)
    (hcommits : Commits state command eventBases committed) :
    start.database.log.events <+: committed.database.log.events := by
  rw [hcommits.log, EventLog.events_appendAll]
  exact h.log.trans (List.prefix_append _ _)

theorem unacknowledged (h : Streams start state)
    (hcommits : Commits state command eventBases committed) :
    Streams start { state with database := committed.database } := by
  refine ⟨h.log_commits hcommits, h.model, h.published.trans (List.Sublist.filter _ ?_)⟩
  rw [hcommits.log, EventLog.events_appendAll]
  exact List.sublist_append_left _ _

theorem commit (h : Streams start state)
    (hcommits : Commits state command eventBases committed) :
    Streams start (publishCommitted state committed) := by
  have hmodel := hcommits.nextCommandReadModel
  refine ⟨h.log_commits hcommits, ?_, ?_⟩
  · rw [publishCommitted, hmodel, h.model, hcommits.committedEvents, projectEventsOntoReadModel,
      projectEventsOntoReadModel, projectEventsOntoReadModel, List.foldl_append]
  · -- the appended rows are all that lies behind the log the command was decided on
    have hafter : committed.database.log.after state.database.log.lastSequence =
        state.database.log.nextRows eventBases := by
      rw [hcommits.log, EventLog.after_appendAll _ _ le_rfl, EventLog.after_lastSequence,
        List.nil_append]
    have hbefore : committed.database.log.upTo state.database.log.lastSequence =
        state.database.log.events := by
      have hsplit := upTo_append_backlog committed.database.log.increasing
        state.database.log.lastSequence
      rw [show backlog _ _ _ = _ from hafter] at hsplit
      refine List.append_cancel_right (hsplit.trans ?_)
      rw [hcommits.log, EventLog.events_appendAll]
    have hpage := upTo_append_page committed.database.log.increasing
      (hafter.trans (List.append_nil _).symm)
    have hrows : state.database.log.nextRows eventBases ≠ [] :=
      EventLog.nextRows_ne_nil hcommits.nonempty
    have hlast : advance OrchestrationEvent.sequence state.database.log.lastSequence
        (state.database.log.nextRows eventBases) =
        advance OrchestrationEvent.sequence state.commandReadModel.snapshotSequence
          (state.database.log.nextRows eventBases) := by
      rw [advance_of_ne_nil hrows, advance_of_ne_nil hrows]
    rw [hlast] at hpage
    simp only [publishCommitted]
    rw [hmodel, snapshotSequence_projectEvents, EventLog.upTo, ← hpage, hcommits.committedEvents,
      show Base.upTo _ _ _ = _ from hbefore]
    exact (h.published.trans List.filter_sublist).append_right _

theorem processEnvelope (h : Streams start state) (envelope : CommandEnvelope) :
    Streams start (processEnvelope state envelope).1 := by
  have hspec := exitSpec_attemptCommand state envelope
  rw [Orchestration.processEnvelope]
  cases hattempt : attemptCommand state envelope with
  | deduplicated sequence => exact h
  | committed command =>
    rw [hattempt] at hspec
    obtain ⟨-, eventBases, -, hcommits⟩ := hspec
    exact h.commit hcommits
  | unacknowledged command =>
    rw [hattempt] at hspec
    obtain ⟨-, -, eventBases, -, hcommits⟩ := hspec
    exact (h.unacknowledged hcommits).handleFailure envelope .persistence
  | failed error => exact h.handleFailure envelope error

end Streams

/-- In every run, with any faults, the log only grows, what is published is a subsequence of
it, and the model is the start-up model folded over what was published. -/
theorem streamFollowsLog_throughout [TextRuntime] (database : EngineDatabase)
    (envelopes : List CommandEnvelope) :
    Throughout dispatch (StreamFollowsLog (startEngine database)) (startEngine database)
      envelopes := by
  refine Throughout.imp (P := Streams (startEngine database)) (fun _ h => h.streamFollowsLog) ?_
  refine throughout_of_invariant ?_ ⟨List.prefix_refl _, rfl, List.nil_sublist _⟩ envelopes
  intro state envelope next h hnext
  cases hnext
  exact h.processEnvelope envelope

end GT3Code.Orchestration
