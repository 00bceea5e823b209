import GT3Code.Orchestration.ContentRows
import GT3Code.Orchestration.ProjectorCursors

/-! # Live projection

The tables as the projectors leave them, one event after the other.
-/

namespace GT3Code.Orchestration

open GT3Code.Base GT3Code.Contracts GT3Code.Persistence

section Pipelines

variable [Collation] [TextRuntime]

def projectTables (tables : ProjectionTables) (event : OrchestrationEvent) : ProjectionTables :=
  projectors.foldl (fun tables projector => projector.apply tables event) tables

def liveTables (events : List OrchestrationEvent) : ProjectionTables :=
  events.foldl projectTables .empty

theorem tables_projectEvent (state : PipelineState) (event : OrchestrationEvent) :
    (ProjectionPipeline.projectEvent state event).tables = projectTables state.tables event := rfl

theorem liveTables_append (events : List OrchestrationEvent) (event : OrchestrationEvent) :
    liveTables (events ++ [event]) = projectTables (liveTables events) event := by
  simp [liveTables]

theorem projectTables_eq (tables : ProjectionTables) (event : OrchestrationEvent) :
    projectTables tables event =
      { projects := applyProjectsProjection tables.projects event
        threads := applyThreadsProjection
          { projectContent tables event with
            turns := applyThreadTurnsProjection tables.turns event } event
        messages := applyThreadMessagesProjection tables.turns tables.messages event
        finalizedMessages :=
          applyFinalizedMessages tables.messages tables.finalizedMessages event
        proposedPlans :=
          applyThreadProposedPlansProjection tables.turns tables.proposedPlans event
        activities := applyThreadActivitiesProjection tables.turns tables.activities event
        sessions := applyThreadSessionsProjection tables.sessions event
        turns := applyThreadTurnsProjection tables.turns event
        pendingApprovals := applyPendingApprovalsProjection tables.pendingApprovals event } := rfl

end Pipelines

end GT3Code.Orchestration
