import GT3Code.Base.Runs
import GT3Code.Orchestration.Engine

/-! # Command ids as idempotency keys

Receipts against the batches of events in the log. A batch and its accepted receipt
are written by one transaction, and no command with a receipt reaches another one,
so each command id owns at most one batch, across faults, retries and restarts.
-/

namespace GT3Code.Orchestration

open GT3Code.Base GT3Code.Contracts GT3Code.Persistence

structure ReceiptsMatch (database : EngineDatabase) : Prop where
  log : database.log.events = database.batches.flatMap Prod.snd
  distinct : (database.batches.map Prod.fst).Nodup
  carried : ∀ batch ∈ database.batches, ∀ event ∈ batch.2, event.commandId = some batch.1
  recorded : ∀ batch ∈ database.batches, ∃ receipt last,
    KeyedTable.lookup batch.1 database.receipts = some receipt ∧ receipt.status = .accepted ∧
      batch.2.getLast? = some last ∧ receipt.resultSequence = last.sequence
  accepted : ∀ receipt ∈ database.receipts.rows, receipt.status = .accepted →
    receipt.commandId ∈ database.batches.map Prod.fst

variable {before after : EngineDatabase} {receipt : OrchestrationCommandReceipt}

theorem ReceiptsMatch.of_eq (h : ReceiptsMatch before) (hlog : after.log = before.log)
    (hreceipts : after.receipts = before.receipts) (hbatches : after.batches = before.batches) :
    ReceiptsMatch after := by
  constructor
  · rw [hlog, hbatches]
    exact h.log
  · rw [hbatches]
    exact h.distinct
  · rw [hbatches]
    exact h.carried
  · rw [hbatches, hreceipts]
    exact h.recorded
  · rw [hbatches, hreceipts]
    exact h.accepted

theorem ReceiptsMatch.no_batch {database : EngineDatabase} (h : ReceiptsMatch database)
    {commandId : CommandId} (hlookup : KeyedTable.lookup commandId database.receipts = none) :
    commandId ∉ database.batches.map Prod.fst := by
  intro hmem
  obtain ⟨batch, hbatch, rfl⟩ := List.mem_map.mp hmem
  obtain ⟨receipt, last, hfound, -⟩ := h.recorded batch hbatch
  rw [hlookup] at hfound
  cases hfound

theorem ReceiptsMatch.reject (h : ReceiptsMatch before) (hrejected : receipt.status = .rejected)
    (hlookup : KeyedTable.lookup receipt.commandId before.receipts = none)
    (hlog : after.log = before.log) (hbatches : after.batches = before.batches)
    (hreceipts : after.receipts = KeyedTable.put receipt before.receipts) :
    ReceiptsMatch after := by
  have hkeyed : ReceiptsMatch { before with receipts := KeyedTable.put receipt before.receipts } := by
    refine ⟨h.log, h.distinct, h.carried, fun batch hbatch => ?_, fun other hother hstatus => ?_⟩
    · obtain ⟨found, last, hfound, hrest⟩ := h.recorded batch hbatch
      have hne : receipt.commandId ≠ batch.1 := by
        intro he
        rw [he, hfound] at hlookup
        cases hlookup
      exact ⟨found, last, (lookup_put_receipt_of_ne hne before.receipts).trans hfound, hrest⟩
    · rcases KeyedTable.mem_of_mem_putRow hother with rfl | hold
      · rw [hrejected] at hstatus
        cases hstatus
      · exact h.accepted other hold hstatus
  exact hkeyed.of_eq hlog hreceipts hbatches

variable [Collation] [TextRuntime]

variable {state : EngineState}

theorem ReceiptsMatch.commit {command : OrchestrationCommand}
    {eventBases : List PlannedOrchestrationEvent} {committed : CommittedCommand}
    (h : ReceiptsMatch state.database)
    (hlookup : KeyedTable.lookup command.commandId state.database.receipts = none)
    (hcommits : Commits state command eventBases committed) : ReceiptsMatch committed.database := by
  obtain ⟨receipt, hid, haccepted, hsequence, hreceipts⟩ := hcommits.receipts
  have hnone := h.no_batch hlookup
  constructor
  · rw [hcommits.log, EventLog.events_appendAll, hcommits.batches, List.flatMap_append, h.log,
      List.flatMap_singleton]
  · rw [hcommits.batches, List.map_append, List.map_singleton, List.nodup_append]
    refine ⟨h.distinct, by simp, ?_⟩
    rintro other hother added hadded rfl
    rw [List.mem_singleton] at hadded
    rw [hadded] at hother
    exact hnone hother
  · rw [hcommits.batches]
    intro batch hbatch event hevent
    rcases List.mem_append.mp hbatch with hold | hnew
    · exact h.carried batch hold event hevent
    · rw [List.mem_singleton] at hnew
      subst hnew
      obtain ⟨env, hdecide⟩ := hcommits.planned
      exact commandId_decide hdecide _ (EventLog.mem_nextRows hevent)
  · rw [hcommits.batches, hreceipts]
    intro batch hbatch
    rcases List.mem_append.mp hbatch with hold | hnew
    · obtain ⟨found, last, hfound, hrest⟩ := h.recorded batch hold
      have hne : receipt.commandId ≠ batch.1 := by
        rw [hid]
        exact fun he => hnone (List.mem_map.mpr ⟨batch, hold, he.symm⟩)
      exact ⟨found, last, (lookup_put_receipt_of_ne hne _).trans hfound, hrest⟩
    · rw [List.mem_singleton] at hnew
      subst hnew
      have hrows : state.database.log.nextRows eventBases ≠ [] :=
        EventLog.nextRows_ne_nil hcommits.nonempty
      have hlast := List.getLast?_eq_some_getLast hrows
      refine ⟨receipt, _, hid ▸ lookup_put_receipt receipt _, haccepted, hlast, ?_⟩
      rw [hsequence, hcommits.lastSequence, EventLog.getLast?_nextRows hlast]
  · rw [hcommits.batches, hreceipts, List.map_append]
    intro other hother hstatus
    rw [List.mem_append]
    rcases KeyedTable.mem_of_mem_putRow hother with rfl | hold
    · right
      simp [hid]
    · exact Or.inl (h.accepted other hold hstatus)

theorem receiptsMatch_processEnvelope (envelope : CommandEnvelope)
    (h : ReceiptsMatch state.database) :
    ReceiptsMatch (processEnvelope state envelope).1.database := by
  have hspec := exitSpec_attemptCommand state envelope
  rw [processEnvelope]
  cases hattempt : attemptCommand state envelope with
  | deduplicated sequence => exact h
  | committed command =>
    rw [hattempt] at hspec
    obtain ⟨hlookup, eventBases, -, hcommits⟩ := hspec
    exact h.commit hlookup hcommits
  | unacknowledged command =>
    rw [hattempt] at hspec
    obtain ⟨-, hlookup, eventBases, -, hcommits⟩ := hspec
    have hreconciled := database_reconcile { state with database := command.database }
    simp only [handleFailure, hreconciled]
    exact h.commit hlookup hcommits
  | failed error =>
    rw [hattempt] at hspec
    cases error with
    | invariant error =>
      have hlookup : KeyedTable.lookup envelope.command.commandId state.database.receipts =
          none := by
        rcases hspec with ⟨-, he⟩ | ⟨receipt, -, -, detail, he⟩ | hlookup
        · cases he
        · cases he
        · exact hlookup
      simp only [handleFailure, storeRejection]
      split
      · rw [database_reconcile]
        exact h
      · have hrejected : (rejectedReceipt (reconcileReadModelAfterDispatchFailure state)
            envelope error).status = .rejected := rfl
        refine h.reject hrejected hlookup ?_ ?_ ?_
        all_goals simp only [database_reconcile]
    | previouslyRejected commandId detail => exact h
    | persistence | projectorDecode =>
      simp only [handleFailure, database_reconcile]
      exact h

/-- What happens to the engine: an envelope is processed, or the server restarts. -/
inductive EngineAction where
  | dispatch (envelope : CommandEnvelope)
  | restart

def engineStep (state : EngineState) : EngineAction → Option EngineState
  | .dispatch envelope => some (processEnvelope state envelope).1
  | .restart => some (startEngine state.database)

theorem receiptsMatch_engineStep {next : EngineState} {action : EngineAction}
    (h : ReceiptsMatch state.database) (hnext : engineStep state action = some next) :
    ReceiptsMatch next.database := by
  cases action with
  | dispatch envelope =>
    cases hnext
    exact receiptsMatch_processEnvelope envelope h
  | restart =>
    cases hnext
    exact h.of_eq rfl rfl rfl

/-- The log is the batches one after another, one for each command id, and every event
carries the id of its batch. -/
structure OneBatchPerCommand (database : EngineDatabase) : Prop where
  log : database.log.events = database.batches.flatMap Prod.snd
  distinct : (database.batches.map Prod.fst).Nodup
  carried : ∀ batch ∈ database.batches, ∀ event ∈ batch.2, event.commandId = some batch.1

/-- A command with an accepted receipt adds nothing to the log and returns the sequence
of the last event of its batch, unless reading the receipt fails. -/
def RepeatsAccepted (state : EngineState) : Prop :=
  ∀ envelope receipt,
    KeyedTable.lookup envelope.command.commandId state.database.receipts = some receipt →
    receipt.status = .accepted →
    (processEnvelope state envelope).1.database.log = state.database.log ∧
      ∃ batch ∈ state.database.batches, batch.1 = envelope.command.commandId ∧
        ∃ last, batch.2.getLast? = some last ∧
          (processEnvelope state envelope).2 =
            if envelope.fault = some .receiptLookup then .error .persistence
            else .ok last.sequence

/-- A command with a rejected receipt fails and adds nothing to the log. -/
def RepeatsRejected (state : EngineState) : Prop :=
  ∀ envelope receipt,
    KeyedTable.lookup envelope.command.commandId state.database.receipts = some receipt →
    receipt.status = .rejected →
    (processEnvelope state envelope).1.database.log = state.database.log ∧
      ∃ error, (processEnvelope state envelope).2 = .error error

theorem processEnvelope_of_receipt {envelope : CommandEnvelope}
    (hlookup : KeyedTable.lookup envelope.command.commandId state.database.receipts =
      some receipt) :
    (processEnvelope state envelope).1.database.log = state.database.log ∧
      (processEnvelope state envelope).2 =
        if envelope.fault = some .receiptLookup then .error .persistence
        else
          match receipt.status with
          | .accepted => .ok receipt.resultSequence
          | .rejected => .error (.previouslyRejected envelope.command.commandId
              (receipt.error.getD "Previously rejected.")) := by
  by_cases hfault : envelope.fault = some .receiptLookup
  · have hattempt : attemptCommand state envelope = .failed .persistence := by
      rw [attemptCommand, if_pos hfault]
    rw [processEnvelope, hattempt, if_pos hfault]
    refine ⟨?_, rfl⟩
    simp only [handleFailure, database_reconcile]
  · rw [if_neg hfault]
    cases hstatus : receipt.status with
    | accepted =>
      have hattempt : attemptCommand state envelope = .deduplicated receipt.resultSequence := by
        simp only [attemptCommand, if_neg hfault, hlookup, hstatus]
      rw [processEnvelope, hattempt]
      exact ⟨rfl, rfl⟩
    | rejected =>
      have hattempt : attemptCommand state envelope =
          .failed (.previouslyRejected envelope.command.commandId
            (receipt.error.getD "Previously rejected.")) := by
        simp only [attemptCommand, if_neg hfault, hlookup, hstatus]
      rw [processEnvelope, hattempt]
      exact ⟨rfl, rfl⟩

theorem repeatsAccepted_of_receiptsMatch (h : ReceiptsMatch state.database) :
    RepeatsAccepted state := by
  intro envelope receipt hlookup haccepted
  obtain ⟨hlog, hresult⟩ := processEnvelope_of_receipt hlookup
  refine ⟨hlog, ?_⟩
  obtain ⟨hmem, hkey⟩ := KeyedTable.mem_of_lookup hlookup
  obtain ⟨batch, hbatch, hid⟩ := List.mem_map.mp (h.accepted receipt hmem haccepted)
  have hbatchId : batch.1 = envelope.command.commandId := hid.trans (Option.some.inj hkey)
  obtain ⟨recorded, last, hrecorded, -, hlast, hsequence⟩ := h.recorded batch hbatch
  rw [hbatchId, hlookup] at hrecorded
  cases hrecorded
  refine ⟨batch, hbatch, hbatchId, last, hlast, ?_⟩
  rw [hresult, haccepted, hsequence]

theorem repeatsRejected (state : EngineState) : RepeatsRejected state := by
  intro envelope receipt hlookup hrejected
  obtain ⟨hlog, hresult⟩ := processEnvelope_of_receipt hlookup
  refine ⟨hlog, ?_⟩
  rw [hresult, hrejected]
  split
  · exact ⟨_, rfl⟩
  · exact ⟨_, rfl⟩

omit [Collation] [TextRuntime] in
theorem receiptsMatch_empty : ReceiptsMatch EngineDatabase.empty := by
  constructor <;> simp [EngineDatabase.empty, EventLog.empty]

/-- In every state reached from an empty database, each command id owns one batch at
most and repeating a command repeats its answer. -/
theorem command_ids_are_idempotency_keys (actions : List EngineAction) :
    Throughout engineStep
      (fun state => OneBatchPerCommand state.database ∧ RepeatsAccepted state ∧
        RepeatsRejected state) (startEngine .empty) actions := by
  have hrun : Throughout engineStep (fun state => ReceiptsMatch state.database)
      (startEngine .empty) actions :=
    throughout_of_invariant (fun _ _ _ h hnext => receiptsMatch_engineStep h hnext)
      (receiptsMatch_empty.of_eq rfl rfl rfl) actions
  exact hrun.imp (fun state h => ⟨⟨h.log, h.distinct, h.carried⟩,
    repeatsAccepted_of_receiptsMatch h, repeatsRejected state⟩)

/-- Every repeat of an accepted command returns the sequence of its receipt. -/
def AlwaysRepeatsAccepted (state : EngineState) : Prop :=
  ∀ envelope receipt,
    KeyedTable.lookup envelope.command.commandId state.database.receipts = some receipt →
    receipt.status = .accepted →
    (processEnvelope state envelope).2 = .ok receipt.resultSequence

/-- Create a project; processing meets `fault`. -/
def createOnce (fault : Option FaultPoint) : CommandEnvelope where
  env := ⟨fun _ => "2026-01-01T00:00:00.000Z", fun _ => "event"⟩
  command := ⟨"c1", .projectCreate ⟨"p1", "Project", "/srv/app", none, "2026-01-01T00:00:00.000Z"⟩⟩
  fault := fault
  rejectionFault := false
  rejectedAt := "2026-01-01T00:00:00.000Z"

omit [Collation] [TextRuntime] in
theorem unread_receipt_fails_repeat :
    ¬ ∀ [Collation] [TextRuntime], Throughout engineStep AlwaysRepeatsAccepted
      (startEngine .empty) [.dispatch (createOnce none)] := by
  intro h
  let _ := codePointCollation
  let _ := asciiTextRuntime
  have hrepeats : AlwaysRepeatsAccepted (processEnvelope (startEngine .empty) (createOnce none)).1 :=
    h.2 _ rfl
  have hstart : (startEngine .empty).commandReadModel = getCommandReadModel .empty := by
    rw [startEngine_empty]
  have hdecide : ∃ event, decideOrchestrationCommand (createOnce none).env
      (startEngine .empty).commandReadModel (createOnce none).command = .ok [event] := by
    rw [hstart]
    exact ⟨_, rfl⟩
  obtain ⟨event, hdecide⟩ := hdecide
  obtain ⟨committed, hattempt, hcommits⟩ :=
    attemptCommand_of_reachesCommit rfl (by rfl) hdecide (by simp)
  obtain ⟨receipt, hid, haccepted, -, hreceipts⟩ := hcommits.receipts
  have hself := lookup_put_receipt receipt (startEngine .empty).database.receipts
  rw [hid] at hself
  have hlookup : KeyedTable.lookup (createOnce (some .receiptLookup)).command.commandId
      (processEnvelope (startEngine .empty) (createOnce none)).1.database.receipts =
        some receipt := by
    rw [processEnvelope, hattempt]
    simp only [createOnce, commitTransaction, publishCommitted]
    rw [hreceipts]
    exact hself
  have hresult := hrepeats (createOnce (some .receiptLookup)) receipt hlookup haccepted
  rw [(processEnvelope_of_receipt hlookup).2] at hresult
  cases hresult

end GT3Code.Orchestration
