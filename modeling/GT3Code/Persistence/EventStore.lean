import GT3Code.Base.Paging
import GT3Code.Contracts.Events

/-! # Event store

The append-only log. A sequence is one past the last one, and a read pages through
the rows past a cursor up to a total limit, by default a thousand rows.
-/

namespace GT3Code.Persistence

open GT3Code.Base GT3Code.Contracts

def DEFAULT_READ_FROM_SEQUENCE_LIMIT : Nat := 1000
def READ_PAGE_SIZE : Nat := 500

/-- The rows of `orchestration_events` in sequence order. -/
structure EventLog where
  events : List OrchestrationEvent
  increasing : events.Pairwise (fun earlier later => earlier.sequence < later.sequence)
  positive : ∀ event ∈ events, 0 < event.sequence

namespace EventLog

def empty : EventLog := ⟨[], List.Pairwise.nil, by simp⟩

def lastSequence (log : EventLog) : Nat :=
  (log.events.getLast?.map OrchestrationEvent.sequence).getD 0

theorem sequence_le_lastSequence (log : EventLog) {event : OrchestrationEvent}
    (h : event ∈ log.events) : event.sequence ≤ log.lastSequence := by
  obtain ⟨events, hinc, hpos⟩ := log
  cases hlast : events.getLast? with
  | none => simp [List.getLast?_eq_none_iff.mp hlast] at h
  | some last =>
    obtain ⟨front, rfl⟩ := List.getLast?_eq_some_iff.mp hlast
    simp only [lastSequence, List.getLast?_concat, Option.map_some, Option.getD_some]
    rcases List.mem_append.mp h with hfront | hsame
    · exact Nat.le_of_lt ((List.pairwise_append.mp hinc).2.2 event hfront last (by simp))
    · rw [List.mem_singleton.mp hsame]

/-- The row an `INSERT` of `event` returns. -/
def nextRow (log : EventLog) (event : PlannedOrchestrationEvent) : OrchestrationEvent :=
  event.withSequence (log.lastSequence + 1)

def append (log : EventLog) (event : PlannedOrchestrationEvent) : EventLog where
  events := log.events ++ [log.nextRow event]
  increasing := by
    rw [List.pairwise_append]
    refine ⟨log.increasing, by simp, ?_⟩
    intro earlier hearlier later hlater
    rw [List.mem_singleton.mp hlater]
    exact Nat.lt_succ_of_le (log.sequence_le_lastSequence hearlier)
  positive := by
    intro row hrow
    rcases List.mem_append.mp hrow with hold | hnew
    · exact log.positive row hold
    · rw [List.mem_singleton.mp hnew]
      exact Nat.succ_pos _

@[simp] theorem append_events (log : EventLog) (event : PlannedOrchestrationEvent) :
    (log.append event).events = log.events ++ [log.nextRow event] := rfl

@[simp] theorem lastSequence_append (log : EventLog) (event : PlannedOrchestrationEvent) :
    (log.append event).lastSequence = log.lastSequence + 1 := by
  simp [lastSequence, append, nextRow]

theorem nextRow_sequence (log : EventLog) (event : PlannedOrchestrationEvent) :
    (log.nextRow event).sequence = log.lastSequence + 1 := rfl

def appendAll (log : EventLog) (events : List PlannedOrchestrationEvent) : EventLog :=
  events.foldl append log

theorem length_appendAll (log : EventLog) (events : List PlannedOrchestrationEvent) :
    (log.appendAll events).events.length = log.events.length + events.length := by
  induction events generalizing log with
  | nil => rfl
  | cons event events ih =>
    rw [appendAll, List.foldl_cons]
    have := ih (log.append event)
    simp only [append_events, List.length_append, List.length_singleton] at this
    simp only [List.length_cons]
    rw [appendAll] at this
    omega

/-- The rows appending `events` adds. -/
def nextRows : EventLog → List PlannedOrchestrationEvent → List OrchestrationEvent
  | _, [] => []
  | log, event :: events => log.nextRow event :: nextRows (log.append event) events

@[simp] theorem length_nextRows (log : EventLog) (events : List PlannedOrchestrationEvent) :
    (log.nextRows events).length = events.length := by
  induction events generalizing log with
  | nil => rfl
  | cons event events ih => simp [nextRows, ih]

variable {log : EventLog} {events : List PlannedOrchestrationEvent} {row : OrchestrationEvent}
  {cursor : Nat}

theorem nextRows_ne_nil (h : events ≠ []) : log.nextRows events ≠ [] := by
  intro hnil
  have hlength := congrArg List.length hnil
  rw [length_nextRows] at hlength
  exact h (List.length_eq_zero_iff.mp hlength)

theorem mem_nextRows (h : row ∈ log.nextRows events) :
    row.toPlannedOrchestrationEvent ∈ events := by
  induction events generalizing log with
  | nil => cases h
  | cons event events ih =>
    rcases List.mem_cons.mp h with rfl | hrest
    · exact List.mem_cons_self
    · exact List.mem_cons_of_mem _ (ih hrest)

theorem events_appendAll (log : EventLog) (events : List PlannedOrchestrationEvent) :
    (log.appendAll events).events = log.events ++ log.nextRows events := by
  induction events generalizing log with
  | nil => simp [appendAll, nextRows]
  | cons event events ih =>
    have hrest := ih (log.append event)
    rw [appendAll] at hrest
    rw [appendAll, List.foldl_cons, hrest, append_events, nextRows, List.append_assoc,
      List.singleton_append]

theorem lastSequence_appendAll (log : EventLog) (events : List PlannedOrchestrationEvent) :
    (log.appendAll events).lastSequence = log.lastSequence + events.length := by
  induction events generalizing log with
  | nil => rfl
  | cons event events ih =>
    have hrest := ih (log.append event)
    rw [appendAll] at hrest
    rw [appendAll, List.foldl_cons, hrest, lastSequence_append, List.length_cons]
    omega

theorem lt_of_mem_nextRows (h : row ∈ log.nextRows events) : log.lastSequence < row.sequence := by
  induction events generalizing log with
  | nil => cases h
  | cons event events ih =>
    rcases List.mem_cons.mp h with rfl | hrest
    · rw [nextRow_sequence]
      omega
    · have := ih hrest
      rw [lastSequence_append] at this
      omega

theorem getLast?_nextRows (h : (log.nextRows events).getLast? = some row) :
    row.sequence = log.lastSequence + events.length := by
  have hne : log.nextRows events ≠ [] := by
    rintro hnil
    simp [hnil] at h
  have hend : (log.appendAll events).events.getLast? = some row := by
    rw [events_appendAll, List.getLast?_append, h, Option.some_or]
  rw [← lastSequence_appendAll, lastSequence, hend]
  rfl

def readFromSequence (log : EventLog) (sequenceExclusive limit : Nat) : List OrchestrationEvent :=
  readPages OrchestrationEvent.sequence READ_PAGE_SIZE log.events sequenceExclusive limit

def after (log : EventLog) (cursor : Nat) : List OrchestrationEvent :=
  backlog OrchestrationEvent.sequence log.events cursor

def upTo (log : EventLog) (cursor : Nat) : List OrchestrationEvent :=
  Base.upTo OrchestrationEvent.sequence log.events cursor

theorem upTo_lastSequence (log : EventLog) : log.upTo log.lastSequence = log.events :=
  List.filter_eq_self.mpr (fun _ hevent => by simpa using log.sequence_le_lastSequence hevent)

theorem after_appendAll (log : EventLog) (events : List PlannedOrchestrationEvent)
    (h : cursor ≤ log.lastSequence) :
    (log.appendAll events).after cursor = log.after cursor ++ log.nextRows events := by
  have hnew : (log.nextRows events).filter (fun row => cursor < row.sequence) =
      log.nextRows events := by
    refine List.filter_eq_self.mpr (fun row hrow => ?_)
    have := lt_of_mem_nextRows hrow
    simp only [decide_eq_true_eq]
    omega
  rw [after, backlog, events_appendAll, List.filter_append, hnew]
  rfl

theorem after_lastSequence (log : EventLog) : log.after log.lastSequence = [] :=
  backlog_eq_nil_iff.mpr (fun _ hevent => log.sequence_le_lastSequence hevent)

variable {limit : Nat}

theorem advance_eq_lastSequence_iff (log : EventLog) (hcursor : cursor ≤ log.lastSequence) :
    advance OrchestrationEvent.sequence cursor ((log.after cursor).take limit) = log.lastSequence ↔
      (log.after cursor).length ≤ limit := by
  have hsplit := (List.take_append_drop limit (log.after cursor)).symm
  constructor
  · intro h
    have hrest := backlog_advance log.increasing hsplit
    rw [h] at hrest
    exact List.drop_eq_nil_iff.mp (hrest.symm.trans log.after_lastSequence)
  · intro h
    rw [List.take_of_length_le h]
    have hwhole : log.upTo cursor ++ log.after cursor = log.events :=
      upTo_append_backlog log.increasing cursor
    cases hlast : (log.after cursor).getLast? with
    | none =>
      have hnil := List.getLast?_eq_none_iff.mp hlast
      have hall := backlog_eq_nil_iff.mp hnil
      rw [hnil, advance_nil]
      refine Nat.le_antisymm hcursor ?_
      cases hend : log.events.getLast? with
      | none => simp [lastSequence, hend]
      | some last =>
        have := hall last (List.mem_of_getLast? hend)
        simpa [lastSequence, hend] using this
    | some last =>
      have hend : log.events.getLast? = some last := by
        rw [← congrArg List.getLast? hwhole, List.getLast?_append, hlast, Option.some_or]
      simp [advance, lastSequence, hlast, hend]

theorem advance_take_le (log : EventLog) (hcursor : cursor ≤ log.lastSequence) :
    advance OrchestrationEvent.sequence cursor ((log.after cursor).take limit) ≤
      log.lastSequence := by
  unfold advance
  cases hlast : ((log.after cursor).take limit).getLast? with
  | none => exact hcursor
  | some last =>
    have hmem := List.mem_of_mem_take (List.mem_of_getLast? hlast)
    exact log.sequence_le_lastSequence (List.mem_of_mem_filter hmem)

theorem advance_after (log : EventLog) (hcursor : cursor ≤ log.lastSequence) :
    advance OrchestrationEvent.sequence cursor (log.after cursor) = log.lastSequence := by
  have hall : advance OrchestrationEvent.sequence cursor
      ((log.after cursor).take (log.after cursor).length) = log.lastSequence :=
    (log.advance_eq_lastSequence_iff hcursor).mpr le_rfl
  rwa [List.take_length] at hall

theorem readFromSequence_eq_take (log : EventLog) (cursor limit : Nat) :
    log.readFromSequence cursor limit = (log.after cursor).take limit :=
  readPages_eq_take (by decide) log.increasing cursor limit

theorem after_zero (log : EventLog) : log.after 0 = log.events :=
  List.filter_eq_self.mpr (fun event hevent => by simpa using log.positive event hevent)

end EventLog

end GT3Code.Persistence
