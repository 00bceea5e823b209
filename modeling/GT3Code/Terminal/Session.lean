import GT3Code.Terminal.HistoryText

/-! # Terminal sessions

A session object is changed in place: by the callbacks of its process, by the fibers that
drain them, and by the requests. Each function here is what one of them does to it between
two suspension points.
-/

namespace GT3Code.Terminal

/-- The process object of the PTY adapter; `pid` tells processes apart. -/
structure PtyProcess where
  pid : Nat

structure PtyExitEvent where
  exitCode : Option Int
  signal : Option Int

inductive PendingProcessEvent where
  | output (data : String)
  | exit (event : PtyExitEvent)

def PendingProcessEvent.isExit : PendingProcessEvent → Bool
  | .output _ => false
  | .exit _ => true

inductive TerminalSessionStatus where
  | starting
  | running
  | exited
  | error
  deriving DecidableEq

abbrev RuntimeEnv := List (String × String)

/-- `handlers` is the process that `unsubscribeData` and `unsubscribeExit` belong to. -/
structure TerminalSessionState where
  threadId : String
  terminalId : String
  cwd : String
  worktreePath : Option String
  status : TerminalSessionStatus
  pid : Option Nat
  history : String
  pendingHistoryControlSequence : String
  pendingProcessEvents : List PendingProcessEvent
  pendingProcessEventIndex : Nat
  processEventDrainRunning : Bool
  exitCode : Option Int
  exitSignal : Option Int
  updatedAt : String
  cols : Nat
  rows : Nat
  process : Option PtyProcess
  handlers : Option PtyProcess
  hasRunningSubprocess : Bool
  runtimeEnv : Option RuntimeEnv

inductive DrainProcessEventAction where
  | idle
  | output (history : Option String) (data : String)
  | exit (process : PtyProcess) (exitCode exitSignal : Option Int)

structure TerminalSessionSnapshot where
  threadId : String
  terminalId : String
  cwd : String
  worktreePath : Option String
  status : TerminalSessionStatus
  pid : Option Nat
  history : String
  exitCode : Option Int
  exitSignal : Option Int
  updatedAt : String

inductive TerminalEventType where
  | started (snapshot : TerminalSessionSnapshot)
  | output (data : String)
  | exited (exitCode exitSignal : Option Int)
  | error (message : String)
  | cleared
  | restarted (snapshot : TerminalSessionSnapshot)

structure TerminalEvent where
  threadId : String
  terminalId : String
  createdAt : String
  type : TerminalEventType

structure TerminalOpenInput where
  threadId : String
  terminalId : Option String
  cwd : String
  worktreePath : Option String
  cols : Option Nat
  rows : Option Nat
  env : Option RuntimeEnv

structure TerminalStartInput where
  threadId : String
  terminalId : String
  cwd : String
  worktreePath : Option String
  cols : Nat
  rows : Nat

def DEFAULT_TERMINAL_ID : String := "default"
def DEFAULT_OPEN_COLS : Nat := 120
def DEFAULT_OPEN_ROWS : Nat := 30

/-- The arguments of `startSession` for a session that `open` creates. -/
def TerminalOpenInput.startInput (input : TerminalOpenInput) : TerminalStartInput where
  threadId := input.threadId
  terminalId := input.terminalId.getD DEFAULT_TERMINAL_ID
  cwd := input.cwd
  worktreePath := input.worktreePath
  cols := input.cols.getD DEFAULT_OPEN_COLS
  rows := input.rows.getD DEFAULT_OPEN_ROWS

/-- No variables are no environment. The entries are sorted so that equal environments are
equal lists. -/
def normalizedRuntimeEnv : Option RuntimeEnv → Option RuntimeEnv
  | none | some [] => none
  | some entries => some (entries.mergeSort (fun left right => !decide (right.1 < left.1)))

namespace TerminalSessionState

variable (session : TerminalSessionState)

def snapshot : TerminalSessionSnapshot where
  threadId := session.threadId
  terminalId := session.terminalId
  cwd := session.cwd
  worktreePath := session.worktreePath
  status := session.status
  pid := session.pid
  history := session.history
  exitCode := session.exitCode
  exitSignal := session.exitSignal
  updatedAt := session.updatedAt

def cleanupProcessHandles : TerminalSessionState := { session with handlers := none }

/-- The three assignments that every reset of the pending events makes. -/
def resetProcessEvents : TerminalSessionState :=
  { session with
    pendingProcessEvents := []
    pendingProcessEventIndex := 0
    processEventDrainRunning := false }

/-- Callbacks and drain loops act for the running process with their pid only. -/
def isCurrent (expectedPid : Nat) : Bool :=
  session.process.isSome && session.status = .running && session.pid = some expectedPid

def enqueueProcessEvent (expectedPid : Nat) (event : PendingProcessEvent) :
    Bool × TerminalSessionState :=
  if session.isCurrent expectedPid then
    let session :=
      { session with pendingProcessEvents := session.pendingProcessEvents ++ [event] }
    if session.processEventDrainRunning then (false, session)
    else (true, { session with processEventDrainRunning := true })
  else (false, session)

def advanceProcessEvents : TerminalSessionState :=
  let index := session.pendingProcessEventIndex + 1
  if index ≥ session.pendingProcessEvents.length then
    { session with pendingProcessEvents := [], pendingProcessEventIndex := 0 }
  else { session with pendingProcessEventIndex := index }

/-- Visible text is appended to the history, which is what is persisted then. -/
def handleOutput (historyLineLimit : Nat) (now data : String) :
    DrainProcessEventAction × TerminalSessionState :=
  let sanitized := sanitizeTerminalHistoryChunk session.pendingHistoryControlSequence data
  let history :=
    if sanitized.visibleText.isEmpty then session.history
    else capHistory (session.history ++ sanitized.visibleText) historyLineLimit
  (.output (if sanitized.visibleText.isEmpty then none else some history) data,
    { session with
      pendingHistoryControlSequence := sanitized.pendingControlSequence
      history := history
      updatedAt := now })

def withoutProcess (now : String) : TerminalSessionState :=
  { session.cleanupProcessHandles.resetProcessEvents with
    process := none
    pid := none
    hasRunningSubprocess := false
    status := .exited
    pendingHistoryControlSequence := ""
    updatedAt := now }

def handleExit (process : PtyProcess) (now : String) (event : PtyExitEvent) :
    DrainProcessEventAction × TerminalSessionState :=
  (.exit process event.exitCode event.signal,
    { session.withoutProcess now with
      exitCode := event.exitCode
      exitSignal := event.signal })

/-- The synchronous part of a round of `drainProcessEvents`. -/
def nextProcessEvent (historyLineLimit expectedPid : Nat) (now : String) :
    DrainProcessEventAction × TerminalSessionState :=
  match session.process with
  | none => (.idle, session.resetProcessEvents)
  | some process =>
    if session.isCurrent expectedPid then
      match session.pendingProcessEvents[session.pendingProcessEventIndex]? with
      | none => (.idle, session.resetProcessEvents)
      | some (.output data) =>
        session.advanceProcessEvents.handleOutput historyLineLimit now data
      | some (.exit event) => session.advanceProcessEvents.handleExit process now event
    else (.idle, session.resetProcessEvents)

/-- The transaction of `stopProcess`; without a process it returns at once. -/
def stopProcess (now : String) : TerminalSessionState :=
  match session.process with
  | none => session
  | some _ => session.withoutProcess now

/-- The transaction of `startSession` before the process is spawned. -/
def startSession (input : TerminalStartInput) (now : String) : TerminalSessionState :=
  { session.resetProcessEvents with
    status := .starting
    cwd := input.cwd
    worktreePath := input.worktreePath
    cols := input.cols
    rows := input.rows
    exitCode := none
    exitSignal := none
    hasRunningSubprocess := false
    updatedAt := now }

/-- The callbacks are registered and the session is marked running. -/
def spawned (process : PtyProcess) (now : String) : TerminalSessionState :=
  { session with
    process := some process
    pid := some process.pid
    status := .running
    updatedAt := now
    handlers := some process }

def startFailed (now : String) : TerminalSessionState :=
  { session.resetProcessEvents with
    status := .error
    pid := none
    process := none
    handlers := none
    hasRunningSubprocess := false
    updatedAt := now }

/-- The session that `open` and `restart` create. -/
def created (input : TerminalStartInput) (history : String) (env : Option RuntimeEnv)
    (now : String) : TerminalSessionState where
  threadId := input.threadId
  terminalId := input.terminalId
  cwd := input.cwd
  worktreePath := input.worktreePath
  status := .starting
  pid := none
  history := history
  pendingHistoryControlSequence := ""
  pendingProcessEvents := []
  pendingProcessEventIndex := 0
  processEventDrainRunning := false
  exitCode := none
  exitSignal := none
  updatedAt := now
  cols := input.cols
  rows := input.rows
  process := none
  handlers := none
  hasRunningSubprocess := false
  runtimeEnv := normalizedRuntimeEnv env

/-- The assignments that `open`, `clear` and `restart` make to empty the history. -/
def clearHistory : TerminalSessionState :=
  { session.resetProcessEvents with history := "", pendingHistoryControlSequence := "" }

/-- The assignments of `clear`. -/
def clear (now : String) : TerminalSessionState := { session.clearHistory with updatedAt := now }

/-- The assignments of `resize`, and of `open` when the size is another. -/
def resize (cols rows : Nat) (now : String) : TerminalSessionState :=
  { session with cols := cols, rows := rows, updatedAt := now }

def unprocessed : List PendingProcessEvent :=
  session.pendingProcessEvents.drop session.pendingProcessEventIndex

variable {session}

@[simp] theorem unprocessed_resetProcessEvents : session.resetProcessEvents.unprocessed = [] :=
  rfl

theorem isCurrent_iff {expectedPid : Nat} : session.isCurrent expectedPid = true ↔
    session.process.isSome ∧ session.status = .running ∧ session.pid = some expectedPid := by
  simp [isCurrent, and_assoc]

theorem unprocessed_advanceProcessEvents {event : PendingProcessEvent}
    (h : session.pendingProcessEvents[session.pendingProcessEventIndex]? = some event) :
    session.unprocessed = event :: session.advanceProcessEvents.unprocessed := by
  obtain ⟨hlt, hevent⟩ := List.getElem?_eq_some_iff.mp h
  simp only [unprocessed, List.drop_eq_getElem_cons hlt, hevent, advanceProcessEvents]
  split
  · rename_i hlast
    simp [List.drop_eq_nil_of_le hlast]
  · rfl

theorem index_advanceProcessEvents :
    session.advanceProcessEvents.pendingProcessEventIndex ≤
      session.advanceProcessEvents.pendingProcessEvents.length := by
  simp only [advanceProcessEvents]
  split
  · exact Nat.zero_le 0
  · show session.pendingProcessEventIndex + 1 ≤ session.pendingProcessEvents.length
    omega

theorem advanceProcessEvents_frame (session : TerminalSessionState) :
    session.advanceProcessEvents.process = session.process ∧
      session.advanceProcessEvents.pid = session.pid ∧
      session.advanceProcessEvents.status = session.status ∧
      session.advanceProcessEvents.handlers = session.handlers ∧
      session.advanceProcessEvents.processEventDrainRunning =
        session.processEventDrainRunning := by
  simp only [advanceProcessEvents]
  split <;> simp

theorem unprocessed_eq_nil
    (h : session.pendingProcessEvents[session.pendingProcessEventIndex]? = none) :
    session.unprocessed = [] := by
  rw [unprocessed, List.drop_eq_nil_iff]
  exact List.getElem?_eq_none_iff.mp h

theorem nextProcessEvent_cases (session : TerminalSessionState)
    (historyLineLimit expectedPid : Nat) (now : String) :
    (session.nextProcessEvent historyLineLimit expectedPid now =
        (.idle, session.resetProcessEvents) ∧
      (session.isCurrent expectedPid = false ∨ session.unprocessed = [])) ∨
    (∃ data, session.isCurrent expectedPid = true ∧
      session.unprocessed = .output data :: session.advanceProcessEvents.unprocessed ∧
      session.nextProcessEvent historyLineLimit expectedPid now =
        session.advanceProcessEvents.handleOutput historyLineLimit now data) ∨
    ∃ process event, session.isCurrent expectedPid = true ∧ session.process = some process ∧
      session.unprocessed = .exit event :: session.advanceProcessEvents.unprocessed ∧
      session.nextProcessEvent historyLineLimit expectedPid now =
        session.advanceProcessEvents.handleExit process now event := by
  cases hprocess : session.process with
  | none => exact Or.inl ⟨by simp [nextProcessEvent, hprocess], by simp [isCurrent, hprocess]⟩
  | some process =>
    cases hcurrent : session.isCurrent expectedPid with
    | false => exact Or.inl ⟨by simp [nextProcessEvent, hprocess, hcurrent], Or.inl rfl⟩
    | true =>
      cases hevent : session.pendingProcessEvents[session.pendingProcessEventIndex]? with
      | none =>
        refine Or.inl ⟨?_, Or.inr (unprocessed_eq_nil hevent)⟩
        simp [nextProcessEvent, hprocess, hcurrent, hevent]
      | some event =>
        have hrest := unprocessed_advanceProcessEvents hevent
        cases event with
        | output data =>
          refine Or.inr (Or.inl ⟨data, rfl, hrest, ?_⟩)
          simp [nextProcessEvent, hprocess, hcurrent, hevent]
        | exit event =>
          refine Or.inr (Or.inr ⟨process, event, rfl, rfl, hrest, ?_⟩)
          simp [nextProcessEvent, hprocess, hcurrent, hevent]

end TerminalSessionState

inductive DrainStage where
  | next
  | queuePersist (history data : String)
  | publishOutput (data : String)
  | clearKillFiber (process : PtyProcess) (exitCode exitSignal : Option Int)
  | publishExited (exitCode exitSignal : Option Int)
  | evictInactiveSessions

structure DrainLoop where
  expectedPid : Nat
  stage : DrainStage

inductive DrainEffect where
  | nothing
  | queuePersist (history : String)
  | publish (type : TerminalEventType)

def DrainProcessEventAction.stage : DrainProcessEventAction → Option DrainStage
  | .idle => none
  | .output (some history) data => some (.queuePersist history data)
  | .output none data => some (.publishOutput data)
  | .exit process exitCode exitSignal => some (.clearKillFiber process exitCode exitSignal)

/-- One step of `drainProcessEvents`, between two suspension points. -/
def DrainLoop.step (historyLineLimit : Nat) (now : String) (loop : DrainLoop)
    (session : TerminalSessionState) : DrainEffect × Option DrainStage × TerminalSessionState :=
  match loop.stage with
  | .next =>
    let (action, session) := session.nextProcessEvent historyLineLimit loop.expectedPid now
    (.nothing, action.stage, session)
  | .queuePersist history data => (.queuePersist history, some (.publishOutput data), session)
  | .publishOutput data => (.publish (.output data), some .next, session)
  | .clearKillFiber _ exitCode exitSignal =>
    (.nothing, some (.publishExited exitCode exitSignal), session)
  | .publishExited exitCode exitSignal =>
    (.publish (.exited exitCode exitSignal), some .evictInactiveSessions, session)
  | .evictInactiveSessions => (.nothing, none, session)

/-- The loops after the one at `i` took its step. -/
def continueLoop (loops : List DrainLoop) (i : Nat) (loop : DrainLoop) :
    Option DrainStage → List DrainLoop
  | none => loops.eraseIdx i
  | some stage => loops.set i { loop with stage := stage }

end GT3Code.Terminal
