import GT3Code.Base.Framing
import GT3Code.Shared.KeyedCoalescingWorker
import GT3Code.Terminal.HistoryNames

/-! # The history file of a terminal

Drain loops change a session's history in one step and queue it for the file in the next.
Requests empty the history, wait for the worker and delete the file in between, so a loop
may queue a history that is no longer the session's. The worker cuts its keys at the NUL
between the ids, so a key with another NUL writes the file of a shorter id.
-/

namespace GT3Code.Terminal

open GT3Code.Base GT3Code.Base.Json GT3Code.Shared
open GT3Code.Base.Utf8 (Unit16)

/-- The schemas admit no empty id. -/
structure TerminalIds where
  threadId : List Unit16
  terminalId : List Unit16
  threadId_ne_nil : threadId ≠ []
  terminalId_ne_nil : terminalId ≠ []

namespace TerminalIds

def toSessionKey (ids : TerminalIds) : List Unit16 := ids.threadId ++ 0 :: ids.terminalId

def historyName (ids : TerminalIds) : Text :=
  Terminal.historyName ids.threadId ids.terminalId

def NulFree (ids : TerminalIds) : Prop := 0 ∉ ids.threadId ∧ 0 ∉ ids.terminalId

instance (ids : TerminalIds) : Decidable ids.NulFree :=
  inferInstanceAs (Decidable (_ ∧ _))

end TerminalIds

/-- The file that `process` writes for a key. -/
def writtenName (sessionKey : List Unit16) : Option Text :=
  match sessionKey.splitOn 0 with
  | threadId :: terminalId :: _ =>
    if threadId = [] ∨ terminalId = [] then none else some (historyName threadId terminalId)
  | _ => none

structure PersistHistoryRequest where
  history : String
  immediate : Bool

def mergeHistory (current next : PersistHistoryRequest) : PersistHistoryRequest where
  history := next.history
  immediate := current.immediate || next.immediate

abbrev PersistWorker := KeyedCoalescingWorker (List Unit16) PersistHistoryRequest

/-- A drain loop with the session object it keeps after a `close` removed it. -/
structure SessionLoop where
  loop : DrainLoop
  closed : Option TerminalSessionState

/-- What the request that holds the lock of the thread does next. The first step of a
request goes up to the `enqueue` of its `persistHistory`. -/
inductive RequestStage where
  | flushEmptied (start : Option TerminalStartInput)
  | startSession (input : TerminalStartInput)
  | spawn
  | publish
  | flushClosed (deletes : Bool)
  | flushAgain (deletes : Bool)
  | removeSession (deletes : Bool)
  | deleteHistory

def RequestStage.deletesHistory : RequestStage → Bool
  | .deleteHistory => true
  | _ => false

/-- `quiet`: no output was called back since the last clear, restart or deleting close began.
`erased`: it emptied or deleted the file, which it does before it returns. -/
structure PersistedTerminal where
  session : Option TerminalSessionState
  loops : List SessionLoop
  worker : PersistWorker
  file : Option String
  request : Option RequestStage
  quiet : Bool
  erased : Bool

inductive HistoryAction where
  | data (data : String)
  | exit (event : PtyExitEvent)
  | drain (i : Nat) (now : String)
  | clear (now : String)
  | restart (input : TerminalOpenInput) (now : String)
  | close (allTerminals deletes : Bool) (now : String)
  | advance (now : String)
  | spawned (process : PtyProcess) (now : String)
  | spawnFailed (now : String)
  | worker (action : WorkerAction (List Unit16) PersistHistoryRequest)

namespace PersistedTerminal

/-- A terminal whose session `open` read from the file and started, or one without a session. -/
def opened (file : Option String) (process : PtyProcess) (input : Option TerminalOpenInput)
    (now : String) : PersistedTerminal where
  session := input.map fun input =>
    ((TerminalSessionState.created input.startInput (file.getD "") input.env now).startSession
      input.startInput now).spawned process now
  loops := []
  worker := makeKeyedCoalescingWorker
  file := file
  request := none
  quiet := false
  erased := false

variable (ids : TerminalIds) (key : List Unit16) (terminal : PersistedTerminal)

def enqueueHistory (history : String) (immediate : Bool) : PersistWorker :=
  enqueueStep mergeHistory key ⟨history, immediate⟩ terminal.worker

def callback (event : PendingProcessEvent) : Option PersistedTerminal :=
  match terminal.session with
  | none => none
  | some session =>
    match session.handlers with
    | none => none
    | some process =>
      let (forks, session) := session.enqueueProcessEvent process.pid event
      some
        { terminal with
          session := some session
          loops :=
            if forks then terminal.loops ++ [⟨⟨process.pid, .next⟩, none⟩]
            else terminal.loops }

/-- The loops after the one at `i` took its step. -/
def continueLoops (i : Nat) (loop : SessionLoop) : Option DrainStage → List SessionLoop
  | none => terminal.loops.eraseIdx i
  | some stage => terminal.loops.set i { loop with loop := { loop.loop with stage := stage } }

def drain (historyLineLimit i : Nat) (now : String) : Option PersistedTerminal :=
  match terminal.loops[i]? with
  | none => none
  | some loop =>
    match loop.closed.or terminal.session with
    | none => none
    | some session =>
      let (effect, stage, session) := loop.loop.step historyLineLimit now session
      let terminal :=
        if loop.closed.isSome then
          { terminal with
            loops := terminal.continueLoops i { loop with closed := some session } stage }
        else
          { terminal with
            session := some session
            loops := terminal.continueLoops i loop stage }
      match effect with
      | .queuePersist history =>
        some { terminal with worker := terminal.enqueueHistory key history false }
      | _ => some terminal

/-! ## Requests -/

def erasing : PersistedTerminal :=
  { terminal with quiet := true, erased := terminal.erased && terminal.quiet }

def clear (now : String) : Option PersistedTerminal :=
  match terminal.request, terminal.session with
  | none, some session =>
    some
      { terminal.erasing with
        session := some (session.clear now)
        worker := terminal.enqueueHistory key "" true
        request := some (.flushEmptied none) }
  | _, _ => none

/-- The session that `restart` goes on with. -/
def restarted (input : TerminalOpenInput) (now : String) : TerminalSessionState :=
  match terminal.session with
  | none => TerminalSessionState.created input.startInput "" input.env now
  | some session =>
    { session.stopProcess now with
      cwd := input.cwd
      worktreePath := input.worktreePath
      runtimeEnv := normalizedRuntimeEnv input.env }

def restart (input : TerminalOpenInput) (now : String) : Option PersistedTerminal :=
  match terminal.request with
  | some _ => none
  | none =>
    let session := terminal.restarted input now
    let start : TerminalStartInput :=
      { input.startInput with
        cols := input.cols.getD session.cols
        rows := input.rows.getD session.rows }
    some
      { terminal.erasing with
        session := some session.clearHistory
        worker := terminal.enqueueHistory key "" true
        request := some (.flushEmptied (some start)) }

/-- `close` of this terminal, or of all terminals of the thread: those without a session are
then not flushed. -/
def close (allTerminals deletes : Bool) (now : String) : Option PersistedTerminal :=
  match terminal.request with
  | some _ => none
  | none =>
    let terminal := if deletes then terminal.erasing else terminal
    match terminal.session with
    | some session =>
      let session := session.stopProcess now
      some
        { terminal with
          session := some session
          worker := terminal.enqueueHistory key session.history true
          request := some (.flushClosed deletes) }
    | none =>
      if !allTerminals then some { terminal with request := some (.flushAgain deletes) }
      else if deletes then some { terminal with request := some .deleteHistory }
      else some terminal

def drained : Bool := drainKey key terminal.worker.state = some ()

def advance (now : String) : Option PersistedTerminal :=
  match terminal.request with
  | some (.flushEmptied start) =>
    if terminal.drained key then
      some
        { terminal with
          erased := true
          request :=
            match start with
            | none => some .publish
            | some input => some (.startSession input) }
    else none
  | some (.startSession input) =>
    some
      { terminal with
        session := terminal.session.map fun session =>
          (session.stopProcess now).startSession input now
        request := some .spawn }
  | some .publish => some { terminal with request := none }
  | some (.flushClosed deletes) =>
    if terminal.drained key then some { terminal with request := some (.flushAgain deletes) }
    else none
  | some (.flushAgain deletes) =>
    if terminal.drained key then some { terminal with request := some (.removeSession deletes) }
    else none
  | some (.removeSession deletes) =>
    some
      { terminal with
        session := none
        loops := terminal.loops.map fun loop =>
          { loop with closed := loop.closed.or terminal.session }
        request := if deletes then some .deleteHistory else none }
  | some .deleteHistory => some { terminal with file := none, erased := true, request := none }
  | some .spawn | none => none

/-- The file after a step of the worker: a call of `process` writes the file its key names. -/
def written : WorkerAction (List Unit16) PersistHistoryRequest → Option String
  | .processEnds _ =>
    match terminal.worker.fiber with
    | .processing sessionKey request =>
      if writtenName sessionKey = some ids.historyName then some request.history
      else terminal.file
    | _ => terminal.file
  | _ => terminal.file

/-- Calls of `process` do not fail, and the other enqueuers are other terminals. -/
def refuses : WorkerAction (List Unit16) PersistHistoryRequest → Bool
  | .enqueue other _ => other == key
  | .processEnds succeeds => !succeeds
  | _ => false

def workerStep (action : WorkerAction (List Unit16) PersistHistoryRequest) :
    Option PersistedTerminal :=
  if refuses ids.toSessionKey action then none
  else
    (terminal.worker.step mergeHistory action).map fun worker =>
      { terminal with worker := worker, file := terminal.written ids action }

def step (historyLineLimit : Nat) (terminal : PersistedTerminal) :
    HistoryAction → Option PersistedTerminal
  | .data data =>
    (terminal.callback (.output data)).map fun next => { next with quiet := false }
  | .exit event => terminal.callback (.exit event)
  | .drain i now => terminal.drain ids.toSessionKey historyLineLimit i now
  | .clear now => terminal.clear ids.toSessionKey now
  | .restart input now => terminal.restart ids.toSessionKey input now
  | .close allTerminals deletes now => terminal.close ids.toSessionKey allTerminals deletes now
  | .advance now => terminal.advance ids.toSessionKey now
  | .spawned process now =>
    match terminal.request with
    | some .spawn =>
      some
        { terminal with
          session := terminal.session.map fun session => session.spawned process now
          request := some .publish }
    | _ => none
  | .spawnFailed now =>
    match terminal.request with
    | some .spawn =>
      some
        { terminal with
          session := terminal.session.map fun session => session.startFailed now
          request := some .publish }
    | _ => none
  | .worker action => terminal.workerStep ids action

end PersistedTerminal

def DrainStage.captured : DrainStage → Option String
  | .queuePersist history _ => some history
  | _ => none

namespace PersistedTerminal

variable (ids : TerminalIds) (key : List Unit16)

/-- After an erasing request the file is empty or absent until there is output again. Where
the worker and the loops are done with the terminal it holds the session's history. -/
structure Persisted (terminal : PersistedTerminal) : Prop where
  gone : terminal.erased = true → terminal.quiet = true → terminal.file.getD "" = ""
  current : terminal.drained key = true →
    (∀ loop ∈ terminal.loops, loop.loop.stage.captured = none) →
    ∀ session, terminal.session = some session → terminal.file.getD "" = session.history

/-- A loop queues the history the session has, nothing but the empty one after a deletion, the
file is deleted when the worker is done with it, and no call for another key writes it. -/
def Current (terminal : PersistedTerminal) : HistoryAction → Prop
  | .drain i _ => ∀ loop ∈ terminal.loops[i]?, ∀ history ∈ loop.loop.stage.captured,
      (∀ session ∈ terminal.session, history = session.history) ∧
      (terminal.session = none → terminal.erased = true → terminal.quiet = true → history = "")
  | .advance _ => ∀ stage ∈ terminal.request, stage.deletesHistory = true →
      terminal.drained ids.toSessionKey = true
  | .worker (.processEnds _) => ∀ sessionKey ∈ terminal.worker.fiber.runningKey,
      writtenName sessionKey = some ids.historyName → sessionKey = ids.toSessionKey
  | _ => True

end PersistedTerminal

def TerminalSessionState.Blank (session : TerminalSessionState) : Prop :=
  session.history = "" ∧ ∀ event ∈ session.unprocessed, event.isExit = true

namespace PersistedTerminal

/-! ## What the file comes to hold -/

variable (ids : TerminalIds) (key : List Unit16)

/-- The text the file holds when the worker is done with the terminal. -/
def eventual (terminal : PersistedTerminal) : String :=
  ((terminal.worker.unfinished key).getLast?.map PersistHistoryRequest.history).getD
    (terminal.file.getD "")

def Clean (terminal : PersistedTerminal) : Prop :=
  terminal.file.getD "" = "" ∧
    ∀ request ∈ terminal.worker.unfinished key, request.history = ""

structure Follows (terminal : PersistedTerminal) : Prop where
  worker : terminal.worker.Consistent
  history : ∀ session, terminal.session = some session →
    terminal.eventual key = session.history ∨
      ∃ loop ∈ terminal.loops, loop.loop.stage.captured = some session.history
  deleting : terminal.request = some .deleteHistory → terminal.session = none
  emptied : terminal.quiet = true → ∀ start, terminal.request = some (.flushEmptied start) →
    terminal.eventual key = "" ∧ ∃ session, terminal.session = some session ∧ session.Blank
  erased : terminal.erased = true → terminal.quiet = true →
    terminal.Clean key ∧ ∀ session, terminal.session = some session → session.Blank

variable {ids} {key} {terminal next : PersistedTerminal}

theorem eventual_of_drained (h : terminal.worker.Consistent)
    (hdrained : terminal.drained key = true) : terminal.eventual key = terminal.file.getD "" := by
  have hnone := h.unfinished_drained (of_decide_eq_true hdrained)
  simp [eventual, hnone]

theorem Follows.persisted (h : terminal.Follows key) : terminal.Persisted key where
  gone herased hquiet := (h.erased herased hquiet).1.1
  current := by
    intro hdrained hloops session hsession
    rw [← eventual_of_drained h.worker hdrained]
    rcases h.history session hsession with hcurrent | ⟨loop, hmem, hcaptured⟩
    · exact hcurrent
    · cases (hloops loop hmem).symm.trans hcaptured

theorem history_joinValue (waiting : Option PersistHistoryRequest)
    (request : PersistHistoryRequest) :
    (joinValue mergeHistory waiting request).history = request.history := by
  cases waiting <;> rfl

theorem eventual_enqueueHistory (history : String) (immediate : Bool)
    (hworker : next.worker = terminal.enqueueHistory key history immediate) :
    next.eventual key = history := by
  rw [eventual, hworker, enqueueHistory, KeyedCoalescingWorker.unfinished_enqueueStep_self]
  simp [history_joinValue]

theorem Clean.enqueueHistory (h : terminal.Clean key) (immediate : Bool)
    (hworker : next.worker = terminal.enqueueHistory key "" immediate)
    (hfile : next.file = terminal.file) : next.Clean key := by
  refine ⟨hfile ▸ h.1, ?_⟩
  rw [hworker, PersistedTerminal.enqueueHistory,
    KeyedCoalescingWorker.unfinished_enqueueStep_self]
  intro request hmem
  rw [List.mem_append, List.mem_singleton] at hmem
  rcases hmem with hrunning | rfl
  · exact h.2 request (List.mem_append_left _ hrunning)
  · exact history_joinValue _ _

variable {action : WorkerAction (List Unit16) PersistHistoryRequest} {i historyLineLimit : Nat}
  {session : TerminalSessionState} {now : String}

theorem writtenName_toSessionKey (h : ids.NulFree) :
    writtenName ids.toSessionKey = some ids.historyName := by
  have hpieces : ids.toSessionKey.splitOn 0 = [ids.threadId, ids.terminalId] :=
    splitOn_of_intercalate (List.cons_ne_nil _ _) (by simpa [TerminalIds.NulFree] using h) (by
      simp [TerminalIds.toSessionKey, List.intercalate, List.intersperse])
  simp only [writtenName, hpieces, ids.threadId_ne_nil, ids.terminalId_ne_nil, or_self, if_false]
  rfl

theorem written_processEnds (hids : ids.NulFree) {succeeds : Bool}
    (hcurrent : terminal.Current ids (.worker (.processEnds succeeds))) :
    terminal.written ids (.processEnds succeeds) =
      match terminal.worker.fiber.runningValue ids.toSessionKey with
      | some request => some request.history
      | none => terminal.file := by
  simp only [PersistedTerminal.Current] at hcurrent
  simp only [written]
  cases hfiber : terminal.worker.fiber with
  | processing sessionKey request =>
    have hown := hcurrent sessionKey (by simp [hfiber, WorkerFiber.runningKey])
    by_cases hkey : sessionKey = ids.toSessionKey
    · simp [hkey, writtenName_toSessionKey hids, WorkerFiber.runningValue]
    · simp [mt hown hkey, hkey, WorkerFiber.runningValue]
  | taking | taken | processed | failed | requeueing => rfl

theorem unfinished_workerStep (hids : ids.NulFree)
    (hcurrent : terminal.Current ids (.worker action))
    (h : terminal.workerStep ids action = some next) :
    (next.worker.unfinished ids.toSessionKey = terminal.worker.unfinished ids.toSessionKey ∧
      next.file = terminal.file) ∨
    ∃ request, terminal.worker.unfinished ids.toSessionKey =
        request :: next.worker.unfinished ids.toSessionKey ∧
      next.file = some request.history := by
  simp only [workerStep] at h
  split at h
  · cases h
  · rename_i hallowed
    obtain ⟨worker, hstep, rfl⟩ := Option.map_eq_some_iff.mp h
    cases action with
    | enqueue other value =>
      have hother : ids.toSessionKey ≠ other := by
        intro hkey
        simp [refuses, hkey] at hallowed
      simp only [KeyedCoalescingWorker.step, Option.some.injEq] at hstep
      left
      rw [← hstep]
      exact ⟨KeyedCoalescingWorker.unfinished_enqueueStep_of_ne hother _ _, rfl⟩
    | take | start | next | cleanup | requeue =>
      exact Or.inl ⟨KeyedCoalescingWorker.unfinished_step rfl (by simp) hstep _, rfl⟩
    | processEnds succeeds =>
      have hends := KeyedCoalescingWorker.unfinished_processEnds hstep ids.toSessionKey
      have hwritten := written_processEnds hids hcurrent
      cases hrunning : terminal.worker.fiber.runningValue ids.toSessionKey with
      | none =>
        rw [hrunning] at hends hwritten
        exact Or.inl ⟨hends.symm, hwritten⟩
      | some request =>
        rw [hrunning] at hends hwritten
        exact Or.inr ⟨request, hends, hwritten⟩

theorem eventual_workerStep (hids : ids.NulFree)
    (hcurrent : terminal.Current ids (.worker action))
    (h : terminal.workerStep ids action = some next) :
    next.eventual ids.toSessionKey = terminal.eventual ids.toSessionKey := by
  rcases unfinished_workerStep hids hcurrent h with ⟨hsame, hfile⟩ | ⟨request, hdone, hfile⟩
  · rw [eventual, hsame, hfile, eventual]
  · simp only [eventual, hdone, hfile]
    cases next.worker.unfinished ids.toSessionKey with
    | nil => rfl
    | cons other rest =>
      have hlast := List.getLast?_eq_some_getLast (List.cons_ne_nil other rest)
      rw [List.getLast?_cons_cons, hlast]
      rfl

theorem Clean.workerStep (hclean : terminal.Clean ids.toSessionKey) (hids : ids.NulFree)
    (hcurrent : terminal.Current ids (.worker action))
    (h : terminal.workerStep ids action = some next) : next.Clean ids.toSessionKey := by
  rcases unfinished_workerStep hids hcurrent h with ⟨hsame, hfile⟩ | ⟨request, hdone, hfile⟩
  · exact ⟨by rw [hfile]; exact hclean.1, by rw [hsame]; exact hclean.2⟩
  · have hempty := hclean.2
    rw [hdone] at hempty
    constructor
    · rw [hfile]
      exact hempty request List.mem_cons_self
    · exact fun other hmem => hempty other (List.mem_cons_of_mem _ hmem)

theorem Follows.workerStep (hfollows : terminal.Follows ids.toSessionKey) (hids : ids.NulFree)
    (hcurrent : terminal.Current ids (.worker action))
    (h : terminal.workerStep ids action = some next) : next.Follows ids.toSessionKey := by
  have heventual := eventual_workerStep hids hcurrent h
  have hclean := fun hclean : terminal.Clean ids.toSessionKey =>
    hclean.workerStep hids hcurrent h
  simp only [PersistedTerminal.workerStep] at h
  split at h
  · cases h
  · obtain ⟨worker, hstep, rfl⟩ := Option.map_eq_some_iff.mp h
    obtain ⟨hworker, hhistory, hdeleting, hemptied, herased⟩ := hfollows
    constructor
    · exact hworker.step hstep
    · rw [heventual]
      exact hhistory
    · exact hdeleting
    · rw [heventual]
      exact hemptied
    · intro hgone hquiet
      exact ⟨hclean (herased hgone hquiet).1, (herased hgone hquiet).2⟩

theorem Follows.frame (h : terminal.Follows key) (hworker : next.worker = terminal.worker)
    (hfile : next.file = terminal.file) (herased : next.erased = terminal.erased)
    (hquiet : next.quiet = true → terminal.quiet = true)
    (hrequest : next.request = terminal.request ∨
      ∃ stage, next.request = some stage ∧ stage ≠ .deleteHistory ∧
        ∀ start, stage ≠ .flushEmptied start)
    (hheld : ∀ loop ∈ terminal.loops, loop.loop.stage.captured ≠ none →
      ∃ other ∈ next.loops, other.loop.stage.captured = loop.loop.stage.captured)
    (hsession : ∀ session, next.session = some session → ∃ before,
      terminal.session = some before ∧
      (session.history = before.history ∨
        ∃ loop ∈ next.loops, loop.loop.stage.captured = some session.history) ∧
      (next.quiet = true → before.Blank → session.Blank))
    (hsome : next.session.isSome = terminal.session.isSome) : next.Follows key := by
  have heventual : next.eventual key = terminal.eventual key := by
    rw [eventual, hworker, hfile, eventual]
  constructor
  · rw [hworker]
    exact h.worker
  · intro session hnext
    obtain ⟨before, hbefore, hhistory, -⟩ := hsession session hnext
    rcases hhistory with hsame | hcaptured
    · rw [heventual, hsame]
      rcases h.history before hbefore with hcurrent | ⟨loop, hmem, hcaptured⟩
      · exact Or.inl hcurrent
      · obtain ⟨other, hother, hstage⟩ := hheld loop hmem (by simp [hcaptured])
        exact Or.inr ⟨other, hother, hstage.trans hcaptured⟩
    · exact Or.inr hcaptured
  · intro hdeleting
    rcases hrequest with hsame | ⟨stage, hstage, hother, -⟩
    · have hnone := h.deleting (hsame.symm.trans hdeleting)
      rw [hnone] at hsome
      simpa using hsome
    · cases hstage.symm.trans hdeleting
      exact absurd rfl hother
  · intro hnext start hstart
    rcases hrequest with hsame | ⟨stage, hstage, -, hother⟩
    · obtain ⟨hempty, before, hbefore, hblank⟩ :=
        h.emptied (hquiet hnext) start (hsame.symm.trans hstart)
      rw [hbefore, Option.isSome_some, Option.isSome_iff_exists] at hsome
      obtain ⟨session, hsessionNext⟩ := hsome
      obtain ⟨other, hother, -, hkeeps⟩ := hsession session hsessionNext
      cases hbefore.symm.trans hother
      exact ⟨heventual.trans hempty, session, hsessionNext, hkeeps hnext hblank⟩
    · cases hstage.symm.trans hstart
      exact absurd rfl (hother start)
  · intro hgone hnext
    obtain ⟨hclean, hblank⟩ := h.erased (herased.symm.trans hgone) (hquiet hnext)
    constructor
    · refine ⟨hfile ▸ hclean.1, ?_⟩
      rw [hworker]
      exact hclean.2
    · intro session hsessionNext
      obtain ⟨before, hbefore, -, hkeeps⟩ := hsession session hsessionNext
      exact hkeeps hnext (hblank before hbefore)

theorem Follows.callback (h : terminal.Follows key) {event : PendingProcessEvent}
    (hnext : terminal.callback event = some next) :
    Follows key { next with quiet := next.quiet && event.isExit } := by
  simp only [PersistedTerminal.callback] at hnext
  split at hnext
  · cases hnext
  · rename_i session hsession
    split at hnext
    · cases hnext
    · rename_i process hhandlers
      cases hnext
      have hhistory : (session.enqueueProcessEvent process.pid event).2.history =
          session.history := by
        simp only [TerminalSessionState.enqueueProcessEvent]
        split
        · split <;> rfl
        · rfl
      have hwaiting : ∀ other,
          other ∈ (session.enqueueProcessEvent process.pid event).2.unprocessed →
            other ∈ session.unprocessed ∨ other = event := by
        intro other hother
        simp only [TerminalSessionState.enqueueProcessEvent] at hother
        split at hother
        · split at hother
          all_goals
            simp only [TerminalSessionState.unprocessed, List.drop_append, List.mem_append]
              at hother
            exact hother.imp id (fun hlast => by simpa using List.mem_of_mem_drop hlast)
        · exact Or.inl hother
      refine h.frame rfl rfl rfl ?_ (Or.inl rfl) ?_ ?_ (by simp [hsession])
      · intro hquiet
        exact (Bool.and_eq_true_iff.mp hquiet).1
      · intro loop hmem _
        refine ⟨loop, ?_, rfl⟩
        simp only
        split
        · exact List.mem_append_left _ hmem
        · exact hmem
      · intro other hother
        cases hother
        refine ⟨session, hsession, Or.inl hhistory, ?_⟩
        rintro hquiet ⟨hempty, hexits⟩
        refine ⟨hhistory.trans hempty, ?_⟩
        intro waiting hmem
        rcases hwaiting waiting hmem with hold | rfl
        · exact hexits waiting hold
        · exact (Bool.and_eq_true_iff.mp hquiet).2

theorem mem_continueLoops {loop moved other : SessionLoop} {stage : Option DrainStage}
    (hloop : terminal.loops[i]? = some loop) (hnone : loop.loop.stage.captured = none)
    (hmem : other ∈ terminal.loops) (hcaptured : other.loop.stage.captured ≠ none) :
    other ∈ terminal.continueLoops i moved stage := by
  obtain ⟨j, hj⟩ := List.mem_iff_getElem?.mp hmem
  have hne : i ≠ j := by
    rintro rfl
    cases hloop.symm.trans hj
    exact hcaptured hnone
  cases stage with
  | none =>
    refine List.mem_eraseIdx_iff_getElem?.mpr ⟨j, hne.symm, hj⟩
  | some stage =>
    refine List.mem_iff_getElem?.mpr ⟨j, ?_⟩
    simp only [continueLoops]
    rw [List.getElem?_set_ne hne]
    exact hj

theorem history_of_nextProcessEvent {after : TerminalSessionState}
    {action : DrainProcessEventAction} {expectedPid : Nat}
    (h : session.nextProcessEvent historyLineLimit expectedPid now = (action, after)) :
    (after.history = session.history ∨
      ∃ stage, action.stage = some stage ∧ stage.captured = some after.history) ∧
    (session.Blank → after.Blank) := by
  rcases session.nextProcessEvent_cases historyLineLimit expectedPid now with
    ⟨hresult, -⟩ | ⟨data, -, hwaiting, hresult⟩ | ⟨process, event, -, -, -, hresult⟩
  · cases hresult.symm.trans h
    refine ⟨Or.inl rfl, fun hblank => ⟨hblank.1, fun _ h => by cases h⟩⟩
  · constructor
    · have hhistory : session.advanceProcessEvents.history = session.history := by
        simp only [TerminalSessionState.advanceProcessEvents]
        split <;> rfl
      rw [hresult] at h
      simp only [TerminalSessionState.handleOutput, Prod.mk.injEq] at h
      obtain ⟨rfl, rfl⟩ := h
      split
      · exact Or.inl hhistory
      · exact Or.inr ⟨_, rfl, rfl⟩
    · intro hblank
      have houtput := hblank.2 (.output data) (by simp [hwaiting])
      cases houtput
  · cases hresult.symm.trans h
    have hhistory : session.advanceProcessEvents.history = session.history := by
      simp only [TerminalSessionState.advanceProcessEvents]
      split <;> rfl
    exact ⟨Or.inl hhistory, fun hblank => ⟨hhistory.trans hblank.1, fun _ h => by cases h⟩⟩

theorem Follows.queue (h : terminal.Follows key) {history : String}
    (hcurrent : (∀ session ∈ terminal.session, history = session.history) ∧
      (terminal.session = none → terminal.erased = true → terminal.quiet = true →
        history = ""))
    (hworker : next.worker = terminal.enqueueHistory key history false)
    (hsession : next.session = terminal.session) (hfile : next.file = terminal.file)
    (hrequest : next.request = terminal.request) (hquiet : next.quiet = terminal.quiet)
    (herased : next.erased = terminal.erased) : next.Follows key := by
  have heventual := eventual_enqueueHistory history false hworker
  obtain ⟨hempty, hgone⟩ := hcurrent
  constructor
  · rw [hworker]
    exact h.worker.enqueueStep key ⟨history, false⟩
  · intro session hnext
    exact Or.inl (heventual.trans (hempty session (hsession.symm.trans hnext)))
  · rw [hrequest, hsession]
    exact h.deleting
  · rw [hquiet, hrequest, hsession]
    intro hnext start hstart
    obtain ⟨-, session, hsome, hblank⟩ := h.emptied hnext start hstart
    exact ⟨heventual.trans ((hempty session hsome).trans hblank.1), session, hsome, hblank⟩
  · rw [herased, hquiet, hsession]
    intro herasedNow hnext
    obtain ⟨hclean, hblank⟩ := h.erased herasedNow hnext
    refine ⟨hclean.enqueueHistory false ?_ hfile, hblank⟩
    rw [hworker]
    cases hsome : terminal.session with
    | none =>
      rw [hgone hsome herasedNow hnext]
    | some session => rw [hempty session hsome, (hblank session hsome).1]

theorem drain_eq_some (h : terminal.drain key historyLineLimit i now = some next) :
    ∃ loop session effect stage after, terminal.loops[i]? = some loop ∧
      loop.closed.or terminal.session = some session ∧
      loop.loop.step historyLineLimit now session = (effect, stage, after) ∧
      next.session = (if loop.closed.isSome then terminal.session else some after) ∧
      (∃ closed, next.loops = terminal.continueLoops i { loop with closed := closed } stage) ∧
      next.worker = (match effect with
        | .queuePersist history => terminal.enqueueHistory key history false
        | _ => terminal.worker) ∧
      next.file = terminal.file ∧ next.request = terminal.request ∧
      next.quiet = terminal.quiet ∧ next.erased = terminal.erased := by
  simp only [drain] at h
  split at h
  · cases h
  · rename_i loop hloop
    split at h
    · cases h
    · rename_i session hsession
      cases hstep : loop.loop.step historyLineLimit now session with
      | mk effect rest =>
        obtain ⟨stage, after⟩ := rest
        rw [hstep] at h
        refine ⟨loop, session, effect, stage, after, hloop, hsession, hstep, ?_⟩
        cases hclosed : loop.closed.isSome with
        | true =>
          simp only [hclosed, if_true] at h
          cases effect
          all_goals
            cases h
            exact ⟨rfl, ⟨some after, rfl⟩, rfl, rfl, rfl, rfl, rfl⟩
        | false =>
          simp only [hclosed, Bool.false_eq_true, if_false] at h
          cases effect
          all_goals
            cases h
            exact ⟨rfl, ⟨loop.closed, rfl⟩, rfl, rfl, rfl, rfl, rfl⟩

theorem Follows.drain (h : terminal.Follows ids.toSessionKey)
    (hcurrent : terminal.Current ids (.drain i now))
    (hdrain : terminal.drain ids.toSessionKey historyLineLimit i now = some next) :
    next.Follows ids.toSessionKey := by
  obtain ⟨loop, session, effect, stage, after, hloop, hsource, hstep, hsession,
    ⟨closed, hloops⟩, hworker, hfile, hrequest, hquiet, herased⟩ := drain_eq_some hdrain
  have hunchanged : after = session → next.session = terminal.session := by
    intro hafter
    rw [hsession, hafter]
    cases hclosed : loop.closed with
    | none =>
      rw [hclosed, Option.none_or] at hsource
      simp [hsource]
    | some object => simp
  have hheld : loop.loop.stage.captured = none → ∀ other ∈ terminal.loops,
      other.loop.stage.captured ≠ none →
      ∃ kept ∈ next.loops, kept.loop.stage.captured = other.loop.stage.captured := by
    intro hnone other hmem hcaptured
    refine ⟨other, ?_, rfl⟩
    rw [hloops]
    exact mem_continueLoops hloop hnone hmem hcaptured
  -- a step that neither queues nor changes the session
  have hquietly : next.worker = terminal.worker → loop.loop.stage.captured = none →
      after = session → next.Follows ids.toSessionKey := by
    intro hsame hnone hafter
    have hkept := hunchanged hafter
    refine h.frame hsame hfile herased (fun hnext => hquiet ▸ hnext) (Or.inl hrequest)
      (hheld hnone) ?_ (by rw [hkept])
    intro object hobject
    exact ⟨object, hkept ▸ hobject, Or.inl rfl, fun _ hblank => hblank⟩
  simp only [DrainLoop.step] at hstep
  split at hstep
  · rename_i hstage
    have hnone : loop.loop.stage.captured = none := by simp [hstage, DrainStage.captured]
    obtain ⟨hhistory, hblank⟩ := history_of_nextProcessEvent (Prod.eta _).symm
    cases hstep
    cases hclosed : loop.closed with
    | some object =>
      simp only [hclosed, Option.isSome_some, if_true] at hsession
      refine h.frame hworker hfile herased (fun hnext => hquiet ▸ hnext) (Or.inl hrequest)
        (hheld hnone) ?_ (by rw [hsession])
      intro other hother
      exact ⟨other, hsession ▸ hother, Or.inl rfl, fun _ hkept => hkept⟩
    | none =>
      rw [hclosed, Option.none_or] at hsource
      simp only [hclosed, Option.isSome_none, Bool.false_eq_true, if_false] at hsession
      refine h.frame hworker hfile herased (fun hnext => hquiet ▸ hnext) (Or.inl hrequest)
        (hheld hnone) ?_ (by rw [hsession, hsource]; rfl)
      intro other hother
      cases hsession.symm.trans hother
      refine ⟨session, hsource, ?_, fun _ => hblank⟩
      rcases hhistory with hsame | ⟨taken, htaken, hcaptured⟩
      · exact Or.inl hsame
      · refine Or.inr ⟨{ loop := { loop.loop with stage := taken }, closed := closed }, ?_,
          hcaptured⟩
        rw [hloops, htaken]
        exact List.mem_set (List.getElem?_eq_some_iff.mp hloop).1 _
  · rename_i history data hstage
    cases hstep
    have hcaptured : loop.loop.stage.captured = some history := by
      simp [hstage, DrainStage.captured]
    refine h.queue (hcurrent loop hloop history hcaptured) hworker
      (hunchanged rfl) hfile hrequest hquiet herased
  all_goals
    rename_i hstage
    cases hstep
    exact hquietly hworker (by simp [hstage, DrainStage.captured]) rfl

/-! ## Requests -/

variable {start : Option TerminalStartInput} {deletes : Bool} {request stage : Option RequestStage}

theorem Follows.empty (h : terminal.Follows key) (hblank : session.Blank)
    (hsession : next.session = some session)
    (hworker : next.worker = terminal.enqueueHistory key "" true)
    (hfile : next.file = terminal.file) (hrequest : next.request = some (.flushEmptied start))
    (herased : next.erased = (terminal.erased && terminal.quiet)) : next.Follows key := by
  have heventual := eventual_enqueueHistory "" true hworker
  constructor
  · rw [hworker]
    exact h.worker.enqueueStep key ⟨"", true⟩
  · intro other hother
    cases hsession.symm.trans hother
    exact Or.inl (heventual.trans hblank.1.symm)
  · intro hdeleting
    cases hrequest.symm.trans hdeleting
  · intro _ _ _
    exact ⟨heventual, session, hsession, hblank⟩
  · intro hgone _
    obtain ⟨hbefore, hquiet⟩ := Bool.and_eq_true_iff.mp (herased.symm.trans hgone)
    refine ⟨(h.erased hbefore hquiet).1.enqueueHistory true hworker hfile, ?_⟩
    intro other hother
    cases hsession.symm.trans hother
    exact hblank

theorem blank_clearHistory (session : TerminalSessionState) : session.clearHistory.Blank :=
  ⟨rfl, fun _ h => by cases h⟩

theorem Follows.clear (h : terminal.Follows key) (hnext : terminal.clear key now = some next) :
    next.Follows key := by
  simp only [PersistedTerminal.clear] at hnext
  split at hnext
  · rename_i session hrequest hsession
    cases hnext
    have hblank : (session.clear now).Blank := blank_clearHistory session
    exact h.empty hblank rfl rfl rfl rfl rfl
  · cases hnext

theorem Follows.restart (h : terminal.Follows key) {input : TerminalOpenInput}
    (hnext : terminal.restart key input now = some next) : next.Follows key := by
  simp only [PersistedTerminal.restart] at hnext
  split at hnext
  · cases hnext
  · cases hnext
    exact h.empty (blank_clearHistory _) rfl rfl rfl rfl rfl

theorem history_stopProcess (session : TerminalSessionState) (now : String) :
    (session.stopProcess now).history = session.history := by
  simp only [TerminalSessionState.stopProcess]
  split <;> rfl

theorem Blank.stopProcess (h : session.Blank) (now : String) : (session.stopProcess now).Blank := by
  refine ⟨(history_stopProcess session now).trans h.1, ?_⟩
  simp only [TerminalSessionState.stopProcess]
  split
  · exact h.2
  · exact fun _ h => by cases h

theorem Follows.erasing (h : terminal.Follows key) (hrequest : terminal.request = none) :
    terminal.erasing.Follows key where
  worker := h.worker
  history := h.history
  deleting hdeleting := by cases hrequest.symm.trans hdeleting
  emptied _ start hstart := by cases hrequest.symm.trans hstart
  erased hgone _ := by
    obtain ⟨hbefore, hquiet⟩ := Bool.and_eq_true_iff.mp hgone
    exact h.erased hbefore hquiet

theorem Follows.closing (h : terminal.Follows key) (hsession : terminal.session = some session)
    {stopped : TerminalSessionState} (hhistory : stopped.history = session.history)
    (hblank : session.Blank → stopped.Blank) : Follows key { terminal with
      session := some stopped
      worker := terminal.enqueueHistory key stopped.history true
      request := some (.flushClosed deletes) } := by
  constructor
  · exact h.worker.enqueueStep key ⟨stopped.history, true⟩
  · intro other hother
    cases hother
    exact Or.inl (eventual_enqueueHistory stopped.history true rfl)
  · exact fun h => by cases h
  · exact fun _ _ h => by cases h
  · intro hgone hquiet
    obtain ⟨hclean, hbefore⟩ := h.erased hgone hquiet
    have hempty := hbefore session hsession
    constructor
    · refine hclean.enqueueHistory true ?_ rfl
      rw [hhistory, hempty.1]
    · intro other hother
      cases hother
      exact hblank hempty

theorem Follows.sessionless (h : terminal.Follows key) (hsession : terminal.session = none)
    (hrequest : ∀ start, request ≠ some (.flushEmptied start)) :
    Follows key { terminal with request := request } where
  worker := h.worker
  history := h.history
  deleting _ := hsession
  emptied _ start hstart := absurd hstart (hrequest start)
  erased := h.erased

theorem Follows.close (h : terminal.Follows key) {allTerminals : Bool}
    (hnext : terminal.close key allTerminals deletes now = some next) : next.Follows key := by
  simp only [PersistedTerminal.close] at hnext
  split at hnext
  · cases hnext
  · rename_i hrequest
    have hbegun : Follows key (if deletes then terminal.erasing else terminal) := by
      split
      · exact h.erasing hrequest
      · exact h
    generalize (if deletes then terminal.erasing else terminal) = begun at hnext hbegun
    split at hnext
    · rename_i session hsession
      cases hnext
      exact hbegun.closing hsession (history_stopProcess session now)
        (fun hblank => Blank.stopProcess hblank now)
    · rename_i hsession
      split at hnext
      · cases hnext
        exact hbegun.sessionless hsession (by simp)
      · split at hnext
        · cases hnext
          exact hbegun.sessionless hsession (by simp)
        · cases hnext
          exact hbegun

theorem Follows.proceed (h : terminal.Follows key)
    {change : TerminalSessionState → TerminalSessionState}
    (hstage : ∀ other, stage = some other → other ≠ .deleteHistory ∧
      ∀ start, other ≠ .flushEmptied start)
    (hhistory : ∀ session, (change session).history = session.history)
    (hblank : ∀ session : TerminalSessionState, session.Blank → (change session).Blank) :
    Follows key { terminal with session := terminal.session.map change, request := stage } := by
  have hsession : ∀ session, terminal.session.map change = some session →
      ∃ before, terminal.session = some before ∧ change before = session :=
    fun session hsome => Option.map_eq_some_iff.mp hsome
  constructor
  · exact h.worker
  · intro session hsome
    obtain ⟨before, hbefore, rfl⟩ := hsession session hsome
    rw [hhistory]
    exact h.history before hbefore
  · intro hdeleting
    exact absurd rfl (hstage _ hdeleting).1
  · intro _ start hstart
    exact absurd rfl ((hstage _ hstart).2 start)
  · intro hgone hquiet
    obtain ⟨hclean, hbefore⟩ := h.erased hgone hquiet
    refine ⟨hclean, ?_⟩
    intro session hsome
    obtain ⟨before, hsessionBefore, rfl⟩ := hsession session hsome
    exact hblank before (hbefore before hsessionBefore)

theorem Follows.proceed_same (h : terminal.Follows key)
    (hstage : ∀ other, stage = some other → other ≠ .deleteHistory ∧
      ∀ start, other ≠ .flushEmptied start) :
    Follows key { terminal with request := stage } := by
  have hproceed : Follows key
      { terminal with session := terminal.session.map id, request := stage } :=
    h.proceed hstage (fun _ => rfl) (fun _ hblank => hblank)
  rw [Option.map_id] at hproceed
  exact hproceed

theorem Follows.flushed (h : terminal.Follows key) (hdrained : terminal.drained key = true)
    (hrequest : terminal.request = some (.flushEmptied start)) {stage : RequestStage}
    (hstage : stage ≠ .deleteHistory ∧
      ∀ start, stage ≠ .flushEmptied start) :
    Follows key { terminal with erased := true, request := some stage } where
  worker := h.worker
  history := h.history
  deleting hdeleting := by
    cases hdeleting
    exact absurd rfl hstage.1
  emptied _ other hother := by
    cases hother
    exact absurd rfl (hstage.2 other)
  erased _ hquiet := by
    obtain ⟨hempty, session, hsession, hblank⟩ := h.emptied hquiet start hrequest
    have hnone := h.worker.unfinished_drained (of_decide_eq_true hdrained)
    rw [eventual_of_drained h.worker hdrained] at hempty
    constructor
    · refine ⟨hempty, ?_⟩
      simp [hnone]
    · intro other hother
      cases hsession.symm.trans hother
      exact hblank

theorem Follows.removed (h : terminal.Follows key) {loops : List SessionLoop}
    (hrequest : ∀ start, request ≠ some (.flushEmptied start)) :
    Follows key { terminal with session := none, loops := loops, request := request } where
  worker := h.worker
  history _ hsome := by cases hsome
  deleting _ := rfl
  emptied _ start hstart := absurd hstart (hrequest start)
  erased hgone hquiet := ⟨(h.erased hgone hquiet).1, fun _ hsome => by cases hsome⟩

theorem Follows.deleted (h : terminal.Follows key)
    (hrequest : terminal.request = some .deleteHistory) (hdrained : terminal.drained key = true) :
    Follows key { terminal with file := none, erased := true, request := none } := by
  have hsession := h.deleting hrequest
  have hnone := h.worker.unfinished_drained (of_decide_eq_true hdrained)
  constructor
  · exact h.worker
  · intro session hsome
    cases hsession.symm.trans hsome
  · exact fun h => by cases h
  · exact fun _ _ h => by cases h
  · intro _ _
    constructor
    · refine ⟨rfl, ?_⟩
      simp [hnone]
    · intro session hsome
      cases hsession.symm.trans hsome

theorem Follows.advance (h : terminal.Follows ids.toSessionKey)
    (hcurrent : terminal.Current ids (.advance now))
    (hnext : terminal.advance ids.toSessionKey now = some next) :
    next.Follows ids.toSessionKey := by
  simp only [PersistedTerminal.advance] at hnext
  split at hnext
  · rename_i start hrequest
    split at hnext
    · rename_i hdrained
      cases hnext
      cases start with
      | none | some => exact h.flushed hdrained hrequest (by simp)
    · cases hnext
  · rename_i input hrequest
    cases hnext
    refine h.proceed (by simp) ?_ ?_
    · exact fun session => history_stopProcess session now
    · exact fun session hblank => ⟨(history_stopProcess session now).trans hblank.1,
        fun _ h => by cases h⟩
  · cases hnext
    exact h.proceed_same (by simp)
  · split at hnext
    · cases hnext
      exact h.proceed_same (by simp)
    · cases hnext
  · split at hnext
    · cases hnext
      exact h.proceed_same (by simp)
    · cases hnext
  · rename_i deletes hrequest
    cases hnext
    cases deletes with
    | true => exact h.removed (by simp)
    | false => exact h.removed (by simp)
  · rename_i hrequest
    cases hnext
    exact h.deleted hrequest (hcurrent _ hrequest rfl)
  · cases hnext
  · cases hnext

theorem Follows.step (h : terminal.Follows ids.toSessionKey) (hids : ids.NulFree)
    {action : HistoryAction} (hcurrent : terminal.Current ids action)
    (hstep : terminal.step ids historyLineLimit action = some next) :
    next.Follows ids.toSessionKey := by
  cases action with
  | data data =>
    obtain ⟨called, hcallback, rfl⟩ := Option.map_eq_some_iff.mp hstep
    have hcalled := h.callback hcallback
    rwa [PendingProcessEvent.isExit, Bool.and_false] at hcalled
  | exit event =>
    have hcalled := h.callback hstep
    rwa [PendingProcessEvent.isExit, Bool.and_true] at hcalled
  | drain i now => exact h.drain hcurrent hstep
  | clear now => exact h.clear hstep
  | restart input now => exact h.restart hstep
  | close allTerminals deletes now => exact h.close hstep
  | advance now => exact h.advance hcurrent hstep
  | spawned process now =>
    simp only [PersistedTerminal.step] at hstep
    split at hstep
    · cases hstep
      exact h.proceed (by simp) (fun _ => rfl) (fun _ hblank => hblank)
    · cases hstep
  | spawnFailed now =>
    simp only [PersistedTerminal.step] at hstep
    split at hstep
    · cases hstep
      exact h.proceed (by simp) (fun _ => rfl)
        (fun _ hblank => ⟨hblank.1, fun _ h => by cases h⟩)
    · cases hstep
  | worker action => exact h.workerStep hids hcurrent hstep

theorem follows_opened (file : Option String) (process : PtyProcess)
    (input : Option TerminalOpenInput) (now : String) :
    Follows key (opened file process input now) where
  worker := KeyedCoalescingWorker.consistent_makeKeyedCoalescingWorker
  history := by
    intro session hsession
    obtain ⟨open_, -, rfl⟩ := Option.map_eq_some_iff.mp hsession
    exact Or.inl rfl
  deleting hdeleting := by cases hdeleting
  emptied hquiet := by cases hquiet
  erased hgone := by cases hgone

instance (ids : TerminalIds) (terminal : PersistedTerminal) :
    ∀ action, Decidable (terminal.Current ids action)
  | .drain i _ => inferInstanceAs (Decidable (∀ loop ∈ terminal.loops[i]?,
      ∀ history ∈ loop.loop.stage.captured,
      (∀ session ∈ terminal.session, history = session.history) ∧
      (terminal.session = none → terminal.erased = true → terminal.quiet = true →
        history = "")))
  | .advance _ => inferInstanceAs (Decidable (∀ stage ∈ terminal.request,
      stage.deletesHistory = true → terminal.drained ids.toSessionKey = true))
  | .worker (.processEnds _) => inferInstanceAs (Decidable
      (∀ sessionKey ∈ terminal.worker.fiber.runningKey,
        writtenName sessionKey = some ids.historyName → sessionKey = ids.toSessionKey))
  | .data _ | .exit _ | .clear _ | .restart _ _ | .close _ _ _ | .spawned _ _ | .spawnFailed _
  | .worker (.enqueue _ _) | .worker .take | .worker .start | .worker .next | .worker .cleanup
  | .worker .requeue => isTrue trivial

def defaultIds : TerminalIds where
  threadId := utf16 "t"
  terminalId := utf16 DEFAULT_TERMINAL_ID
  threadId_ne_nil := by decide
  terminalId_ne_nil := by decide

def shellInput : TerminalOpenInput where
  threadId := "t"
  terminalId := none
  cwd := "/"
  worktreePath := none
  cols := none
  rows := none
  env := none

def shell : PersistedTerminal := opened none ⟨1⟩ (some shellInput) ""

def writeRun : List HistoryAction :=
  [.worker .take, .worker .start, .worker (.processEnds true), .worker .next]

/-- The clear returns while the loop still holds the history it took. -/
def clearedRun : List HistoryAction :=
  [.data "a", .drain 0 "", .clear ""] ++ writeRun ++ [.advance "", .advance "", .drain 0 ""] ++
    writeRun

/-- The file is deleted while the loop still holds the history it took. -/
def deletedRun : List HistoryAction :=
  [.data "a", .drain 0 "", .close false true ""] ++ writeRun ++
    [.advance "", .advance "", .advance "", .advance "", .drain 0 ""] ++ writeRun

/-- A terminal whose id goes on after a NUL writes its history. -/
def strayRun : List HistoryAction :=
  .worker (.enqueue (utf16 "t" ++ 0 :: utf16 DEFAULT_TERMINAL_ID ++ 0 :: utf16 "x") ⟨"a", true⟩) ::
    writeRun

theorem final_clearedRun :
    ((exec (step defaultIds 5000) shell clearedRun).map fun terminal =>
      (terminal.erased, terminal.quiet, terminal.file)) = some (true, true, some "a") := by
  decide +kernel

theorem final_deletedRun :
    ((exec (step defaultIds 5000) shell deletedRun).map fun terminal =>
      (terminal.erased, terminal.quiet, terminal.file)) = some (true, true, some "a") := by
  decide +kernel

theorem final_strayRun :
    ((exec (step defaultIds 5000) shell strayRun).map fun terminal =>
      (terminal.drained defaultIds.toSessionKey, terminal.loops.length,
        terminal.session.map TerminalSessionState.history, terminal.file)) =
      some (true, 0, some "", some "a") := by
  decide +kernel

/-- Output is written, a clear returns and later output is written. -/
def clearThenOutputRun : List HistoryAction :=
  [.data "a", .drain 0 "", .drain 0 ""] ++ writeRun ++ [.drain 0 "", .drain 0 "", .clear ""] ++
    writeRun ++ [.advance "", .advance "", .data "b", .drain 0 "", .drain 0 ""] ++ writeRun

/-- Then the terminal is closed and its file deleted, and another terminal's history is
written. -/
def thenDeletedRun : List HistoryAction :=
  clearThenOutputRun ++ .drain 0 "" :: .close false true "" :: writeRun ++
    List.replicate 4 (.advance "") ++
    .worker (.enqueue (utf16 "t" ++ 0 :: utf16 "x") ⟨"c", true⟩) :: writeRun

end PersistedTerminal

end GT3Code.Terminal
