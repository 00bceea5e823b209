import GT3Code.Base.Runs
import GT3Code.Terminal.Session

/-! # Delivery of process events

One session and its process: callbacks append to the pending events, a drain loop takes
them one by one, and requests come between any two of its steps. A clear resets what the
loop and the callbacks share while the loop is suspended.
-/

namespace GT3Code.Terminal

open GT3Code.Base

inductive LockHolder where
  | spawn
  | publishStarted
  | persistCleared
  | publishCleared

structure RunningTerminal where
  session : TerminalSessionState
  loops : List DrainLoop
  lock : Option LockHolder
  produced : List String
  exitFired : Bool
  published : List TerminalEvent

inductive TerminalAction where
  | data (data : String)
  | exit (event : PtyExitEvent)
  | drain (i : Nat) (now : String)
  | spawn (process : PtyProcess) (now : String)
  | open (input : TerminalOpenInput) (now : String)
  | clear (now : String)
  | persisted
  | publish (now : String)
  | resize (cols rows : Nat) (now : String)
  | write (data : String)

namespace RunningTerminal

/-- The terminal of a session that `open` created and starts. -/
def starting (input : TerminalOpenInput) (history now : String) : RunningTerminal where
  session :=
    (TerminalSessionState.created input.startInput history input.env now).startSession
      input.startInput now
  loops := []
  lock := some .spawn
  produced := []
  exitFired := false
  published := []

variable (terminal : RunningTerminal)

def publish (now : String) (type : TerminalEventType) : RunningTerminal :=
  let event : TerminalEvent :=
    { threadId := terminal.session.threadId
      terminalId := terminal.session.terminalId
      createdAt := now
      type := type }
  { terminal with published := terminal.published ++ [event] }

/-- The part of the callbacks of `onData` and `onExit` that is the same. -/
def callback (event : PendingProcessEvent) : Option RunningTerminal :=
  match terminal.session.handlers with
  | none => none
  | some process =>
    let (forks, session) := terminal.session.enqueueProcessEvent process.pid event
    some
      { terminal with
        session := session
        loops :=
          if forks then terminal.loops ++ [⟨process.pid, .next⟩] else terminal.loops }

def drain (historyLineLimit i : Nat) (now : String) : Option RunningTerminal :=
  match terminal.loops[i]? with
  | none => none
  | some loop =>
    let (effect, stage, session) := loop.step historyLineLimit now terminal.session
    let terminal :=
      { terminal with
        session := session
        loops := continueLoop terminal.loops i loop stage }
    match effect with
    | .publish type => some (terminal.publish now type)
    | _ => some terminal

/-- `open` while the process runs, undefined where it replaces the process. -/
def openRunning (input : TerminalOpenInput) (now : String) : Option RunningTerminal :=
  let session := terminal.session
  let targetCols := input.cols.getD session.cols
  let targetRows := input.rows.getD session.rows
  if terminal.lock.isSome then none
  else if session.cwd ≠ input.cwd ∨ session.runtimeEnv ≠ normalizedRuntimeEnv input.env then none
  else if session.status = .exited ∨ session.status = .error ∨ session.process.isNone then none
  else if session.cols ≠ targetCols ∨ session.rows ≠ targetRows then
    some { terminal with session := session.resize targetCols targetRows now }
  else some terminal

def step (historyLineLimit : Nat) (terminal : RunningTerminal) :
    TerminalAction → Option RunningTerminal
  | .data data =>
    (terminal.callback (.output data)).map
      fun next => { next with produced := terminal.produced ++ [data] }
  | .exit event =>
    (terminal.callback (.exit event)).map fun next => { next with exitFired := true }
  | .drain i now => terminal.drain historyLineLimit i now
  | .spawn process now =>
    match terminal.lock with
    | some .spawn =>
      some
        { terminal with
          session := terminal.session.spawned process now
          lock := some .publishStarted }
    | _ => none
  | .open input now => terminal.openRunning input now
  | .clear now =>
    match terminal.lock with
    | none =>
      some { terminal with session := terminal.session.clear now, lock := some .persistCleared }
    | some _ => none
  | .persisted =>
    match terminal.lock with
    | some .persistCleared => some { terminal with lock := some .publishCleared }
    | _ => none
  | .publish now =>
    match terminal.lock with
    | some .publishStarted =>
      some { terminal.publish now (.started terminal.session.snapshot) with lock := none }
    | some .publishCleared => some { terminal.publish now .cleared with lock := none }
    | _ => none
  | .resize cols rows now =>
    if terminal.session.process.isSome && terminal.session.status = .running then
      some { terminal with session := terminal.session.resize cols rows now }
    else some terminal
  | .write _ => some terminal

end RunningTerminal

def TerminalEventType.output? : TerminalEventType → Option String
  | .output data => some data
  | _ => none

def PendingProcessEvent.output? : PendingProcessEvent → Option String
  | .output data => some data
  | .exit _ => none

namespace RunningTerminal

def outputs (terminal : RunningTerminal) : List String :=
  terminal.published.filterMap (fun event => event.type.output?)

/-- At most one drain loop is active, output is published in the order the PTY produced it, all
of it once the loop is through, and the session does not run on once its exit was called back
and drained. -/
structure Delivered (terminal : RunningTerminal) : Prop where
  oneLoop : terminal.loops.length ≤ 1
  inOrder : terminal.outputs <+: terminal.produced
  complete : terminal.loops = [] → terminal.outputs = terminal.produced
  exited : terminal.exitFired = true → terminal.loops = [] →
    terminal.session.status ≠ .running

/-- A clear drops no event, no output is called back behind an exit that waits, and no callback
comes between a clear that a drain loop is suspended in and the end of that loop. -/
def Undisturbed (terminal : RunningTerminal) : TerminalAction → Prop
  | .clear _ => terminal.session.unprocessed = []
  | .data _ => (∀ event ∈ terminal.session.unprocessed, event.isExit = false) ∧
    (terminal.loops = [] ∨ terminal.session.processEventDrainRunning = true)
  | .exit _ => terminal.loops = [] ∨ terminal.session.processEventDrainRunning = true
  | _ => True

end RunningTerminal

/-! ## What a drain loop holds -/

def DrainEffect.output? : DrainEffect → Option String
  | .publish type => type.output?
  | _ => none

def DrainStage.isDraining : DrainStage → Bool
  | .next | .queuePersist _ _ | .publishOutput _ => true
  | _ => false

def DrainStage.held : DrainStage → List String
  | .queuePersist _ data | .publishOutput data => [data]
  | _ => []

theorem TerminalSessionState.handleOutput_stage (session : TerminalSessionState)
    (historyLineLimit : Nat) (now data : String) :
    ∃ stage, (session.handleOutput historyLineLimit now data).1.stage = some stage ∧
      stage.isDraining = true ∧ stage.held = [data] := by
  simp only [TerminalSessionState.handleOutput]
  split
  · exact ⟨_, rfl, rfl, rfl⟩
  · exact ⟨_, rfl, rfl, rfl⟩

namespace RunningTerminal

structure Consistent (terminal : RunningTerminal) : Prop where
  spawning : terminal.lock = some .spawn →
    terminal.session.status = .starting ∧ terminal.exitFired = false
  handled : ∀ process, terminal.session.handlers = some process →
    terminal.session.isCurrent process.pid = true
  index : terminal.session.pendingProcessEventIndex ≤
    terminal.session.pendingProcessEvents.length
  drains : terminal.session.processEventDrainRunning = true →
    ∃ loop ∈ terminal.loops, loop.stage.isDraining = true
  waits : terminal.session.unprocessed ≠ [] → terminal.session.processEventDrainRunning = true
  draining : ∀ loop ∈ terminal.loops, loop.stage.isDraining = true →
    terminal.session.isCurrent loop.expectedPid = true
  exiting : ∀ loop ∈ terminal.loops, loop.stage.isDraining = false →
    terminal.session.status = .exited
  fired : ∀ event ∈ terminal.session.unprocessed, event.isExit = true → terminal.exitFired = true

/-- One loop at most; what was produced is published, held by the loop or waits, no output behind
an exit; and an exit the session does not show yet waits. -/
structure Delivers (terminal : RunningTerminal) : Prop where
  oneLoop : terminal.loops.length ≤ 1
  whole : terminal.outputs ++ terminal.loops.flatMap (fun loop => loop.stage.held) ++
    terminal.session.unprocessed.filterMap PendingProcessEvent.output? = terminal.produced
  exitLast : terminal.session.unprocessed.Pairwise fun earlier later =>
    earlier.isExit = true → later.isExit = true
  exitWaits : terminal.exitFired = true → terminal.session.status = .running →
    ∃ event ∈ terminal.session.unprocessed, event.isExit = true

variable {terminal next : RunningTerminal}

theorem consistent_starting (input : TerminalOpenInput) (history now : String) :
    (starting input history now).Consistent where
  spawning _ := ⟨rfl, rfl⟩
  handled _ h := by cases h
  index := Nat.zero_le 0
  drains h := by cases h
  waits h := absurd rfl h
  draining _ h := by cases h
  exiting _ h := by cases h
  fired _ h := by cases h

theorem delivers_starting (input : TerminalOpenInput) (history now : String) :
    (starting input history now).Delivers where
  oneLoop := Nat.zero_le 1
  whole := rfl
  exitLast := .nil
  exitWaits h := by cases h

theorem Consistent.current (h : terminal.Consistent) (hwaits : terminal.session.unprocessed ≠ []) :
    ∃ loop ∈ terminal.loops, terminal.session.isCurrent loop.expectedPid = true := by
  obtain ⟨loop, hmem, hdraining⟩ := h.drains (h.waits hwaits)
  exact ⟨loop, hmem, h.draining loop hmem hdraining⟩

theorem Consistent.unprocessed_eq_nil (h : terminal.Consistent) (hloops : terminal.loops = []) :
    terminal.session.unprocessed = [] := by
  by_contra hwaits
  obtain ⟨loop, hmem, -⟩ := h.current hwaits
  rw [hloops] at hmem
  cases hmem

theorem Delivers.delivered (h : terminal.Delivers) (hconsistent : terminal.Consistent) :
    terminal.Delivered where
  oneLoop := h.oneLoop
  inOrder := by
    rw [← h.whole, List.append_assoc]
    exact List.prefix_append _ _
  complete hloops := by
    have hnone := hconsistent.unprocessed_eq_nil hloops
    have hwhole := h.whole
    rwa [hloops, hnone, List.flatMap_nil, List.filterMap_nil, List.append_nil,
      List.append_nil] at hwhole
  exited hfired hloops hrunning := by
    obtain ⟨event, hevent, -⟩ := h.exitWaits hfired hrunning
    rw [hconsistent.unprocessed_eq_nil hloops] at hevent
    cases hevent

variable {event : PendingProcessEvent} {historyLineLimit i : Nat} {now : String} {loop : DrainLoop}
  {stage : DrainStage}

theorem callback_eq_some (hconsistent : terminal.Consistent)
    (h : terminal.callback event = some next) :
    ∃ process : PtyProcess, terminal.session.isCurrent process.pid = true ∧
      next.session = { terminal.session with
        pendingProcessEvents := terminal.session.pendingProcessEvents ++ [event]
        processEventDrainRunning := true } ∧
      next.loops = (if terminal.session.processEventDrainRunning then terminal.loops
        else terminal.loops ++ [⟨process.pid, .next⟩]) ∧
      next.lock = terminal.lock ∧ next.produced = terminal.produced ∧
      next.exitFired = terminal.exitFired ∧ next.published = terminal.published := by
  simp only [callback] at h
  split at h
  · cases h
  · rename_i process hhandlers
    have hcurrent := hconsistent.handled process hhandlers
    cases h
    refine ⟨process, hcurrent, ?_⟩
    cases hrunning : terminal.session.processEventDrainRunning <;>
      simp [TerminalSessionState.enqueueProcessEvent, hcurrent, hrunning]

def called (next : RunningTerminal) (event : PendingProcessEvent) : RunningTerminal :=
  { next with
    produced := next.produced ++ event.output?.toList
    exitFired := next.exitFired || event.isExit }

theorem unprocessed_of_callback (hconsistent : terminal.Consistent)
    (h : terminal.callback event = some next) :
    next.session.unprocessed = terminal.session.unprocessed ++ [event] := by
  obtain ⟨process, -, hsession, -⟩ := callback_eq_some hconsistent h
  rw [hsession]
  exact List.drop_append_of_le_length hconsistent.index

theorem Consistent.callback (hconsistent : terminal.Consistent)
    (h : terminal.callback event = some next) : (next.called event).Consistent := by
  have hwaiting := unprocessed_of_callback hconsistent h
  obtain ⟨process, hcurrent, hsession, hloops, hlock, -, hfired, -⟩ :=
    callback_eq_some hconsistent h
  have hrunning := (TerminalSessionState.isCurrent_iff.mp hcurrent).2.1
  -- a loop that took the exit would have left the session exited
  have halldrain : ∀ loop ∈ terminal.loops, loop.stage.isDraining = true := by
    intro loop hmem
    cases hdraining : loop.stage.isDraining with
    | true => rfl
    | false => cases hrunning.symm.trans (hconsistent.exiting loop hmem hdraining)
  have hmem : ∀ loop ∈ next.loops, loop ∈ terminal.loops ∨ loop = ⟨process.pid, .next⟩ := by
    intro loop hloop
    rw [hloops] at hloop
    split at hloop
    · exact Or.inl hloop
    · simpa using hloop
  constructor
  · intro hspawn
    have hstarting := hconsistent.spawning (hlock.symm.trans hspawn)
    cases hrunning.symm.trans hstarting.1
  · intro other hhandlers
    simp only [called, hsession] at hhandlers ⊢
    exact hconsistent.handled other hhandlers
  · have hindex := hconsistent.index
    simp only [called, hsession, List.length_append]
    omega
  · intro _
    show ∃ loop ∈ next.loops, loop.stage.isDraining = true
    rw [hloops]
    split
    · rename_i hdrain
      exact hconsistent.drains hdrain
    · exact ⟨⟨process.pid, .next⟩, by simp, rfl⟩
  · intro _
    simp [called, hsession]
  · intro loop hloop hdraining
    simp only [called, hsession]
    rcases hmem loop hloop with hold | rfl
    · exact hconsistent.draining loop hold hdraining
    · exact hcurrent
  · intro loop hloop hdraining
    rcases hmem loop hloop with hold | rfl
    · rw [halldrain loop hold] at hdraining
      cases hdraining
    · cases hdraining
  · intro other hother hexit
    simp only [called, hwaiting, List.mem_append, List.mem_singleton] at hother ⊢
    rcases hother with hother | rfl
    · simp [hfired, hconsistent.fired other hother hexit]
    · simp [hexit]

theorem whole_called (hconsistent : terminal.Consistent) (h : terminal.Delivers)
    (hnext : terminal.callback event = some next) :
    (next.called event).outputs ++ (next.called event).loops.flatMap (fun loop => loop.stage.held) ++
        (next.called event).session.unprocessed.filterMap PendingProcessEvent.output? =
      (next.called event).produced := by
  have hwaiting := unprocessed_of_callback hconsistent hnext
  obtain ⟨process, -, -, hloops, -, hproduced, -, hpublished⟩ := callback_eq_some hconsistent hnext
  have hheld : next.loops.flatMap (fun loop => loop.stage.held) =
      terminal.loops.flatMap (fun loop => loop.stage.held) := by
    rw [hloops]
    split
    · rfl
    · simp [DrainStage.held]
  have hlast : [event].filterMap PendingProcessEvent.output? = event.output?.toList := by
    cases event <;> rfl
  simp only [called, outputs, hpublished, hheld, hwaiting, hproduced, List.filterMap_append, hlast,
    ← h.whole, List.append_assoc]

theorem delivers_called_iff (hconsistent : terminal.Consistent) (h : terminal.Delivers)
    (hnext : terminal.callback event = some next) :
    (next.called event).Delivers ↔
      (∀ other ∈ terminal.session.unprocessed, other.isExit = true → event.isExit = true) ∧
        (terminal.loops = [] ∨ terminal.session.processEventDrainRunning = true) := by
  have hwaiting := unprocessed_of_callback hconsistent hnext
  obtain ⟨process, -, hsession, hloops, -, -, hfired, -⟩ := callback_eq_some hconsistent hnext
  constructor
  · intro hdelivers
    have hlast : (terminal.session.unprocessed ++ [event]).Pairwise fun earlier later =>
        earlier.isExit = true → later.isExit = true := hwaiting ▸ hdelivers.exitLast
    refine ⟨fun other hother => (List.pairwise_append.mp hlast).2.2 other hother event
      (List.mem_singleton_self event), ?_⟩
    have hone : next.loops.length ≤ 1 := hdelivers.oneLoop
    cases hdrain : terminal.session.processEventDrainRunning with
    | true => exact Or.inr rfl
    | false =>
      simp only [hloops, hdrain, Bool.false_eq_true, if_false, List.length_append,
        List.length_singleton] at hone
      exact Or.inl (List.length_eq_zero_iff.mp (by omega))
  · rintro ⟨hbehind, hundisturbed⟩
    constructor
    · show next.loops.length ≤ 1
      rw [hloops]
      split
      · exact h.oneLoop
      · rename_i hdrain
        rcases hundisturbed with hnil | htrue
        · simp [hnil]
        · exact absurd htrue hdrain
    · exact whole_called hconsistent h hnext
    · show next.session.unprocessed.Pairwise _
      rw [hwaiting]
      refine List.pairwise_append.mpr ⟨h.exitLast, List.pairwise_singleton _ _, ?_⟩
      intro other hother last hmem
      rw [List.mem_singleton.mp hmem]
      exact hbehind other hother
    · intro hexit hrunning
      show ∃ other ∈ next.session.unprocessed, other.isExit = true
      rw [hwaiting]
      cases hlast : event.isExit with
      | true => exact ⟨event, by simp, hlast⟩
      | false =>
        simp only [called, hlast, Bool.or_false, hfired] at hexit
        simp only [called, hsession] at hrunning
        obtain ⟨other, hother, hisExit⟩ := h.exitWaits hexit hrunning
        exact ⟨other, List.mem_append_left _ hother, hisExit⟩

theorem drain_eq_some (h : terminal.drain historyLineLimit i now = some next) :
    ∃ loop effect stage session, terminal.loops[i]? = some loop ∧
      loop.step historyLineLimit now terminal.session = (effect, stage, session) ∧
      next.session = session ∧ next.loops = continueLoop terminal.loops i loop stage ∧
      next.lock = terminal.lock ∧ next.produced = terminal.produced ∧
      next.exitFired = terminal.exitFired ∧
      next.outputs = terminal.outputs ++ effect.output?.toList := by
  simp only [drain] at h
  split at h
  · cases h
  · rename_i loop hloop
    cases hstep : loop.step historyLineLimit now terminal.session with
    | mk effect rest =>
      obtain ⟨stage, session⟩ := rest
      rw [hstep] at h
      refine ⟨loop, effect, stage, session, hloop, hstep, ?_⟩
      cases effect with
      | nothing | queuePersist =>
        cases h
        simp [outputs, DrainEffect.output?]
      | publish type =>
        cases h
        have hlast : ∀ event : TerminalEvent, event.type = type →
            [event].filterMap (fun event => event.type.output?) = type.output?.toList := by
          intro event htype
          rw [List.filterMap_cons, htype]
          cases type.output? <;> rfl
        simp [publish, outputs, DrainEffect.output?, hlast]

theorem Consistent.relay (h : terminal.Consistent) (hloops : terminal.loops = [loop])
    (hsession : next.session = terminal.session)
    (hnext : next.loops = [{ loop with stage := stage }]) (hlock : next.lock = terminal.lock)
    (hfired : next.exitFired = terminal.exitFired)
    (hdraining : stage.isDraining = loop.stage.isDraining) : next.Consistent := by
  obtain ⟨hspawning, hhandled, hindex, hdrains, hwaits, hcurrent, hexiting, hexits⟩ := h
  simp only [hloops, List.mem_singleton, exists_eq_left, forall_eq] at hdrains hcurrent hexiting
  constructor
  · rw [hlock, hsession, hfired]
    exact hspawning
  · rw [hsession]
    exact hhandled
  · rw [hsession]
    exact hindex
  · simpa only [hsession, hnext, List.mem_singleton, exists_eq_left, hdraining] using hdrains
  · rw [hsession]
    exact hwaits
  · simpa only [hsession, hnext, List.mem_singleton, forall_eq, hdraining] using hcurrent
  · simpa only [hsession, hnext, List.mem_singleton, forall_eq, hdraining] using hexiting
  · rw [hsession, hfired]
    exact hexits

theorem Consistent.return (h : terminal.Consistent) (hwaiting : terminal.session.unprocessed = [])
    (hsession : next.session = terminal.session.resetProcessEvents ∨
      next.session = terminal.session ∧ terminal.session.processEventDrainRunning = false)
    (hnext : next.loops = []) (hlock : next.lock = terminal.lock)
    (hfired : next.exitFired = terminal.exitFired) : next.Consistent := by
  have hnone : next.session.unprocessed = [] := by
    rcases hsession with hsession | ⟨hsession, -⟩
    · rw [hsession]
      rfl
    · rw [hsession, hwaiting]
  constructor
  · rw [hlock, hfired]
    rcases hsession with hsession | ⟨hsession, -⟩
    all_goals
      rw [hsession]
      exact h.spawning
  · rcases hsession with hsession | ⟨hsession, -⟩
    all_goals
      rw [hsession]
      exact h.handled
  · rcases hsession with hsession | ⟨hsession, -⟩
    · rw [hsession]
      exact Nat.zero_le 0
    · rw [hsession]
      exact h.index
  · intro hdrain
    rcases hsession with hsession | ⟨hsession, hfalse⟩
    · rw [hsession] at hdrain
      cases hdrain
    · rw [hsession, hfalse] at hdrain
      cases hdrain
  · exact fun hwaits => absurd hnone hwaits
  · rw [hnext]
    intro loop hmem
    cases hmem
  · rw [hnext]
    intro loop hmem
    cases hmem
  · rw [hnone]
    intro event hmem
    cases hmem

variable {data : String} {event : PtyExitEvent}

theorem Consistent.takeOutput (h : terminal.Consistent) (hloops : terminal.loops = [loop])
    (hstage : loop.stage = .next)
    (hwaiting : terminal.session.unprocessed =
      .output data :: terminal.session.advanceProcessEvents.unprocessed)
    (hsession : next.session =
      (terminal.session.advanceProcessEvents.handleOutput historyLineLimit now data).2)
    (hnext : next.loops = [{ loop with stage := stage }]) (hdraining : stage.isDraining = true)
    (hlock : next.lock = terminal.lock) (hfired : next.exitFired = terminal.exitFired) :
    next.Consistent := by
  obtain ⟨hprocess, hpid, hstatus, hhandlers, hrunning⟩ :=
    terminal.session.advanceProcessEvents_frame
  have hcurrent : ∀ pid, next.session.isCurrent pid = terminal.session.isCurrent pid := by
    intro pid
    simp [hsession, TerminalSessionState.handleOutput, TerminalSessionState.isCurrent, hprocess,
      hpid, hstatus]
  have hrest : next.session.unprocessed = terminal.session.advanceProcessEvents.unprocessed := by
    rw [hsession]
    rfl
  constructor
  · simpa [hlock, hsession, hfired, TerminalSessionState.handleOutput, hstatus] using h.spawning
  · intro process hprocess
    rw [hcurrent]
    simp only [hsession, TerminalSessionState.handleOutput, hhandlers] at hprocess
    exact h.handled process hprocess
  · rw [hsession]
    exact TerminalSessionState.index_advanceProcessEvents
  · intro _
    exact ⟨_, by rw [hnext]; exact List.mem_singleton.mpr rfl, hdraining⟩
  · intro _
    have hwaits := h.waits (by simp [hwaiting])
    simp [hsession, TerminalSessionState.handleOutput, hrunning, hwaits]
  · intro other hmem _
    rw [hnext, List.mem_singleton] at hmem
    rw [hmem, hcurrent]
    exact h.draining loop (by simp [hloops]) (by simp [hstage, DrainStage.isDraining])
  · intro other hmem hexiting
    rw [hnext, List.mem_singleton] at hmem
    rw [hmem, hdraining] at hexiting
    cases hexiting
  · intro event hmem hexit
    rw [hrest] at hmem
    rw [hfired]
    exact h.fired event (by simp [hwaiting, hmem]) hexit

theorem Consistent.takeExit (h : terminal.Consistent) {process : PtyProcess}
    (hsession : next.session =
      (terminal.session.advanceProcessEvents.handleExit process now event).2)
    (hrunning : terminal.session.status = .running)
    (hnext : next.loops = [{ loop with stage := stage }]) (hdraining : stage.isDraining = false)
    (hlock : next.lock = terminal.lock) : next.Consistent := by
  constructor
  · intro hspawn
    cases hrunning.symm.trans (h.spawning (hlock.symm.trans hspawn)).1
  · rw [hsession]
    intro other hhandlers
    cases hhandlers
  · rw [hsession]
    exact Nat.zero_le 0
  · rw [hsession]
    intro hdrain
    cases hdrain
  · rw [hsession]
    exact fun hwaits => absurd rfl hwaits
  · intro other hmem hdrain
    rw [hnext, List.mem_singleton] at hmem
    rw [hmem, hdraining] at hdrain
    cases hdrain
  · intro _ _ _
    rw [hsession]
    rfl
  · rw [hsession]
    intro other hmem
    cases hmem

theorem loops_eq_singleton {loops : List DrainLoop} (hone : loops.length ≤ 1)
    (h : loops[i]? = some loop) :
    loops = [loop] ∧ ∀ stage, continueLoop loops i loop stage =
      stage.toList.map (fun stage => { loop with stage := stage }) := by
  match loops, i, hone, h with
  | [], _, _, h => simp at h
  | [_], i + 1, _, h => simp at h
  | [only], 0, _, h =>
    cases h
    refine ⟨rfl, fun stage => ?_⟩
    cases stage <;> rfl

theorem Consistent.drain (h : terminal.Consistent) (hone : terminal.loops.length ≤ 1)
    (hdrain : terminal.drain historyLineLimit i now = some next) : next.Consistent := by
  obtain ⟨loop, effect, stage, session, hloop, hstep, hsession, hnext, hlock, -, hfired, -⟩ :=
    drain_eq_some hdrain
  obtain ⟨hloops, hcontinue⟩ := loops_eq_singleton hone hloop
  rw [hcontinue] at hnext
  simp only [DrainLoop.step] at hstep
  split at hstep
  · rename_i hstage
    have hcurrent : terminal.session.isCurrent loop.expectedPid = true :=
      h.draining loop (by simp [hloops]) (by simp [hstage, DrainStage.isDraining])
    rcases terminal.session.nextProcessEvent_cases historyLineLimit loop.expectedPid now with
      ⟨hresult, hwaiting⟩ | ⟨data, -, hwaiting, hresult⟩ |
      ⟨process, event, -, -, hwaiting, hresult⟩
    · rw [hresult] at hstep
      cases hstep
      have hnone : terminal.session.unprocessed = [] := by
        rcases hwaiting with hother | hnone
        · rw [hcurrent] at hother
          cases hother
        · exact hnone
      exact h.return hnone (Or.inl hsession) hnext hlock hfired
    · rw [hresult] at hstep
      cases hstep
      obtain ⟨taken, htaken, hdraining, -⟩ :=
        terminal.session.advanceProcessEvents.handleOutput_stage historyLineLimit now data
      rw [htaken] at hnext
      exact h.takeOutput hloops hstage hwaiting hsession hnext hdraining hlock hfired
    · rw [hresult] at hstep
      cases hstep
      exact h.takeExit hsession (TerminalSessionState.isCurrent_iff.mp hcurrent).2.1 hnext rfl hlock
  iterate 4
    · rename_i hstage
      cases hstep
      exact h.relay hloops hsession hnext hlock hfired (by simp [hstage, DrainStage.isDraining])
  · rename_i hstage
    cases hstep
    have hdrain : terminal.session.processEventDrainRunning = false := by
      by_contra hrunning
      obtain ⟨other, hmem, hdraining⟩ := h.drains (by simpa using hrunning)
      rw [hloops, List.mem_singleton] at hmem
      simp [hmem, hstage, DrainStage.isDraining] at hdraining
    have hnone : terminal.session.unprocessed = [] := by
      by_contra hwaits
      cases hdrain.symm.trans (h.waits hwaits)
    exact h.return hnone (Or.inr ⟨hsession, hdrain⟩) hnext hlock hfired

/-- A step of a loop publishes, holds or leaves waiting what was held or waited before it. -/
theorem whole_drainStep {session after : TerminalSessionState} {effect : DrainEffect}
    {later : Option DrainStage}
    (hstep : loop.step historyLineLimit now session = (effect, later, after))
    (hcurrent : loop.stage = .next → session.isCurrent loop.expectedPid = true)
    (hexitLast : session.unprocessed.Pairwise fun earlier later =>
      earlier.isExit = true → later.isExit = true) :
    effect.output?.toList ++ (later.toList.flatMap DrainStage.held ++
        after.unprocessed.filterMap PendingProcessEvent.output?) =
      loop.stage.held ++ session.unprocessed.filterMap PendingProcessEvent.output? ∧
    after.unprocessed.Sublist session.unprocessed := by
  simp only [DrainLoop.step] at hstep
  split at hstep
  · rename_i hstage
    rcases session.nextProcessEvent_cases historyLineLimit loop.expectedPid now with
      ⟨hresult, hwaiting⟩ | ⟨data, -, hwaiting, hresult⟩ | ⟨process, event, -, -, hwaiting, hresult⟩
    · rw [hresult] at hstep
      cases hstep
      have hnone : session.unprocessed = [] := by
        rcases hwaiting with hother | hnone
        · rw [hcurrent hstage] at hother
          cases hother
        · exact hnone
      simp [hstage, hnone, DrainStage.held, DrainEffect.output?, DrainProcessEventAction.stage]
    · rw [hresult] at hstep
      cases hstep
      obtain ⟨taken, htaken, -, hheld⟩ :=
        session.advanceProcessEvents.handleOutput_stage historyLineLimit now data
      have hafter : (session.advanceProcessEvents.handleOutput historyLineLimit now
          data).2.unprocessed = session.advanceProcessEvents.unprocessed := rfl
      rw [htaken, hafter, hwaiting, hstage]
      have hnext : DrainStage.next.held = [] := rfl
      refine ⟨?_, List.sublist_cons_self _ _⟩
      simp [hheld, hnext, DrainEffect.output?, PendingProcessEvent.output?]
    · rw [hresult] at hstep
      cases hstep
      have hafter : (session.advanceProcessEvents.handleExit process now event).2.unprocessed =
          [] := rfl
      rw [hwaiting] at hexitLast
      -- nothing waits behind the exit
      have hrest : session.advanceProcessEvents.unprocessed.filterMap PendingProcessEvent.output? =
          [] := by
        rw [List.filterMap_eq_nil_iff]
        intro other hother
        have hexit := (List.pairwise_cons.mp hexitLast).1 other hother rfl
        cases other with
        | output data => cases hexit
        | exit event => rfl
      rw [hafter, hwaiting, hstage]
      refine ⟨?_, List.nil_sublist _⟩
      simp [hrest, DrainStage.held, DrainEffect.output?, List.filterMap_cons,
        PendingProcessEvent.output?, TerminalSessionState.handleExit,
        DrainProcessEventAction.stage]
  all_goals
    rename_i hstage
    cases hstep
    rw [hstage]
    exact ⟨rfl, List.Sublist.refl _⟩

theorem Delivers.drain (h : terminal.Delivers) (hconsistent : terminal.Consistent)
    (hdrain : terminal.drain historyLineLimit i now = some next) : next.Delivers := by
  obtain ⟨loop, effect, stage, session, hloop, hstep, hsession, hnext, -, hproduced, hfired,
    houtputs⟩ := drain_eq_some hdrain
  obtain ⟨hloops, hcontinue⟩ := loops_eq_singleton h.oneLoop hloop
  have hnow : loop.stage = .next → terminal.session.isCurrent loop.expectedPid = true :=
    fun hstage =>
      hconsistent.draining loop (by simp [hloops]) (by simp [hstage, DrainStage.isDraining])
  obtain ⟨hwhole, hsublist⟩ := whole_drainStep hstep hnow h.exitLast
  constructor
  · rw [hnext, hcontinue]
    cases stage <;> simp
  · have hbefore := h.whole
    rw [hloops, List.flatMap_singleton, List.append_assoc, ← hwhole] at hbefore
    have hheld : next.loops.flatMap (fun loop => loop.stage.held) =
        stage.toList.flatMap DrainStage.held := by
      rw [hnext, hcontinue]
      cases stage <;> simp
    rw [houtputs, hheld, hsession, hproduced, ← hbefore]
    simp only [List.append_assoc]
  · rw [hsession]
    exact h.exitLast.sublist hsublist
  · rw [hfired, hsession]
    intro hexit hrunning
    have hwaits := h.exitWaits hexit
    simp only [DrainLoop.step] at hstep
    split at hstep
    · rename_i hstage
      have hcurrent : terminal.session.isCurrent loop.expectedPid = true :=
        hconsistent.draining loop (by simp [hloops]) (by simp [hstage, DrainStage.isDraining])
      obtain ⟨event, hmem, hevent⟩ :=
        hwaits (TerminalSessionState.isCurrent_iff.mp hcurrent).2.1
      rcases terminal.session.nextProcessEvent_cases historyLineLimit loop.expectedPid now with
        ⟨-, hnone⟩ | ⟨data, -, hwaiting, hresult⟩ | ⟨process, taken, -, -, -, hresult⟩
      · rcases hnone with hother | hnone
        · rw [hcurrent] at hother
          cases hother
        · rw [hnone] at hmem
          cases hmem
      · rw [hresult] at hstep
        cases hstep
        rw [hwaiting, List.mem_cons] at hmem
        rcases hmem with rfl | hrest
        · cases hevent
        · exact ⟨event, hrest, hevent⟩
      · rw [hresult] at hstep
        cases hstep
        cases hrunning
    all_goals
      cases hstep
      exact hwaits hrunning

theorem Consistent.clear (h : terminal.Consistent) (now : String) :
    Consistent { terminal with
      session := terminal.session.clear now, lock := some .persistCleared } where
  spawning h := by cases h
  handled := h.handled
  index := Nat.zero_le 0
  drains h := by cases h
  waits hwaits := absurd rfl hwaits
  draining := h.draining
  exiting := h.exiting
  fired _ h := by cases h

theorem delivers_clear_iff (hconsistent : terminal.Consistent) (h : terminal.Delivers)
    (now : String) :
    Delivers { terminal with
        session := terminal.session.clear now, lock := some .persistCleared } ↔
      terminal.session.unprocessed = [] := by
  constructor
  · intro hdelivers
    have hwhole := hdelivers.whole.trans h.whole.symm
    change terminal.outputs ++ terminal.loops.flatMap _ ++ [] = _ at hwhole
    have hnone := List.self_eq_append_right.mp ((List.append_nil _).symm.trans hwhole)
    rw [List.eq_nil_iff_forall_not_mem]
    intro event hmem
    cases event with
    | output data =>
      have houtput := List.filterMap_eq_nil_iff.mp hnone _ hmem
      cases houtput
    | exit event =>
      obtain ⟨loop, -, hcurrent⟩ := hconsistent.current (List.ne_nil_of_mem hmem)
      obtain ⟨dropped, hdropped, -⟩ := hdelivers.exitWaits (hconsistent.fired _ hmem rfl)
        (TerminalSessionState.isCurrent_iff.mp hcurrent).2.1
      cases hdropped
  · intro hnone
    constructor
    · exact h.oneLoop
    · have hwhole := h.whole
      rwa [hnone] at hwhole
    · exact .nil
    · intro hexit hrunning
      obtain ⟨event, hmem, -⟩ := h.exitWaits hexit hrunning
      rw [hnone] at hmem
      cases hmem

theorem Consistent.spawned (h : terminal.Consistent) (hlock : terminal.lock = some .spawn)
    (process : PtyProcess) (now : String) :
    terminal.loops = [] ∧ Consistent { terminal with
      session := terminal.session.spawned process now, lock := some .publishStarted } := by
  have hstatus := (h.spawning hlock).1
  have hloops : terminal.loops = [] := by
    rw [List.eq_nil_iff_forall_not_mem]
    intro loop hmem
    cases hdraining : loop.stage.isDraining with
    | true =>
      have hcurrent := TerminalSessionState.isCurrent_iff.mp (h.draining loop hmem hdraining)
      cases hstatus.symm.trans hcurrent.2.1
    | false => cases hstatus.symm.trans (h.exiting loop hmem hdraining)
  refine ⟨hloops, ?_⟩
  constructor
  · exact fun h => by cases h
  · intro other hhandlers
    cases hhandlers
    simp [TerminalSessionState.spawned, TerminalSessionState.isCurrent]
  · exact h.index
  · exact h.drains
  · exact h.waits
  · intro loop hmem
    simp only [hloops] at hmem
    cases hmem
  · intro loop hmem
    simp only [hloops] at hmem
    cases hmem
  · exact h.fired

theorem step_data (h : terminal.step historyLineLimit (.data data) = some next) :
    ∃ called, terminal.callback (.output data) = some called ∧
      next = called.called (.output data) := by
  obtain ⟨called, hcallback, rfl⟩ := Option.map_eq_some_iff.mp h
  refine ⟨called, hcallback, ?_⟩
  have hproduced : called.produced = terminal.produced := by
    simp only [callback] at hcallback
    split at hcallback
    · cases hcallback
    · cases hcallback
      rfl
  simp [RunningTerminal.called, PendingProcessEvent.output?, PendingProcessEvent.isExit, hproduced]

theorem step_exit (h : terminal.step historyLineLimit (.exit event) = some next) :
    ∃ called, terminal.callback (.exit event) = some called ∧
      next = called.called (.exit event) := by
  obtain ⟨called, hcallback, rfl⟩ := Option.map_eq_some_iff.mp h
  refine ⟨called, hcallback, ?_⟩
  simp [RunningTerminal.called, PendingProcessEvent.output?, PendingProcessEvent.isExit]

/-- A step that keeps everything the callbacks and the loops look at. -/
structure Quiet (terminal next : RunningTerminal) : Prop where
  session : next.session = terminal.session ∨
    ∃ cols rows now, next.session = terminal.session.resize cols rows now
  loops : next.loops = terminal.loops
  lock : next.lock = some .spawn → terminal.lock = some .spawn
  produced : next.produced = terminal.produced
  exitFired : next.exitFired = terminal.exitFired
  outputs : next.outputs = terminal.outputs

theorem Consistent.quiet (h : terminal.Consistent) (hquiet : terminal.Quiet next) :
    next.Consistent := by
  obtain ⟨session, loops, lock, produced, exitFired, published⟩ := next
  obtain ⟨hsession, hloops, hlock, hproduced, hfired, houtputs⟩ := hquiet
  simp only at hsession hloops hproduced hfired
  subst hloops hproduced hfired
  rcases hsession with rfl | ⟨cols, rows, now, rfl⟩
  · exact ⟨fun hspawn => h.spawning (hlock hspawn), h.handled, h.index, h.drains, h.waits,
      h.draining, h.exiting, h.fired⟩
  · exact ⟨fun hspawn => h.spawning (hlock hspawn), h.handled, h.index, h.drains, h.waits,
      h.draining, h.exiting, h.fired⟩

theorem Delivers.quiet (h : terminal.Delivers) (hquiet : terminal.Quiet next) :
    next.Delivers := by
  obtain ⟨hsession, hloops, -, hproduced, hfired, houtputs⟩ := hquiet
  have hwaiting : next.session.unprocessed = terminal.session.unprocessed := by
    rcases hsession with hsession | ⟨cols, rows, now, hsession⟩
    · rw [hsession]
    · rw [hsession]
      rfl
  have hstatus : next.session.status = terminal.session.status := by
    rcases hsession with hsession | ⟨cols, rows, now, hsession⟩
    · rw [hsession]
    · rw [hsession]
      rfl
  constructor
  · rw [hloops]
    exact h.oneLoop
  · rw [houtputs, hloops, hwaiting, hproduced]
    exact h.whole
  · rw [hwaiting]
    exact h.exitLast
  · rw [hfired, hwaiting, hstatus]
    exact h.exitWaits

theorem quiet_open {input : TerminalOpenInput} (h : terminal.openRunning input now = some next) :
    terminal.Quiet next := by
  simp only [openRunning] at h
  split at h
  · cases h
  · split at h
    · cases h
    · split at h
      · cases h
      · split at h
        · cases h
          exact ⟨Or.inr ⟨_, _, _, rfl⟩, rfl, id, rfl, rfl, rfl⟩
        · cases h
          exact ⟨Or.inl rfl, rfl, id, rfl, rfl, rfl⟩

theorem quiet_publish {type : TerminalEventType} (hother : type.output? = none) :
    terminal.Quiet { terminal.publish now type with lock := none } where
  session := Or.inl rfl
  loops := rfl
  lock h := by cases h
  produced := rfl
  exitFired := rfl
  outputs := by simp [publish, outputs, hother]

theorem step_delivers (hconsistent : terminal.Consistent) (h : terminal.Delivers)
    {action : TerminalAction} (hstep : terminal.step historyLineLimit action = some next) :
    next.Consistent ∧ (next.Delivers ↔ terminal.Undisturbed action) := by
  have hquiet : terminal.Quiet next →
      next.Consistent ∧ (next.Delivers ↔ True) :=
    fun hquiet => ⟨hconsistent.quiet hquiet, by simp [h.quiet hquiet]⟩
  cases action with
  | data data =>
    obtain ⟨called, hcallback, rfl⟩ := step_data hstep
    refine ⟨hconsistent.callback hcallback, (delivers_called_iff hconsistent h hcallback).trans ?_⟩
    simp [Undisturbed, PendingProcessEvent.isExit]
  | exit event =>
    obtain ⟨called, hcallback, rfl⟩ := step_exit hstep
    refine ⟨hconsistent.callback hcallback, (delivers_called_iff hconsistent h hcallback).trans ?_⟩
    simp [Undisturbed, PendingProcessEvent.isExit]
  | drain i now =>
    exact ⟨hconsistent.drain h.oneLoop hstep,
      fun _ => trivial, fun _ => h.drain hconsistent hstep⟩
  | spawn process now =>
    simp only [step] at hstep
    split at hstep
    · rename_i hlock
      cases hstep
      obtain ⟨hloops, hspawned⟩ := hconsistent.spawned hlock process now
      refine ⟨hspawned, fun _ => trivial, fun _ => ⟨?_, h.whole, h.exitLast, ?_⟩⟩
      · simp [hloops]
      · intro hexit
        cases hexit.symm.trans (hconsistent.spawning hlock).2
    · cases hstep
  | «open» input now => exact hquiet (quiet_open hstep)
  | clear now =>
    simp only [step] at hstep
    split at hstep
    · cases hstep
      exact ⟨hconsistent.clear now, delivers_clear_iff hconsistent h now⟩
    · cases hstep
  | persisted =>
    simp only [step] at hstep
    split at hstep
    · cases hstep
      exact hquiet ⟨Or.inl rfl, rfl, (fun h => by cases h), rfl, rfl, rfl⟩
    · cases hstep
  | publish now =>
    simp only [step] at hstep
    split at hstep
    · cases hstep
      exact hquiet (quiet_publish rfl)
    · cases hstep
      exact hquiet (quiet_publish rfl)
    · cases hstep
  | resize cols rows now =>
    simp only [step] at hstep
    split at hstep
    · cases hstep
      exact hquiet ⟨Or.inr ⟨_, _, _, rfl⟩, rfl, id, rfl, rfl, rfl⟩
    · cases hstep
      exact hquiet ⟨Or.inl rfl, rfl, id, rfl, rfl, rfl⟩
  | write data =>
    cases hstep
    exact hquiet ⟨Or.inl rfl, rfl, id, rfl, rfl, rfl⟩

/-- Output and exit are delivered throughout every undisturbed run. Exactly these runs keep
to one loop and to an exit that waits until it is taken. -/
theorem delivered_throughout (historyLineLimit : Nat) (input : TerminalOpenInput)
    (history now : String) (actions : List TerminalAction) :
    (Throughout (step historyLineLimit) Delivers (starting input history now) actions ↔
      StepsMeet (step historyLineLimit) Undisturbed (starting input history now) actions) ∧
    (StepsMeet (step historyLineLimit) Undisturbed (starting input history now) actions →
      Throughout (step historyLineLimit) Delivered (starting input history now) actions) := by
  constructor
  · refine throughout_iff_stepsMeet_while (I := Consistent) ?_ ?_
      (consistent_starting input history now) (delivers_starting input history now) actions
    · intro terminal action next hconsistent h _ hstep
      exact (step_delivers hconsistent h hstep).1
    · intro terminal action next hconsistent h hstep
      exact (step_delivers hconsistent h hstep).2
  · intro hmeet
    have hkept : ∀ terminal action next,
        (Consistent terminal ∧ Delivers terminal) → Undisturbed terminal action →
          terminal.step historyLineLimit action = some next →
            Consistent next ∧ Delivers next := by
      intro terminal action next hinv hundisturbed hstep
      obtain ⟨hconsistent, hdelivers⟩ := step_delivers hinv.1 hinv.2 hstep
      exact ⟨hconsistent, hdelivers.mpr hundisturbed⟩
    have hrun := throughout_of_stepsMeet hkept
      ⟨consistent_starting input history now, delivers_starting input history now⟩ hmeet
    exact hrun.imp (fun terminal hinv => hinv.2.delivered hinv.1)

def shellInput : TerminalOpenInput where
  threadId := "t"
  terminalId := none
  cwd := "/"
  worktreePath := none
  cols := none
  rows := none
  env := none

def suspendedRun : List TerminalAction :=
  [.spawn ⟨1⟩ "", .publish "", .data "a", .drain 0 ""]

def clearedExitRun : List TerminalAction :=
  suspendedRun ++ [.exit ⟨some 0, none⟩, .clear "", .drain 0 "", .drain 0 "", .drain 0 ""]

/-- After the clear the next output forks a loop of its own, which overtakes. -/
def clearedOutputRun : List TerminalAction :=
  suspendedRun ++ [.clear "", .data "b", .drain 1 "", .drain 1 "", .drain 1 "", .drain 0 "",
    .drain 0 ""]

theorem final_clearedExitRun :
    ((exec (step 5000) (starting shellInput "" "") clearedExitRun).map fun terminal =>
      (terminal.exitFired, terminal.loops.length, terminal.session.status)) =
        some (true, 0, .running) := by
  decide +kernel

theorem final_clearedOutputRun :
    ((exec (step 5000) (starting shellInput "" "") clearedOutputRun).map fun terminal =>
      (terminal.loops.length, terminal.produced, terminal.outputs)) =
        some (2, ["a", "b"], ["b", "a"]) := by
  decide +kernel

/-- The clear drops the output that waits behind the loop. -/
def clearedWaitingRun : List TerminalAction :=
  suspendedRun ++ [.data "b", .clear ""] ++ List.replicate 3 (.drain 0 "")

theorem final_clearedWaitingRun :
    ((exec (step 5000) (starting shellInput "" "") clearedWaitingRun).map fun terminal =>
      (terminal.loops.length, terminal.produced, terminal.outputs)) =
        some (0, ["a", "b"], ["a"]) := by
  decide +kernel

/-- The session runs on after its exit, two loops publish the output out of order, and waiting
output is lost. -/
theorem cleared_not_delivered :
    ¬Throughout (step 5000) Delivered (starting shellInput "" "") clearedExitRun ∧
    ¬Throughout (step 5000) Delivered (starting shellInput "" "") clearedOutputRun ∧
    ¬Throughout (step 5000) Delivered (starting shellInput "" "") clearedWaitingRun := by
  refine ⟨?_, ?_, ?_⟩
  · intro h
    obtain ⟨final, hexec, hfinal⟩ := Option.map_eq_some_iff.mp final_clearedExitRun
    simp only [Prod.mk.injEq, List.length_eq_zero_iff] at hfinal
    obtain ⟨hfired, hloops, hrunning⟩ := hfinal
    exact (h.final hexec).exited hfired hloops hrunning
  · intro h
    obtain ⟨final, hexec, hfinal⟩ := Option.map_eq_some_iff.mp final_clearedOutputRun
    simp only [Prod.mk.injEq] at hfinal
    obtain ⟨-, hproduced, houtputs⟩ := hfinal
    have horder := (h.final hexec).inOrder
    rw [hproduced, houtputs] at horder
    revert horder
    decide
  · intro h
    obtain ⟨final, hexec, hfinal⟩ := Option.map_eq_some_iff.mp final_clearedWaitingRun
    simp only [Prod.mk.injEq, List.length_eq_zero_iff] at hfinal
    obtain ⟨hloops, hproduced, houtputs⟩ := hfinal
    have hall := (h.final hexec).complete hloops
    rw [hproduced, houtputs] at hall
    cases hall

instance (terminal : RunningTerminal) : ∀ action, Decidable (terminal.Undisturbed action)
  | .clear _ => inferInstanceAs (Decidable (terminal.session.unprocessed = []))
  | .data _ => inferInstanceAs (Decidable ((∀ event ∈ terminal.session.unprocessed,
      event.isExit = false) ∧
      (terminal.loops = [] ∨ terminal.session.processEventDrainRunning = true)))
  | .exit _ => inferInstanceAs (Decidable
      (terminal.loops = [] ∨ terminal.session.processEventDrainRunning = true))
  | .drain _ _ | .spawn _ _ | .open _ _ | .persisted | .publish _ | .resize _ _ _ | .write _ =>
    isTrue trivial

/-- A clear while the loop is suspended with the first output; the next output and the exit come
when the loop is through. -/
def earlyClearRun : List TerminalAction :=
  suspendedRun ++ [.clear "", .persisted, .drain 0 "", .drain 0 "", .publish "", .drain 0 "",
    .data "b", .drain 0 "", .data "c", .exit ⟨some 0, none⟩] ++
    List.replicate 9 (.drain 0 "")

theorem earlyClearRun_delivered :
    Throughout (step 5000) Delivered (starting shellInput "" "") earlyClearRun ∧
      (exec (step 5000) (starting shellInput "" "") earlyClearRun).map (fun terminal =>
        (terminal.loops.length, terminal.outputs, terminal.session.status)) =
          some (0, ["a", "b", "c"], .exited) := by
  constructor
  · apply (delivered_throughout 5000 shellInput "" "" earlyClearRun).2
    decide +kernel
  · decide +kernel

end RunningTerminal

end GT3Code.Terminal
