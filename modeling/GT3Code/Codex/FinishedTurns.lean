import GT3Code.Codex.SessionFibers

/-! # Finished turns and ended sessions

A call and the read loop both write the session record. A call that sent a turn writes it as the
active one when it goes on after the response, whatever the read loop has handled meanwhile.
-/

namespace GT3Code.Codex

open GT3Code.Base GT3Code.Contracts

def CodexSession.Ended (session : CodexSession) : Prop :=
  (session.status = .closed ∨ session.status = .error) ∧ session.activeTurnId = none

/-- The active turn is one whose end was not handled, an interrupt without a turn goes to no other,
and a session that has ended stays so. -/
structure CodexWorld.TurnsAgree (world : CodexWorld) : Prop where
  active : ∀ turnId, world.session.activeTurnId = some turnId → turnId ∉ world.completedTurns
  interrupts : ∀ turnId, effectiveTurnId none world.session = some turnId →
    turnId ∉ world.completedTurns
  ended : world.ended = true → world.session.Ended

def SessionUpdate.Timely (world : CodexWorld) : SessionUpdate → Prop
  | .turnSent turnId _ => turnId ∉ world.completedTurns ∧ world.ended = false
  | .turnStarted _ | .rolledBack => world.ended = false
  | .turnCompleted _ failed _ => world.ended = true → failed = true
  | .error _ willRetry => world.ended = true → willRetry = false
  | .threadStarted _ | .exited _ | .closed => True

/-- No call writes a turn as active after its end was handled, and after the end of the session
nothing writes a turn or a status other than an error. -/
def UpdatesTimely (pool : SessionPool) :
    SessionAction → Prop
  | .advance n _ => ∀ change rest,
      pool.processes[n]? = some (.ask (.updateSession change) rest) → change.Timely pool.view.world
  | _ => True

def ServerMessage.startedTurn : ServerMessage → Option TurnId
  | .notification (.turnStarted _ turnId) => some turnId
  | _ => none

def ServerMessage.completedTurn : ServerMessage → Option TurnId
  | .notification (.turnCompleted _ turnId _ _) => some turnId
  | _ => none

def ServerInOrder (world : CodexWorld) : CodexExternal → Prop
  | .receive message => ∀ earlier ∈ world.received,
      earlier.completedTurn = none ∨ earlier.completedTurn ≠ message.startedTurn
  | _ => True

instance : ∀ world event, Decidable (ServerInOrder world event)
  | world, .receive message => inferInstanceAs (Decidable (∀ earlier ∈ world.received,
      earlier.completedTurn = none ∨ earlier.completedTurn ≠ message.startedTurn))
  | _, .endInput _ => isTrue trivial
  | _, .exit _ => isTrue trivial

def startedRuns : StepConditions CodexWorld CodexOp String CodexCall CodexExternal where
  call _ call := call.starts = false
  advance _ _ _ := True
  external := ServerInOrder
  interrupt _ _ := True

instance : ∀ pool action, Decidable (LoopSystem.Meets startedRuns
    (pool : SessionPool) action)
  | _, .call call => inferInstanceAs (Decidable (call.starts = false))
  | _, .advance _ _ => isTrue fun _ _ _ => trivial
  | pool, .external event => inferInstanceAs (Decidable (ServerInOrder pool.view.world event))
  | _, .take _ => isTrue trivial
  | _, .interrupt _ => isTrue trivial

/-- The session as `start` leaves it. -/
def startedSession (threadId cwd model : String) : CodexSession where
  status := .ready
  cwd := some cwd
  model := some model
  resumeCursor := some { threadId := threadId }
  activeTurnId := none
  lastError := none

namespace CodexWorld

variable {world : CodexWorld} {op : CodexOp}

theorem session_of_after (hupdate : ∀ change, op ≠ .updateSession change)
    (hset : ∀ session, op ≠ .setSession session) :
    (world.after op).session = world.session ∧
      (world.after op).completedTurns = world.completedTurns ∧
      (world.after op).ended = world.ended := by
  cases op with
  | updateSession change => exact absurd rfl (hupdate change)
  | setSession session => exact absurd rfl (hset session)
  | _ => exact ⟨rfl, rfl, rfl⟩

theorem input_of_after : (world.after op).received = world.received ∧
    (world.after op).taken = world.taken := by
  cases op <;> exact ⟨rfl, rfl⟩

end CodexWorld

/-! ## The order of the messages -/

/-- The messages are in order, what was said of turns was handled by the read loop, and the read
loop alone routes messages. -/
structure TurnOrder (world : CodexWorld) (states : Nat → Fiber) : Prop where
  order : ∀ (i j : Nat) (earlier later : ServerMessage) turnId, i < j →
    world.received[i]? = some earlier → world.received[j]? = some later →
    earlier.completedTurn = some turnId → later.startedTurn ≠ some turnId
  completed : ∀ turnId ∈ world.completedTurns, ∃ i < world.taken, ∃ message,
    world.received[i]? = some message ∧ message.completedTurn = some turnId
  routing : ∀ n number message owed, states n = .routing number message owed →
    n = 0 ∧ world.taken = number + 1 ∧ world.received[number]? = some message
  started : ∀ n registered, states n ≠ .caller .starting registered

namespace TurnOrder

variable {world : CodexWorld} {states : Nat → Fiber} {n : Nat}

theorem update {fiber : Fiber} (h : TurnOrder world states)
    (hrouting : ∀ number message owed, fiber = .routing number message owed →
      n = 0 ∧ world.taken = number + 1 ∧ world.received[number]? = some message)
    (hstarted : ∀ registered, fiber ≠ .caller .starting registered) :
    TurnOrder world (Function.update states n fiber) where
  order := h.order
  completed := h.completed
  routing m number message owed hm := by
    by_cases hmn : m = n
    · subst hmn
      rw [Function.update_self] at hm
      exact hrouting number message owed hm
    · rw [Function.update_of_ne hmn] at hm
      exact h.routing m number message owed hm
  started m registered hm := by
    by_cases hmn : m = n
    · subst hmn
      rw [Function.update_self] at hm
      exact hstarted registered hm
    · rw [Function.update_of_ne hmn] at hm
      exact h.started m registered hm

variable {message : ServerMessage} {turnId : TurnId}

theorem startedTurn_of_changes (h : message.changes (.turnStarted turnId)) :
    message.startedTurn = some turnId := by
  obtain ⟨notification, threadId, rfl, hchange⟩ := h
  cases notification <;> cases hchange
  rfl

theorem completedTurn_of_changes {failed : Bool} {lastError : Option String}
    (h : message.changes (.turnCompleted turnId failed lastError)) :
    message.completedTurn = some turnId := by
  obtain ⟨notification, threadId, rfl, hchange⟩ := h
  cases notification <;> cases hchange
  rfl

theorem completedTurn_of_startedTurn (h : message.startedTurn = some turnId) :
    message.completedTurn = none := by
  unfold ServerMessage.startedTurn at h
  split at h
  · rfl
  · cases h

theorem not_completed {number : Nat} {owed : Owed} (h : TurnOrder world states)
    (hn : states n = .routing number message owed)
    (hchanges : message.changes (.turnStarted turnId)) : turnId ∉ world.completedTurns := by
  intro hcompleted
  obtain ⟨-, htaken, hmessage⟩ := h.routing n number message owed hn
  obtain ⟨i, hi, earlier, hearlier, hcompletes⟩ := h.completed turnId hcompleted
  have hstarts := startedTurn_of_changes hchanges
  by_cases heq : i = number
  · subst heq
    cases hearlier.symm.trans hmessage
    cases (completedTurn_of_startedTurn hstarts).symm.trans hcompletes
  · exact h.order i number earlier message turnId (by omega) hearlier hmessage hcompletes hstarts

theorem after_update {change : SessionUpdate} (h : TurnOrder world states)
    (hallowed : (states n).allowed (.updateSession change)) :
    TurnOrder (world.update change) states where
  order := h.order
  completed turnId hmem := by
    cases change with
    | turnCompleted completedId failed lastError =>
      rcases List.mem_cons.mp hmem with rfl | hmem
      · rcases Fiber.of_allowed_update hallowed with ⟨kind, _, -, hmade⟩ |
          ⟨number, message, owed, hn, hchanges⟩ | ⟨-, _, hexited⟩
        · cases kind <;> cases hmade
        · obtain ⟨-, htaken, hmessage⟩ := h.routing n number message owed hn
          refine ⟨number, ?_, message, hmessage, completedTurn_of_changes hchanges⟩
          show number < world.taken
          omega
        · cases hexited
      · exact h.completed turnId hmem
    | _ => exact h.completed turnId hmem
  routing := h.routing
  started := h.started

theorem after {op : CodexOp} (h : TurnOrder world states) (hallowed : (states n).allowed op) :
    TurnOrder (world.after op) states := by
  cases op with
  | updateSession change => exact h.after_update hallowed
  | _ => exact ⟨h.order, h.completed, h.routing, h.started⟩

theorem receive (h : TurnOrder world states) (hmessage : ServerInOrder world (.receive message))
    (responded : List Nat) :
    TurnOrder { world with received := world.received ++ [message], responded := responded }
      states where
  order i j earlier later turnId hij hearlier hlater hcompletes hstarts := by
    have hi : i < world.received.length := by
      have hj := (List.getElem?_eq_some_iff.mp hlater).1
      simp only [List.length_append, List.length_singleton] at hj
      omega
    have hbefore : world.received[i]? = some earlier :=
      (List.getElem?_append_left hi).symm.trans hearlier
    by_cases hj : j < world.received.length
    · have hafter : world.received[j]? = some later :=
        (List.getElem?_append_left hj).symm.trans hlater
      exact h.order i j earlier later turnId hij hbefore hafter hcompletes hstarts
    · have hlast : [message][j - world.received.length]? = some later :=
        (List.getElem?_append_right (by omega)).symm.trans hlater
      obtain rfl := List.mem_singleton.mp (List.mem_of_getElem? hlast)
      rcases hmessage earlier (List.mem_of_getElem? hbefore) with hnone | hne
      · cases hnone.symm.trans hcompletes
      · exact hne (hcompletes.trans hstarts.symm)
  completed turnId hmem := by
    obtain ⟨i, hi, earlier, hearlier, hcompletes⟩ := h.completed turnId hmem
    refine ⟨i, hi, earlier, ?_, hcompletes⟩
    exact (List.getElem?_append_left (List.getElem?_eq_some_iff.mp hearlier).1).trans hearlier
  routing n number other owed hn := by
    obtain ⟨hzero, htaken, hother⟩ := h.routing n number other owed hn
    refine ⟨hzero, htaken, ?_⟩
    exact (List.getElem?_append_left (List.getElem?_eq_some_iff.mp hother).1).trans hother
  started := h.started

theorem take {message : ServerMessage} {owed : Owed} (h : TurnOrder world states)
    (hmessage : world.received[world.taken]? = some message) :
    TurnOrder { world with taken := world.taken + 1 }
      (Function.update states 0 (.routing world.taken message owed)) where
  order := h.order
  completed turnId hmem := by
    obtain ⟨i, hi, earlier, hearlier, hcompletes⟩ := h.completed turnId hmem
    exact ⟨i, Nat.lt_succ_of_lt hi, earlier, hearlier, hcompletes⟩
  routing n number other owed' hn := by
    by_cases hzero : n = 0
    · subst hzero
      rw [Function.update_self] at hn
      cases hn
      exact ⟨rfl, rfl, hmessage⟩
    · rw [Function.update_of_ne hzero] at hn
      exact absurd (h.routing n number other owed' hn).1 hzero
  started n registered hn := by
    by_cases hzero : n = 0
    · subst hzero
      rw [Function.update_self] at hn
      cases hn
    · rw [Function.update_of_ne hzero] at hn
      exact h.started n registered hn

end TurnOrder

section Runs

variable (library : CodexLibrary) (options : CodexSessionRuntimeOptions)

theorem turnOrder_keeps : LoopSystem.Keeps (codex library options) fibers TurnOrder startedRuns where
  start world states n call hcall hn h hidle := by
    rcases hcall with hcall | ⟨op, hforks⟩
    · refine ⟨_, codexProgram_runs library options call, h.update (fun _ _ _ heq => by cases heq) ?_⟩
      intro registered heq
      cases call with
      | start => cases hcall
      | _ => cases heq
    · cases hforks
  advance world states n op uuid res next h hallowed _ hanswer := by
    obtain ⟨-, rfl⟩ := CodexWorld.of_answer hanswer
    apply (h.after hallowed).update
    · intro number message owed heq
      obtain ⟨before, hbefore⟩ := Fiber.of_next_routing heq
      obtain ⟨hzero, htaken, hmessage⟩ := h.routing n number message before hbefore
      rw [CodexWorld.input_of_after.1, CodexWorld.input_of_after.2]
      exact ⟨hzero, htaken, hmessage⟩
    · intro registered heq
      rcases Fiber.of_next_caller heq with ⟨before, hbefore⟩ | ⟨hkind, -⟩
      · exact h.started n before hbefore
      · cases hkind
  external world states event next h hmeets hexternal := by
    cases event with
    | receive message =>
      unfold codex codexExternal at hexternal
      simp only at hexternal
      split at hexternal
      · cases hexternal
      · cases hexternal
        exact h.receive hmeets _
    | endInput | exit =>
      unfold codex codexExternal at hexternal
      simp only at hexternal
      split at hexternal <;> cases hexternal
      exact ⟨h.order, h.completed, h.routing, h.started⟩
  take world states n process next hn h hended htake := by
    rcases codexTake_cases htake with ⟨message, rfl, -, hmessage, rfl, rfl⟩ |
      ⟨inputEnd, rfl, -, -, -, -, rfl, rfl⟩ | ⟨hne, -, rfl, rfl⟩
    · exact ⟨_, routeMessage_runs _ _, h.take hmessage⟩
    · refine ⟨_, handleTermination_runs inputEnd, ?_⟩
      have hsame : TurnOrder { world with inputHandled := true } states :=
        ⟨h.order, h.completed, h.routing, h.started⟩
      exact hsame.update (fun _ _ _ heq => by cases heq) fun _ heq => by cases heq
    · refine ⟨_, watchExit_runs, ?_⟩
      have hsame : TurnOrder { world with watching := true } states :=
        ⟨h.order, h.completed, h.routing, h.started⟩
      exact hsame.update (fun _ _ _ heq => by cases heq) fun _ heq => by cases heq
  interrupt world states n op hn h _ hinterrupts hop := by
    have hsame : TurnOrder (codexFinalize n op world) states := by
      unfold codexFinalize
      split <;> exact ⟨h.order, h.completed, h.routing, h.started⟩
    exact hsame.update (fun _ _ _ heq => by cases heq) fun _ heq => by cases heq

omit library options in
theorem turnsAgree_iff {world : CodexWorld} : world.TurnsAgree ↔
    (∀ turnId, world.session.activeTurnId = some turnId → turnId ∉ world.completedTurns) ∧
      (world.ended = true → world.session.Ended) := by
  constructor
  · exact fun h => ⟨h.active, h.ended⟩
  · rintro ⟨hactive, hended⟩
    refine ⟨hactive, ?_, hended⟩
    intro turnId htarget
    -- Without a turn the target is the active one.
    refine hactive turnId ?_
    unfold effectiveTurnId truthy at htarget
    rw [Option.none_or, Option.filter_eq_some_iff] at htarget
    exact htarget.1

theorem update_turnsAgree_iff {world : CodexWorld} {states : Nat → Fiber} {n : Nat}
    {change : SessionUpdate} (h : TurnOrder world states) (hagree : world.TurnsAgree)
    (hallowed : (states n).allowed (.updateSession change)) :
    (world.update change).TurnsAgree ↔ change.Timely world := by
  rw [turnsAgree_iff]
  cases change with
  | threadStarted threadId => exact ⟨fun _ => trivial, fun _ => ⟨hagree.active, hagree.ended⟩⟩
  | turnStarted turnId =>
    have hfresh : turnId ∉ world.completedTurns := by
      rcases Fiber.of_allowed_update hallowed with ⟨kind, _, -, hmade⟩ |
        ⟨number, message, owed, hn, hchanges⟩ | ⟨-, _, hexited⟩
      · cases kind <;> cases hmade
      · exact h.not_completed hn hchanges
      · cases hexited
    simp [CodexWorld.update, updateSession, SessionUpdate.Timely, CodexSession.Ended, hfresh]
  | turnCompleted turnId failed lastError =>
    cases failed <;>
      simp [CodexWorld.update, updateSession, SessionUpdate.Timely, CodexSession.Ended]
  | error message willRetry =>
    have hactive := hagree.active
    have hended := hagree.ended
    cases willRetry
    · simp only [CodexWorld.update, updateSession, SessionUpdate.Timely, CodexSession.Ended]
      simp only [Bool.false_eq_true, ↓reduceIte, implies_true, iff_true]
      exact ⟨hactive, fun hend => ⟨Or.inr trivial, (hended hend).2⟩⟩
    · simp only [CodexWorld.update, updateSession, SessionUpdate.Timely, CodexSession.Ended]
      constructor
      · intro hagree' hend
        rcases (hagree'.2 hend).1 with hstatus | hstatus <;> cases hstatus
      · intro htimely
        exact ⟨hactive, fun hend => absurd (htimely hend) (by decide)⟩
  | exited exitCode =>
    simp only [CodexWorld.update, updateSession, SessionUpdate.Timely, CodexSession.Ended]
    by_cases hcode : exitCode = 0 <;> simp [hcode]
  | closed => simp [CodexWorld.update, updateSession, SessionUpdate.Timely, CodexSession.Ended]
  | turnSent | rolledBack =>
    simp [CodexWorld.update, updateSession, SessionUpdate.Timely, CodexSession.Ended]

omit library options in
theorem turnsAgree_congr {world next : CodexWorld} (hsession : next.session = world.session)
    (hcompleted : next.completedTurns = world.completedTurns) (hended : next.ended = world.ended) :
    next.TurnsAgree ↔ world.TurnsAgree := by
  rw [turnsAgree_iff, turnsAgree_iff, hsession, hcompleted, hended]

theorem step_turnsAgree_iff {pool next : SessionPool} {action : SessionAction}
    (h : ∃ states, LoopSystem.Typed (codex library options) fibers TurnOrder pool states)
    (hagree : pool.view.world.TurnsAgree)
    (hstep : (codex library options).step pool action = some next) :
    next.view.world.TurnsAgree ↔ UpdatesTimely pool action := by
  obtain ⟨states, htyped⟩ := h
  cases LoopSystem.steps_of_step hstep with
  | call call => exact ⟨fun _ => trivial, fun _ => hagree⟩
  | advance n uuid op rest res world hprocess hanswer =>
    have hallowed : (states n).allowed op := (htyped.runs n _ hprocess).1
    obtain ⟨-, rfl⟩ := CodexWorld.of_answer hanswer
    have hother : (∀ change, op ≠ .updateSession change) →
        ((pool.view.world.after op).TurnsAgree ↔ UpdatesTimely pool (.advance n uuid)) := by
      intro hupdate
      have hset : ∀ session, op ≠ .setSession session := by
        rintro session rfl
        cases hn : states n with
        | caller kind registered =>
          rw [hn] at hallowed
          exact htyped.inv.started n registered (hallowed ▸ hn)
        | terminating step =>
          rw [hn] at hallowed
          cases step <;> cases hallowed
        | _ =>
          rw [hn] at hallowed
          cases hallowed
      obtain ⟨hsession, hcompleted, hended⟩ := CodexWorld.session_of_after hupdate hset
      refine ⟨fun _ change rest' hprocess' => ?_, fun _ => ?_⟩
      · cases hprocess.symm.trans hprocess'
        exact absurd rfl (hupdate change)
      · exact (turnsAgree_congr hsession hcompleted hended).mpr hagree
    cases op with
    | updateSession change =>
      rw [show (pool.view.world.after (.updateSession change)) =
        pool.view.world.update change from rfl]
      rw [update_turnsAgree_iff htyped.inv hagree hallowed]
      refine ⟨fun htimely change' rest' hprocess' => ?_, fun htimely => htimely change rest hprocess⟩
      cases hprocess.symm.trans hprocess'
      exact htimely
    | _ => exact hother fun _ heq => by cases heq
  | external event world hexternal =>
    refine ⟨fun _ => trivial, fun _ => ?_⟩
    have hsame : world.session = pool.view.world.session ∧
        world.completedTurns = pool.view.world.completedTurns ∧
        world.ended = pool.view.world.ended := by
      cases event <;>
        (unfold codex codexExternal at hexternal
         simp only at hexternal
         split at hexternal <;> cases hexternal
         exact ⟨rfl, rfl, rfl⟩)
    exact (turnsAgree_congr hsame.1 hsame.2.1 hsame.2.2).mpr hagree
  | take loop process ended world hloop hended hnot htake =>
    refine ⟨fun _ => trivial, fun _ => ?_⟩
    have hsame : world.session = pool.view.world.session ∧
        world.completedTurns = pool.view.world.completedTurns ∧
        world.ended = pool.view.world.ended := by
      rcases codexTake_cases htake with ⟨_, -, -, -, -, rfl⟩ | ⟨_, -, -, -, -, -, -, rfl⟩ |
        ⟨-, -, -, rfl⟩ <;> exact ⟨rfl, rfl, rfl⟩
    exact (turnsAgree_congr hsame.1 hsame.2.1 hsame.2.2).mpr hagree
  | interrupt loop process op hloop hinterrupts hprocess hop =>
    refine ⟨fun _ => trivial, fun _ => ?_⟩
    have hsame : (codexFinalize loop op pool.view.world).session = pool.view.world.session ∧
        (codexFinalize loop op pool.view.world).completedTurns =
          pool.view.world.completedTurns ∧
        (codexFinalize loop op pool.view.world).ended = pool.view.world.ended := by
      unfold codexFinalize
      split <;> exact ⟨rfl, rfl, rfl⟩
    exact (turnsAgree_congr hsame.1 hsame.2.1 hsame.2.2).mpr hagree

/-- In the runs of a started session in which the app server keeps its order, no finished turn is
active and an ended session stays ended exactly when every update of the session is timely. -/
theorem turnsAgree_throughout (threadId cwd model : String)
    (actions : List (SessionAction))
    (hstarted : StepsMeet (codex library options).step (LoopSystem.Meets startedRuns)
      ((codex library options).initial (.initial (startedSession threadId cwd model))) actions) :
    Throughout (codex library options).step (fun pool => pool.view.world.TurnsAgree)
        ((codex library options).initial (.initial (startedSession threadId cwd model))) actions ↔
      StepsMeet (codex library options).step UpdatesTimely
        ((codex library options).initial (.initial (startedSession threadId cwd model)))
        actions := by
  refine throughout_iff_stepsMeet_within
    (I := fun pool => ∃ states, LoopSystem.Typed (codex library options) fibers TurnOrder pool states)
    ?_ ?_ ?_ ?_ hstarted
  · rintro pool action next ⟨states, h⟩ hmeets hstep
    exact h.step (turnOrder_keeps library options).keepsForks hmeets hstep
  · intro pool action next h hagree hstep
    exact step_turnsAgree_iff library options h hagree hstep
  · refine ⟨_, LoopSystem.typed_initial ⟨?_, ?_, ?_, ?_⟩⟩
    · intro i j earlier later turnId _ hearlier
      cases hearlier
    · intro turnId hmem
      cases hmem
    · intro n number message owed heq
      cases heq
    · intro n registered heq
      cases heq
  · refine turnsAgree_iff.mpr ⟨fun turnId hactive => ?_, fun hended => ?_⟩
    · cases hactive
    · cases hended

def sampleLibrary : CodexLibrary where
  decodeInitialize _ := .ok ()
  decodeThreadOpen _ := .ok ("thread", "/repo", "gpt-5")
  decodeTurnStart result := .ok ((result.bind Json.string?).getD "")
  decodeTurnInterrupt _ := .ok ()
  decodeThreadRead _ := .ok ()
  decodeThreadRollback _ := .ok ()
  normalizeModelSlug model := some model
  isRecoverableThreadResumeError _ := false

def sampleOptions : CodexSessionRuntimeOptions where
  cwd := "/repo"
  runtimeMode := .fullAccess
  model := none
  serviceTier := none
  resumeCursor := none

def promptInput : CodexSessionRuntimeSendTurnInput where
  input := some "hello"
  images := []
  model := none
  serviceTier := none
  effort := none
  interactionMode := none

/-- A turn is sent; its response, start and end are handled before the call goes on. -/
def turnEndsFirst : List (SessionAction) :=
  [.call (.sendTurn promptInput)] ++ List.replicate 5 (.advance 2 "") ++
    [.external (.receive (.response { id := "1", result := some (.str "turn"), error := none })),
      .external (.receive (.notification (.turnStarted "thread" "turn"))),
      .external (.receive (.notification (.turnCompleted "thread" "turn" false none))),
      .take 0, .advance 0 "", .advance 0 "",
      .take 0, .advance 0 "", .advance 0 "", .advance 0 "",
      .take 0, .advance 0 "", .advance 0 "", .advance 0 ""] ++
    List.replicate 2 (.advance 2 "")

theorem turnEndsFirst_started : StepsMeet (codex sampleLibrary sampleOptions).step
    (LoopSystem.Meets startedRuns)
    ((codex sampleLibrary sampleOptions).initial
      (.initial (startedSession "thread" "/repo" "gpt-5"))) turnEndsFirst := by
  decide +kernel

theorem not_turnsAgree_throughout :
    ¬ ∀ (library : CodexLibrary) (options : CodexSessionRuntimeOptions)
      (actions : List (SessionAction)),
      StepsMeet (codex library options).step (LoopSystem.Meets startedRuns)
        ((codex library options).initial (.initial (startedSession "thread" "/repo" "gpt-5")))
        actions →
      Throughout (codex library options).step (fun pool => pool.view.world.TurnsAgree)
        ((codex library options).initial (.initial (startedSession "thread" "/repo" "gpt-5")))
        actions := by
  intro h
  have hreached : (exec (codex sampleLibrary sampleOptions).step
      ((codex sampleLibrary sampleOptions).initial
        (.initial (startedSession "thread" "/repo" "gpt-5"))) turnEndsFirst).map
      (fun pool => (pool.view.world.session.activeTurnId, pool.view.world.completedTurns)) =
      some (some "turn", ["turn"]) := rfl
  obtain ⟨final, hfinal, hturns⟩ := Option.map_eq_some_iff.mp hreached
  obtain ⟨hactive, hcompleted⟩ := Prod.mk.inj hturns
  have hagree := (h _ _ turnEndsFirst turnEndsFirst_started).final hfinal
  exact hagree.active "turn" hactive (hcompleted ▸ List.mem_singleton_self _)

/-- The same turn, with the call going on before the end is handled. -/
def callGoesOnFirst : List (SessionAction) :=
  [.call (.sendTurn promptInput)] ++ List.replicate 5 (.advance 2 "") ++
    [.external (.receive (.response { id := "1", result := some (.str "turn"), error := none })),
      .take 0, .advance 0 "", .advance 0 "", .advance 2 "", .advance 2 "", .advance 2 "",
      .external (.receive (.notification (.turnCompleted "thread" "turn" false none))),
      .take 0, .advance 0 "", .advance 0 "", .advance 0 ""]

instance (world : CodexWorld) : ∀ change, Decidable (SessionUpdate.Timely world change)
  | .turnSent _ _ => inferInstanceAs (Decidable (_ ∧ _))
  | .turnStarted _ | .rolledBack => inferInstanceAs (Decidable (_ = false))
  | .turnCompleted _ _ _ | .error _ _ => inferInstanceAs (Decidable (_ → _))
  | .threadStarted _ | .exited _ | .closed => isTrue trivial

/-- What the process writes to the session next. -/
def updateOf : CodexEffect PUnit → Option SessionUpdate
  | .ask (.updateSession change) _ => some change
  | _ => none

theorem exists_of_updateOf {process : CodexEffect PUnit} {change : SessionUpdate}
    (h : updateOf process = some change) :
    ∃ rest, process = .ask (.updateSession change) rest := by
  unfold updateOf at h
  split at h
  · cases h
    exact ⟨_, rfl⟩
  · cases h

theorem updatesTimely_advance_iff {pool : SessionPool} {n : Nat} {answer : String} :
    UpdatesTimely pool (.advance n answer) ↔
      ∀ change ∈ pool.processes[n]?.bind updateOf, change.Timely pool.view.world := by
  constructor
  · intro h change hchange
    obtain ⟨process, hprocess, hupdate⟩ := Option.bind_eq_some_iff.mp hchange
    obtain ⟨rest, rfl⟩ := exists_of_updateOf hupdate
    exact h change rest hprocess
  · intro h change rest hprocess
    exact h change (Option.bind_eq_some_iff.mpr ⟨_, hprocess, rfl⟩)

instance (pool : SessionPool) : ∀ action, Decidable (UpdatesTimely pool action)
  | .advance _ _ => decidable_of_iff _ updatesTimely_advance_iff.symm
  | .call _ | .take _ | .interrupt _ | .external _ => isTrue trivial

theorem turnsAgree_throughout_callGoesOnFirst :
    Throughout (codex sampleLibrary sampleOptions).step (fun pool => pool.view.world.TurnsAgree)
        ((codex sampleLibrary sampleOptions).initial
          (.initial (startedSession "thread" "/repo" "gpt-5"))) callGoesOnFirst ∧
      (exec (codex sampleLibrary sampleOptions).step ((codex sampleLibrary sampleOptions).initial
          (.initial (startedSession "thread" "/repo" "gpt-5"))) callGoesOnFirst).map
        (fun pool => (pool.view.world.session.activeTurnId, pool.view.world.completedTurns)) =
        some (none, ["turn"]) := by
  refine ⟨(turnsAgree_throughout sampleLibrary sampleOptions "thread" "/repo" "gpt-5"
    callGoesOnFirst ?_).mpr ?_, rfl⟩
  · decide +kernel
  · decide +kernel

end Runs

end GT3Code.Codex
