import GT3Code.Codex.FinishedTurns

/-! # Closing a session

Requests to the app server are completed by the read loop alone, and closing the session interrupts
it. Who still waits for a response then waits for ever.
-/

namespace GT3Code.Codex

open GT3Code.Base GT3Code.Contracts

variable (library : CodexLibrary) (options : CodexSessionRuntimeOptions)

/-- Once `close` is through, every fiber that has not ended can take its next step. -/
def NobodyStranded (pool : SessionPool) : Prop :=
  pool.view.world.eventsShutdown = true → ∀ (n : Nat) op rest,
    pool.processes[n]? = some (.ask op rest) →
      ∃ uuid, ((codex library options).step pool (.advance n uuid)).isSome = true

def CodexOp.registers : CodexOp → Bool
  | .registerPending _ => true
  | _ => false

/-- The read loop is interrupted when every request has its response, and no request is registered
after that. -/
def resolvedFirst : StepConditions CodexWorld CodexOp String CodexCall CodexExternal where
  call _ _ := True
  advance world op _ := op.registers = true → 0 ∉ world.interrupted
  external _ _ := True
  interrupt loop world := loop = 0 → ∀ id ∈ world.registered, (world.responses id).isSome = true

instance : ∀ world call, Decidable (resolvedFirst.call world call) := fun _ _ => isTrue trivial

instance : ∀ world op uuid, Decidable (resolvedFirst.advance world op uuid) := fun world op _ =>
  inferInstanceAs (Decidable (op.registers = true → 0 ∉ world.interrupted))

instance : ∀ world event, Decidable (resolvedFirst.external world event) :=
  fun _ _ => isTrue trivial

instance : ∀ loop world, Decidable (resolvedFirst.interrupt loop world) := fun loop world =>
  inferInstanceAs (Decidable (loop = 0 →
    ∀ id ∈ world.registered, (world.responses id).isSome = true))

/-! ## The invariant -/

namespace Fiber

def IsCall : Fiber → Prop
  | .idle | .caller _ _ => True
  | _ => False

end Fiber

def ScopeClosed (world : CodexWorld) : Prop := 0 ∈ world.interrupted ∧ 1 ∈ world.interrupted

/-- The calls run next to the two loops, which are idle once interrupted; a call waits for no more
than what was registered, and what was registered has its response when the read loop is gone. -/
structure Closing (world : CodexWorld) (states : Nat → Fiber) : Prop where
  calls : ∀ n, 2 ≤ n → (states n).IsCall
  loops : ∀ n, n < 2 → n ∈ world.interrupted → states n = .idle
  registered : ∀ n kind registered id, states n = .caller kind registered → id ∈ registered →
    id ∈ world.registered
  resolved : 0 ∈ world.interrupted → ∀ id ∈ world.registered, world.responses id ≠ none
  closed : ∀ n registered, states n = .caller .closed registered → ScopeClosed world
  shutdown : world.eventsShutdown = true → ScopeClosed world

namespace Closing

variable {world : CodexWorld} {states : Nat → Fiber}

variable {n : Nat} {op : CodexOp}

variable {fiber : Fiber} {res : op.Result}

theorem update (h : Closing world states) (hcalls : 2 ≤ n → fiber.IsCall)
    (hloops : n < 2 → n ∈ world.interrupted → fiber = .idle)
    (hregistered : ∀ kind registered id, fiber = .caller kind registered → id ∈ registered →
      id ∈ world.registered)
    (hclosed : ∀ registered, fiber = .caller .closed registered → ScopeClosed world) :
    Closing world (Function.update states n fiber) where
  calls m hm := by
    by_cases hmn : m = n
    · subst hmn
      rw [Function.update_self]
      exact hcalls hm
    · rw [Function.update_of_ne hmn]
      exact h.calls m hm
  loops m hm hinterrupted := by
    by_cases hmn : m = n
    · subst hmn
      rw [Function.update_self]
      exact hloops hm hinterrupted
    · rw [Function.update_of_ne hmn]
      exact h.loops m hm hinterrupted
  registered m kind registered id hcaller hid := by
    by_cases hmn : m = n
    · subst hmn
      rw [Function.update_self] at hcaller
      exact hregistered kind registered id hcaller hid
    · rw [Function.update_of_ne hmn] at hcaller
      exact h.registered m kind registered id hcaller hid
  resolved := h.resolved
  closed m registered hcaller := by
    by_cases hmn : m = n
    · subst hmn
      rw [Function.update_self] at hcaller
      exact hclosed registered hcaller
    · rw [Function.update_of_ne hmn] at hcaller
      exact h.closed m registered hcaller
  shutdown := h.shutdown

theorem after (h : Closing world states) (hallowed : (states n).allowed op)
    (hmeets : op.registers = true → 0 ∉ world.interrupted) : Closing (world.after op) states := by
  cases op with
  | registerPending id =>
    refine ⟨h.calls, h.loops, fun n kind registered id hcaller hid => ?_, fun hzero => ?_,
      h.closed, h.shutdown⟩
    · exact List.mem_append_left _ (h.registered n kind registered id hcaller hid)
    · exact absurd hzero (hmeets rfl)
  | completeResponse id exit =>
    refine ⟨h.calls, h.loops, h.registered, fun hzero other hother => ?_, h.closed, h.shutdown⟩
    exact CodexWorld.complete_ne_none (h.resolved hzero other hother) _ _
  | shutdownEvents =>
    refine ⟨h.calls, h.loops, h.registered, h.resolved, h.closed, fun _ => ?_⟩
    cases hn : states n with
    | caller kind registered =>
      rw [hn] at hallowed
      obtain rfl : kind = .closed := hallowed
      exact h.closed n registered hn
    | terminating step =>
      rw [hn] at hallowed
      cases step <;> cases hallowed
    | _ =>
      rw [hn] at hallowed
      cases hallowed
  | _ => exact ⟨h.calls, h.loops, h.registered, h.resolved, h.closed, h.shutdown⟩

theorem isCall_next (h : fiber.IsCall) (hallowed : fiber.allowed op) :
    (fiber.next op res).IsCall := by
  cases fiber with
  | idle => cases hallowed
  | caller kind registered => cases kind <;> cases op <;> trivial
  | routing | terminating | watching => cases h

theorem advance {uuid : String} (h : Closing world states) (hallowed : (states n).allowed op)
    (hmeets : op.registers = true → 0 ∉ world.interrupted)
    (hres : world.result op uuid = some res) :
    Closing (world.after op) (Function.update states n ((states n).next op res)) := by
  have hinterrupted : (world.after op).interrupted = world.interrupted := by cases op <;> rfl
  have hafter := h.after hallowed hmeets
  apply hafter.update
  · intro hn
    exact isCall_next (h.calls n hn) hallowed
  · intro hn hmem
    rw [hinterrupted] at hmem
    rw [h.loops n hn hmem] at hallowed
    cases hallowed
  · intro kind registered id hnext hid
    rcases Fiber.registered_of_next hnext hid with ⟨kind', before, hbefore, hid⟩ | rfl
    · exact hafter.registered n kind' before id hbefore hid
    · exact List.mem_append_right _ (List.mem_singleton_self id)
  · intro registered hnext
    unfold ScopeClosed
    rw [hinterrupted]
    rcases Fiber.of_next_caller hnext with ⟨before, hbefore⟩ | ⟨-, rfl, -⟩
    · exact h.closed n before hbefore
    · simp only [CodexWorld.result] at hres
      split at hres
      · rename_i hboth
        exact hboth
      · cases hres

theorem congr {next : CodexWorld} (h : Closing world states)
    (hinterrupted : next.interrupted = world.interrupted)
    (hregistered : next.registered = world.registered)
    (hresponses : next.responses = world.responses)
    (hshutdown : next.eventsShutdown = world.eventsShutdown) : Closing next states := by
  refine ⟨h.calls, ?_, ?_, ?_, ?_, ?_⟩
  · rw [hinterrupted]
    exact h.loops
  · rw [hregistered]
    exact h.registered
  · rw [hinterrupted, hregistered, hresponses]
    exact h.resolved
  · unfold ScopeClosed
    rw [hinterrupted]
    exact h.closed
  · unfold ScopeClosed
    rw [hinterrupted, hshutdown]
    exact h.shutdown

theorem interrupt {op : Option CodexOp} (hn : n < 2) (h : Closing world states)
    (hmeets : n = 0 → ∀ id ∈ world.registered, (world.responses id).isSome = true) :
    Closing (codexFinalize n op world) (Function.update states n .idle) := by
  have hworld : Closing { world with interrupted := n :: world.interrupted }
      (Function.update states n .idle) := by
    have hidle : Closing world (Function.update states n .idle) := by
      apply h.update
      · exact fun _ => trivial
      · exact fun _ _ => rfl
      · exact fun _ _ _ h => by cases h
      · exact fun _ h => by cases h
    refine ⟨hidle.calls, ?_, hidle.registered, ?_, ?_, ?_⟩
    · intro m hm hmem
      by_cases hmn : m = n
      · subst hmn
        exact Function.update_self ..
      · exact hidle.loops m hm ((List.mem_cons.mp hmem).resolve_left hmn)
    · intro hzero id hid
      rcases List.mem_cons.mp hzero with hzero | hzero
      · exact Option.isSome_iff_ne_none.mp (hmeets hzero.symm id hid)
      · exact h.resolved hzero id hid
    · intro m registered hcaller
      obtain ⟨hzero, hone⟩ := hidle.closed m registered hcaller
      exact ⟨List.mem_cons_of_mem _ hzero, List.mem_cons_of_mem _ hone⟩
    · intro hshutdown
      obtain ⟨hzero, hone⟩ := h.shutdown hshutdown
      exact ⟨List.mem_cons_of_mem _ hzero, List.mem_cons_of_mem _ hone⟩
  apply hworld.congr
  all_goals
    unfold codexFinalize
    split <;> rfl

end Closing

theorem closing_keeps : LoopSystem.Keeps (codex library options) fibers Closing resolvedFirst where
  start world states n call hcall hn h hidle := by
    refine ⟨_, codexProgram_runs library options call, ?_⟩
    apply h.update
    · exact fun _ => trivial
    · exact fun hlt => absurd hlt (Nat.not_lt.mpr hn)
    · intro kind registered id heq hid
      cases heq
      cases hid
    · intro registered heq
      cases call <;> cases heq
  advance world states n op uuid res next h hallowed hmeets hanswer := by
    obtain ⟨hres, rfl⟩ := CodexWorld.of_answer hanswer
    exact h.advance hallowed hmeets hres
  external world states event next h _ hexternal := by
    have hsame : next.interrupted = world.interrupted ∧ next.registered = world.registered ∧
        next.responses = world.responses ∧ next.eventsShutdown = world.eventsShutdown := by
      cases event <;>
        (simp only [codex, codexExternal] at hexternal
         split at hexternal <;> cases hexternal
         exact ⟨rfl, rfl, rfl, rfl⟩)
    exact h.congr hsame.1 hsame.2.1 hsame.2.2.1 hsame.2.2.2
  take world states n process next hn h hended htake := by
    -- A loop that takes something is not interrupted.
    have hidle : ∀ fiber : Fiber, n ∉ world.interrupted →
        (∀ kind registered, fiber ≠ .caller kind registered) →
        Closing world (Function.update states n fiber) := by
      intro fiber hrunning hcaller
      apply h.update
      · exact fun hge => absurd hn (Nat.not_lt.mpr hge)
      · exact fun _ hmem => absurd hmem hrunning
      · exact fun kind registered _ heq => absurd heq (hcaller kind registered)
      · exact fun registered heq => absurd heq (hcaller .closed registered)
    rcases codexTake_cases htake with ⟨message, rfl, hrunning, -, rfl, rfl⟩ |
      ⟨inputEnd, rfl, hrunning, -, -, -, rfl, rfl⟩ | ⟨hne, hrunning, rfl, rfl⟩
    · refine ⟨_, routeMessage_runs world.taken message, ?_⟩
      exact (hidle _ hrunning fun _ _ h => by cases h).congr rfl rfl rfl rfl
    · refine ⟨_, handleTermination_runs inputEnd, ?_⟩
      exact (hidle _ hrunning fun _ _ h => by cases h).congr rfl rfl rfl rfl
    · refine ⟨_, watchExit_runs, ?_⟩
      obtain rfl : n = 1 := by
        have hlt : n < 2 := hn
        omega
      exact (hidle _ hrunning fun _ _ h => by cases h).congr rfl rfl rfl rfl
  interrupt world states n op hn h hmeets _ _ := h.interrupt hn hmeets

theorem result_of_closed {world : CodexWorld} {kind : CallKind} {registered : List Nat}
    {op : CodexOp} (hclosed : ScopeClosed world)
    (hresolved : ∀ id ∈ registered, world.responses id ≠ none)
    (hallowed : (Fiber.caller kind registered).allowed op) :
    ∃ res, world.result op "" = some res := by
  cases op with
  | awaitResponse id => exact Option.ne_none_iff_exists'.mp (hresolved id hallowed)
  | awaitScope =>
    refine ⟨(), ?_⟩
    simp only [CodexWorld.result]
    exact if_pos hclosed
  | awaitAnswer kind requestId deferred => cases hallowed
  | awaitExitCode => cases hallowed
  | _ => exact ⟨_, rfl⟩

variable {library options} in
theorem nobodyStranded_of_typed {pool : SessionPool} {states : Nat → Fiber}
    (h : LoopSystem.Typed (codex library options) fibers Closing pool states) :
    NobodyStranded library options pool := by
  intro hshutdown n op rest hprocess
  have hclosing : Closing pool.view.world states := h.inv
  have hallowed : (states n).allowed op := (h.runs n _ hprocess).1
  have hclosed : ScopeClosed pool.view.world := hclosing.shutdown hshutdown
  have hloops : ∀ m, m < 2 → states m = .idle := by
    intro m hm
    apply hclosing.loops m hm
    match m with
    | 0 => exact hclosed.1
    | 1 => exact hclosed.2
  have hcall : (states n).IsCall := by
    by_cases hn : 2 ≤ n
    · exact hclosing.calls n hn
    · rw [hloops n (by omega)]
      trivial
  refine ⟨"", ?_⟩
  cases hn : states n with
  | idle =>
    rw [hn] at hallowed
    cases hallowed
  | caller kind registered =>
    rw [hn] at hallowed
    obtain ⟨res, hres⟩ := result_of_closed hclosed
      (fun id hid => hclosing.resolved hclosed.1 id
        (hclosing.registered n kind registered id hn hid)) hallowed
    have hanswer : (codex library options).answer pool.view.world op "" =
        some (res, pool.view.world.after op) := by
      show (pool.view.world.result op "").map _ = _
      rw [hres]
      rfl
    by_contra hrefused
    have hnone := LoopSystem.answer_eq_none_of_step (Option.not_isSome_iff_eq_none.mp hrefused)
      hprocess
    cases hnone.symm.trans hanswer
  | routing | terminating | watching =>
    rw [hn] at hcall
    cases hcall

/-- In the runs in which the read loop is interrupted with all responses there, and no request is
registered after that, a closed session has nobody waiting for ever. -/
theorem nobodyStranded_throughout (session : CodexSession) (actions : List SessionAction)
    (hmeet : StepsMeet (codex library options).step (LoopSystem.Meets resolvedFirst)
      ((codex library options).initial (.initial session)) actions) :
    Throughout (codex library options).step (NobodyStranded library options)
      ((codex library options).initial (.initial session)) actions := by
  have hinitial : Closing (.initial session) fun _ => Fiber.idle := by
    refine ⟨fun _ _ => trivial, fun _ _ _ => rfl, ?_, ?_, ?_, ?_⟩
    · exact fun _ _ _ _ h => by cases h
    · exact fun h => by cases h
    · exact fun _ _ h => by cases h
    · exact fun h => by cases h
  refine (LoopSystem.typed_throughout (closing_keeps library options) hinitial hmeet).imp ?_
  rintro pool ⟨states, htyped⟩
  exact nobodyStranded_of_typed htyped

/-- `close` runs as the given process from its start to its end. -/
def closeThrough (process : Nat) : List SessionAction :=
  [.call .close] ++ List.replicate 6 (.advance process "") ++ [.interrupt 1, .interrupt 0] ++
    List.replicate 3 (.advance process "")

/-- The conversation is read; the session is closed before the response comes. -/
def closedWhileReading : List SessionAction :=
  [.call .readThread] ++ List.replicate 4 (.advance 2 "") ++ closeThrough 3

theorem not_nobodyStranded_throughout :
    ¬ ∀ (library : CodexLibrary) (options : CodexSessionRuntimeOptions) (session : CodexSession)
      (actions : List SessionAction),
      Throughout (codex library options).step (NobodyStranded library options)
        ((codex library options).initial (.initial session)) actions := by
  intro h
  obtain ⟨final, hfinal⟩ : ∃ final, exec (codex sampleLibrary sampleOptions).step
      ((codex sampleLibrary sampleOptions).initial
        (.initial (startedSession "thread" "/repo" "gpt-5"))) closedWhileReading = some final :=
    ⟨_, rfl⟩
  have hnobody := (h _ _ _ closedWhileReading).final hfinal
  obtain rfl := Option.some.inj hfinal
  obtain ⟨uuid, hsome⟩ := hnobody rfl 2 _ _ rfl
  exact Bool.false_ne_true hsome

def closedAfterReading : List SessionAction :=
  [.call .readThread] ++ List.replicate 4 (.advance 2 "") ++
    [.external (.receive (.response { id := "1", result := some (.str "thread"), error := none })),
      .take 0, .advance 0 "", .advance 0 ""] ++ closeThrough 3

theorem nobodyStranded_throughout_closedAfterReading :
    Throughout (codex sampleLibrary sampleOptions).step
      (NobodyStranded sampleLibrary sampleOptions)
      ((codex sampleLibrary sampleOptions).initial
        (.initial (startedSession "thread" "/repo" "gpt-5"))) closedAfterReading := by
  apply nobodyStranded_throughout sampleLibrary sampleOptions
  decide +kernel

end GT3Code.Codex
