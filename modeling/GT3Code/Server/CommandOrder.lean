import GT3Code.Server.CommandGate

/-! # The order in which commands run

Every phase of a command tells the events it has left, and the queue is in the order of the
offers. A step keeps this while the signal comes before the gate is closed and commands are
admitted after every accepted one has ended.
-/

namespace GT3Code.Server

open GT3Code.Base

universe u v

namespace CommandGate

variable {ε : Type u} {α : Type v}

/-! ## The events of one command -/

def command? : GateEvent ε α → Option Nat
  | .called command => some command
  | .accepted command => some command
  | .offered command => some command
  | .admitted command => some command
  | .started command => some command
  | .ended command _ => some command
  | .refused command => some command
  | .returned command _ => some command
  | .signalled => none
  | .closed => none

def own (command : Nat) (history : List (GateEvent ε α)) : List (GateEvent ε α) :=
  history.filter (fun event => command? event = some command)

inductive Story (command : Nat) : CommandPhase ε α → List (GateEvent ε α) → Prop where
  | called : Story command .called [.called command]
  | accepted : Story command .accepted [.accepted command, .called command]
  | offered : Story command .offered [.offered command, .accepted command, .called command]
  | taken : Story command .taken [.offered command, .accepted command, .called command]
  | working :
      Story command .working
        [.started command, .offered command, .accepted command, .called command]
  | ended (exit : α) :
      Story command (.exited (.ok exit))
        [.ended command exit, .started command, .offered command, .accepted command,
          .called command]
  | refused (error : ε) :
      Story command (.exited (.error error))
        [.refused command, .offered command, .accepted command, .called command]
  | admitted : Story command .admitted [.admitted command, .called command]
  | running : Story command .running [.started command, .admitted command, .called command]
  | ran (exit : α) :
      Story command (.settled (.ok exit))
        [.ended command exit, .started command, .admitted command, .called command]
  | turnedAway (error : ε) : Story command (.settled (.error error)) [.called command]
  | settled {exit : CommandExit ε α} {events : List (GateEvent ε α)} :
      Story command (.exited exit) events → Story command (.settled exit) events
  | returned {exit : CommandExit ε α} {events : List (GateEvent ε α)} :
      Story command (.settled exit) events →
      Story command .returned (.returned command exit :: events)

variable {command : Nat} {phase : CommandPhase ε α} {event : GateEvent ε α}
  {events history : List (GateEvent ε α)}

theorem mem_own (h : command? event = some command) :
    event ∈ own command history ↔ event ∈ history := by
  simp [own, h]

theorem mem_history_iff (hown : own command history = events)
    (h : command? event = some command) : event ∈ history ↔ event ∈ events := by
  rw [← hown, mem_own h]

theorem own_append (command : Nat) (events history : List (GateEvent ε α)) :
    own command (events ++ history) = own command events ++ own command history :=
  List.filter_append ..

theorem own_eq_self (h : ∀ event ∈ events, command? event = some command) :
    own command events = events := by
  rw [own, List.filter_eq_self]
  exact fun event hevent => by simp [h event hevent]

theorem own_eq_nil (h : ∀ event ∈ events, command? event ≠ some command) :
    own command events = [] := by
  rw [own, List.filter_eq_nil_iff]
  exact fun event hevent => by simp [h event hevent]

theorem Story.of_called (h : Story command .called events) : events = [.called command] := by
  cases h
  rfl

theorem Story.of_accepted (h : Story command .accepted events) :
    events = [.accepted command, .called command] := by
  cases h
  rfl

theorem Story.of_offered (h : Story command .offered events) :
    events = [.offered command, .accepted command, .called command] := by
  cases h
  rfl

theorem Story.of_taken (h : Story command .taken events) :
    events = [.offered command, .accepted command, .called command] := by
  cases h
  rfl

theorem Story.of_working (h : Story command .working events) :
    events = [.started command, .offered command, .accepted command, .called command] := by
  cases h
  rfl

theorem Story.of_running (h : Story command .running events) :
    events = [.started command, .admitted command, .called command] := by
  cases h
  rfl

theorem Story.of_admitted (h : Story command .admitted events) :
    events = [.admitted command, .called command] := by
  cases h
  rfl

variable {exit : CommandExit ε α} {later earlier : GateEvent ε α} {operation : Nat}

theorem Story.of_settled (h : Story command (.settled exit) events) :
    (∀ exit, .returned command exit ∉ events) ∧
      match exit with
      | .ok exit => .ended command exit ∈ events
      | .error _ => .started command ∉ events := by
  cases h with
  | ran exit => simp
  | turnedAway error => simp
  | settled h => cases h <;> simp

theorem Story.outstanding_or_done (h : Story command phase events)
    (haccepted : .accepted command ∈ events ∨ .offered command ∈ events) :
    Outstanding phase ∨ Done events command := by
  induction h with
  | called | admitted | running | ran | turnedAway => simp at haccepted
  | accepted | offered | taken | working => exact Or.inl trivial
  | ended exit => exact Or.inr (Or.inl ⟨exit, by simp⟩)
  | refused error => exact Or.inr (Or.inr (by simp))
  | settled h ih => exact (ih haccepted).imp False.elim id
  | returned h ih =>
    obtain hphase | ⟨exit, hexit⟩ | hrefused := ih (by simpa using haccepted)
    · exact hphase.elim
    · exact Or.inr (Or.inl ⟨exit, List.mem_cons_of_mem _ hexit⟩)
    · exact Or.inr (Or.inr (List.mem_cons_of_mem _ hrefused))

/-! ## Histories that grow -/

theorem Done.append (h : Done history command) (events : List (GateEvent ε α)) :
    Done (events ++ history) command := by
  obtain ⟨exit, hexit⟩ | hrefused := h
  · exact Or.inl ⟨exit, List.mem_append_right _ hexit⟩
  · exact Or.inr (List.mem_append_right _ hrefused)

theorem done_own : Done (own command history) command ↔ Done history command := by
  have hended : ∀ exit, .ended command exit ∈ own command history ↔
      .ended command exit ∈ history := fun exit => mem_own rfl
  rw [Done, Done, mem_own rfl, exists_congr hended]

theorem pair_sublist_of_append (events : List (GateEvent ε α)) (hlater : later ∉ events)
    (h : [later, earlier].Sublist (events ++ history)) : [later, earlier].Sublist history := by
  induction events with
  | nil => exact h
  | cons event events ih =>
    rw [List.mem_cons, not_or] at hlater
    rw [List.cons_append, List.cons_sublist_cons'] at h
    exact ih hlater.2 (h.resolve_right (fun hhead => hlater.1 hhead.1))

/-- Where a call of `enqueueCommand` is outside, in the queue, or with the worker. -/
inductive Place where
  | outside
  | queue
  | worker
  deriving DecidableEq

def place : CommandPhase ε α → Place
  | .offered => .queue
  | .taken => .worker
  | .working => .worker
  | .exited _ => .worker
  | _ => .outside

/-- The phases a command called after the gate was closed goes through. -/
def KeptOut : CommandPhase ε α → Prop
  | .called => True
  | .settled _ => True
  | .returned => True
  | _ => False

structure Recorded (commands : List (CommandPhase ε α)) (history : List (GateEvent ε α)) :
    Prop where
  orderly : Orderly history
  stories : ∀ (command : Nat) phase, commands[command]? = some phase →
    Story command phase (own command history)
  fresh : ∀ command, commands.length ≤ command → own command history = []
  late : ∀ (command : Nat) phase, commands[command]? = some phase →
    [.called command, .closed].Sublist history → KeptOut phase
  admitted : ∀ command queued, [.admitted command, .accepted queued].Sublist history →
    Done history queued

/-- The queue in the order of the offers, and the command the worker has before it. -/
structure Queued (gate : CommandGate ε α) : Prop where
  ordered : (gate.commandWorker.toList ++ gate.commandQueue).Pairwise (fun first second =>
    first ≠ second ∧ ¬[.offered first, .offered second].Sublist gate.history)
  queue : ∀ command, command ∈ gate.commandQueue ↔
    (gate.commands[command]?).map place = some .queue
  worker : ∀ command, gate.commandWorker = some command ↔
    (gate.commands[command]?).map place = some .worker

def Supported (gate : CommandGate ε α) : GateOperation ε → Prop
  | .signalling => .signalled ∈ gate.history
  | .failing _ => IsClosed gate.commandReadinessState
  | .beginningShutdown readinessState _ =>
    IsClosed readinessState → IsClosed gate.commandReadinessState
  | .shutDown _ => IsClosed gate.commandReadinessState
  | .returned => True

structure Guarded (gate : CommandGate ε α) : Prop where
  ready : gate.commandReadinessState = .ready → .signalled ∈ gate.history
  commandReady : gate.commandReady = some (.ok ()) → .signalled ∈ gate.history
  closed : .closed ∈ gate.history → IsClosed gate.commandReadinessState
  operations : ∀ operation ∈ gate.operations, gate.Supported operation

structure Sound (gate : CommandGate ε α) : Prop where
  recorded : Recorded gate.commands gate.history
  queued : Queued gate
  guarded : Guarded gate

variable {commands : List (CommandPhase ε α)} {gate next : CommandGate ε α}

theorem Recorded.append (h : Recorded commands history)
    (hevents : ∀ event ∈ events, command? event = none) (horderly : Orderly (events ++ history)) :
    Recorded commands (events ++ history) := by
  have hown : ∀ command, own command (events ++ history) = own command history := by
    intro command
    rw [own_append, own_eq_nil (fun event hevent => by simp [hevents event hevent]),
      List.nil_append]
  constructor
  · exact horderly
  · intro command phase hphase
    rw [hown]
    exact h.stories command phase hphase
  · intro command hlength
    rw [hown]
    exact h.fresh command hlength
  · intro command phase hphase hlate
    exact h.late command phase hphase
      (pair_sublist_of_append _ (fun hevent => by simpa [command?] using hevents _ hevent) hlate)
  · intro command queued hadmitted
    exact (h.admitted command queued
      (pair_sublist_of_append _ (fun hevent => by simpa [command?] using hevents _ hevent)
        hadmitted)).append events

theorem Recorded.enqueue (h : Recorded commands history) :
    Recorded (commands ++ [.called]) (.called commands.length :: history) := by
  have hown : ∀ command, command ≠ commands.length →
      own command (.called commands.length :: history) = own command history := by
    intro command hne
    rw [own, List.filter_cons_of_neg (by simpa [command?] using Ne.symm hne), own]
  have hcall : own commands.length (.called commands.length :: history) =
      [.called commands.length] := by
    rw [own, List.filter_cons_of_pos (by simp [command?]), ← own, h.fresh _ le_rfl]
  constructor
  · exact ⟨trivial, h.orderly⟩
  · intro command phase hphase
    by_cases hcommand : command = commands.length
    · subst hcommand
      rw [List.getElem?_concat_length] at hphase
      cases hphase
      rw [hcall]
      exact Story.called
    · rw [hown command hcommand]
      rw [List.getElem?_append] at hphase
      split at hphase
      · exact h.stories command phase hphase
      · simp only [List.getElem?_singleton] at hphase
        split at hphase
        · omega
        · cases hphase
  · intro command hlength
    rw [List.length_append, List.length_singleton] at hlength
    rw [hown command (by omega)]
    exact h.fresh command (by omega)
  · intro command phase hphase hlate
    by_cases hcommand : command = commands.length
    · subst hcommand
      rw [List.getElem?_concat_length] at hphase
      cases hphase
      trivial
    · rw [List.getElem?_append] at hphase
      split at hphase
      · exact h.late command phase hphase
          (pair_sublist_of_append [.called commands.length]
            (by simpa using hcommand) hlate)
      · simp only [List.getElem?_singleton] at hphase
        split at hphase
        · omega
        · cases hphase
  · intro command queued hadmitted
    exact (h.admitted command queued
      (pair_sublist_of_append [.called commands.length] (by simp) hadmitted)).append
        [.called commands.length]

variable {old : CommandPhase ε α}

theorem Recorded.moveTo (h : Recorded commands history) (hold : commands[command]? = some old)
    (hevents : ∀ event ∈ events, command? event = some command ∧ event ≠ .called command)
    (horderly : Orderly (events ++ history))
    (hstory : Story command phase (events ++ own command history))
    (hlate : [.called command, .closed].Sublist history → KeptOut phase)
    (hadmitted : .admitted command ∈ events → ∀ queued, .accepted queued ∈ events ++ history →
      Done history queued) :
    Recorded (commands.set command phase) (events ++ history) := by
  have hself : own command (events ++ history) = events ++ own command history := by
    rw [own_append, own_eq_self (fun event hevent => (hevents event hevent).1)]
  have hown : ∀ other, other ≠ command → own other (events ++ history) = own other history := by
    intro other hother
    rw [own_append, own_eq_nil (fun event hevent => by
      simpa [(hevents event hevent).1] using Ne.symm hother), List.nil_append]
  have hlength := (List.getElem?_eq_some_iff.mp hold).1
  have hbefore : ∀ other later, [.called other, later].Sublist (events ++ history) →
      [.called other, later].Sublist history := by
    intro other later hpair
    refine pair_sublist_of_append _ (fun hevent => ?_) hpair
    have hother : other = command := Option.some.inj (hevents _ hevent).1
    exact (hevents _ hevent).2 (by rw [hother])
  constructor
  · exact horderly
  · intro other otherPhase hphase
    by_cases hother : other = command
    · subst hother
      rw [List.getElem?_set_self hlength] at hphase
      cases hphase
      rw [hself]
      exact hstory
    · rw [List.getElem?_set_ne (Ne.symm hother)] at hphase
      rw [hown other hother]
      exact h.stories other otherPhase hphase
  · intro other hle
    rw [List.length_set] at hle
    rw [hown other (by omega)]
    exact h.fresh other hle
  · intro other otherPhase hphase hclosed
    by_cases hother : other = command
    · subst hother
      rw [List.getElem?_set_self hlength] at hphase
      cases hphase
      exact hlate (hbefore _ _ hclosed)
    · rw [List.getElem?_set_ne (Ne.symm hother)] at hphase
      exact h.late other otherPhase hphase (hbefore _ _ hclosed)
  · intro other queued hpair
    by_cases hevent : .admitted other ∈ events
    · have hother : other = command := Option.some.inj (hevents _ hevent).1
      subst hother
      exact (hadmitted hevent queued (hpair.subset (by simp))).append events
    · exact (h.admitted other queued (pair_sublist_of_append _ hevent hpair)).append events

theorem place_set {command other : Nat} (hold : commands[command]? = some old) :
    ((commands.set command phase)[other]?).map place =
      if other = command then some (place phase) else (commands[other]?).map place := by
  by_cases hother : other = command
  · subst hother
    rw [List.getElem?_set_self (List.getElem?_eq_some_iff.mp hold).1, if_pos rfl, Option.map_some]
  · rw [List.getElem?_set_ne (Ne.symm hother), if_neg hother]

theorem Queued.moveTo (h : Queued gate) (hold : gate.commands[command]? = some old)
    (hplace : place phase = place old) (hevents : ∀ other, .offered other ∉ events) :
    Queued (gate.moveTo command phase events) := by
  have hsame : ∀ other : Nat, ((gate.commands.set command phase)[other]?).map place =
      (gate.commands[other]?).map place := by
    intro other
    rw [place_set hold]
    by_cases hother : other = command
    · rw [if_pos hother, hother, hold, Option.map_some, hplace]
    · rw [if_neg hother]
  constructor
  · refine h.ordered.imp ?_
    rintro first second ⟨hne, hpair⟩
    exact ⟨hne, fun hoffers => hpair (pair_sublist_of_append _ (hevents first) hoffers)⟩
  · intro other
    exact (h.queue other).trans (by rw [CommandGate.moveTo, hsame])
  · intro other
    exact (h.worker other).trans (by rw [CommandGate.moveTo, hsame])

def waiting (gate : CommandGate ε α) : List Nat :=
  gate.commandWorker.toList ++ gate.commandQueue

theorem Queued.mem_waiting (h : Queued gate) (command : Nat) : command ∈ gate.waiting ↔
    (gate.commands[command]?).map place = some .worker ∨
      (gate.commands[command]?).map place = some .queue := by
  rw [waiting, List.mem_append, Option.mem_toList, h.worker, h.queue]

theorem Queued.offer (h : Queued gate) (hrecorded : Recorded gate.commands gate.history)
    (hold : gate.commands[command]? = some .accepted) :
    Queued { gate.moveTo command .offered [.offered command] with
      commandQueue := gate.commandQueue ++ [command] } := by
  have hnew : .offered command ∉ gate.history := by
    have hcommand : command? (.offered command : GateEvent ε α) = some command := rfl
    rw [← mem_own hcommand, (hrecorded.stories command _ hold).of_accepted]
    simp
  have hne : ∀ first ∈ gate.waiting, first ≠ command := by
    rintro first hfirst rfl
    rw [h.mem_waiting, hold] at hfirst
    simp [place] at hfirst
  have hkept : ∀ first second, first ≠ command →
      [.offered first, .offered second].Sublist (.offered command :: gate.history) →
      [.offered first, .offered second].Sublist gate.history := by
    intro first second hfirst
    exact pair_sublist_of_append [.offered command] (by simpa using hfirst)
  constructor
  · rw [← List.append_assoc, List.pairwise_append]
    refine ⟨?_, List.pairwise_singleton _ _, ?_⟩
    · refine h.ordered.imp_of_mem ?_
      rintro first second hfirst - ⟨hdistinct, hpair⟩
      exact ⟨hdistinct, fun hoffers => hpair (hkept first second (hne first hfirst) hoffers)⟩
    · intro first hfirst second hsecond
      rw [List.mem_singleton] at hsecond
      subst hsecond
      refine ⟨hne first hfirst, fun hoffers => hnew ?_⟩
      exact (hkept first _ (hne first hfirst) hoffers).subset (by simp)
  · intro other
    rw [List.mem_append, List.mem_singleton, h.queue, CommandGate.moveTo, place_set hold]
    by_cases hother : other = command <;> simp [hother, place]
  · intro other
    rw [CommandGate.moveTo, place_set hold]
    by_cases hother : other = command
    · subst hother
      rw [if_pos rfl, h.worker, hold]
      simp [place]
    · rw [if_neg hother, h.worker]

theorem Queued.offered_of_mem (h : Queued gate) (hmem : command ∈ gate.commandQueue) :
    gate.commands[command]? = some .offered := by
  rw [h.queue, Option.map_eq_some_iff] at hmem
  obtain ⟨phase, hphase, hplace⟩ := hmem
  cases phase with
  | offered => exact hphase
  | _ => cases hplace

theorem Queued.take (h : Queued gate) {rest : List Nat} (hworker : gate.commandWorker = none)
    (hqueue : gate.commandQueue = command :: rest) :
    Queued { gate.moveTo command .taken [] with
      commandWorker := some command
      commandQueue := rest } := by
  have hold := h.offered_of_mem (hqueue ▸ List.mem_cons_self)
  have hordered := h.ordered
  rw [hworker, hqueue, Option.toList_none, List.nil_append] at hordered
  constructor
  · exact hordered
  · intro other
    rw [CommandGate.moveTo, place_set hold]
    by_cases hother : other = command
    · subst hother
      have hnotin : other ∉ rest := fun hmem => (List.rel_of_pairwise_cons hordered hmem).1 rfl
      simp [hnotin, place]
    · rw [if_neg hother, ← h.queue, hqueue, List.mem_cons, or_iff_right hother]
  · intro other
    rw [CommandGate.moveTo, place_set hold]
    by_cases hother : other = command
    · simp [hother, place]
    · rw [if_neg hother, ← h.worker, hworker]
      simpa using Ne.symm hother

theorem Queued.settle (h : Queued gate) (hworker : gate.commandWorker = some command)
    (hold : gate.commands[command]? = some (.exited exit)) :
    Queued { gate.moveTo command (.settled exit) [] with commandWorker := none } := by
  have hordered := h.ordered
  rw [hworker, Option.toList_some] at hordered
  constructor
  · exact (List.pairwise_append.mp hordered).2.1
  · intro other
    rw [CommandGate.moveTo, place_set hold]
    by_cases hother : other = command
    · subst hother
      rw [if_pos rfl, h.queue, hold]
      simp [place]
    · rw [if_neg hother, h.queue]
  · intro other
    rw [CommandGate.moveTo, place_set hold]
    by_cases hother : other = command
    · simp [hother, place]
    · rw [if_neg hother, ← h.worker, hworker]
      simpa using Ne.symm hother

theorem Queued.enqueue (h : Queued gate) : Queued gate.enqueueCommand := by
  have hsame : ∀ (other : Nat) (where' : Place), where' ≠ .outside →
      (((gate.commands ++ [.called])[other]?).map place = some where' ↔
        (gate.commands[other]?).map place = some where') := by
    intro other where' hwhere
    rw [List.getElem?_append]
    split
    · rfl
    · rw [List.getElem?_singleton, List.getElem?_eq_none (by omega)]
      split
      · simpa [place] using Ne.symm hwhere
      · rfl
  constructor
  · refine h.ordered.imp ?_
    rintro first second ⟨hne, hpair⟩
    exact ⟨hne, fun hoffers =>
      hpair (pair_sublist_of_append [.called _] (by simp) hoffers)⟩
  · exact fun other => (h.queue other).trans (hsame other .queue (by decide)).symm
  · exact fun other => (h.worker other).trans (hsame other .worker (by decide)).symm

theorem Queued.append (h : Queued gate) (hevents : ∀ event ∈ events, command? event = none)
    (hcommands : next.commands = gate.commands) (hqueue : next.commandQueue = gate.commandQueue)
    (hworker : next.commandWorker = gate.commandWorker)
    (hhistory : next.history = events ++ gate.history) : Queued next := by
  constructor
  · rw [hqueue, hworker, hhistory]
    refine h.ordered.imp ?_
    rintro first second ⟨hne, hpair⟩
    exact ⟨hne, fun hoffers => hpair (pair_sublist_of_append _
      (fun hevent => by simpa [command?] using hevents _ hevent) hoffers)⟩
  · rw [hqueue, hcommands]
    exact h.queue
  · rw [hworker, hcommands]
    exact h.worker

theorem Orderly.push (h : Orderly history) (hmay : MayFollow history event) :
    Orderly ([event] ++ history) :=
  ⟨hmay, h⟩

/-! ## Steps of a command -/

theorem Supported.mono {operation : GateOperation ε} (h : gate.Supported operation)
    (hclosed : IsClosed gate.commandReadinessState → IsClosed next.commandReadinessState)
    (hsignalled : .signalled ∈ gate.history → .signalled ∈ next.history) :
    next.Supported operation := by
  cases operation with
  | signalling => exact hsignalled h
  | failing error => exact hclosed h
  | beginningShutdown readinessState error => exact fun hread => hclosed (h hread)
  | shutDown error => exact hclosed h
  | returned => trivial

theorem Guarded.keep (h : Guarded gate) (events : List (GateEvent ε α))
    (hreadiness : next.commandReadinessState = gate.commandReadinessState)
    (hcommandReady : next.commandReady = gate.commandReady)
    (hoperations : next.operations = gate.operations)
    (hhistory : next.history = events ++ gate.history) (hclosed : .closed ∉ events) :
    Guarded next := by
  have hsignalled : .signalled ∈ gate.history → .signalled ∈ next.history := by
    rw [hhistory]
    exact fun hmem => List.mem_append_right _ hmem
  constructor
  · rw [hreadiness]
    exact fun hready => hsignalled (h.ready hready)
  · rw [hcommandReady]
    exact fun hready => hsignalled (h.commandReady hready)
  · rw [hreadiness, hhistory, List.mem_append, or_iff_right hclosed]
    exact h.closed
  · rw [hoperations]
    intro operation hoperation
    exact (h.operations operation hoperation).mono (by rw [hreadiness]; exact id) hsignalled

theorem Recorded.done_of_accepted (h : Recorded commands history)
    (hoverlook : ∀ phase ∈ commands, ¬Outstanding phase)
    (haccepted : .accepted command ∈ history) : Done history command := by
  have hown : .accepted command ∈ own command history := (mem_own rfl).mpr haccepted
  have hlength : command < commands.length := by
    by_contra hlength
    rw [h.fresh command (by omega)] at hown
    cases hown
  have hstory := h.stories command _ (List.getElem?_eq_getElem hlength)
  have hdone := hstory.outstanding_or_done (Or.inl hown)
  exact done_own.mp (hdone.resolve_left (hoverlook _ (List.getElem_mem hlength)))

theorem Sound.waiting_or_done (h : Sound gate) (hoffered : .offered command ∈ gate.history) :
    command ∈ gate.waiting ∨ Done gate.history command := by
  have hown : .offered command ∈ own command gate.history := (mem_own rfl).mpr hoffered
  have hlength : command < gate.commands.length := by
    by_contra hlength
    rw [h.recorded.fresh command (by omega)] at hown
    cases hown
  have hphase := List.getElem?_eq_getElem hlength
  have hstory := h.recorded.stories command _ hphase
  rw [h.queued.mem_waiting, hphase, Option.map_some]
  obtain houtstanding | hdone := hstory.outstanding_or_done (Or.inr hown)
  · generalize gate.commands[command] = phase at houtstanding hstory
    cases phase with
    | accepted =>
      rw [hstory.of_accepted] at hown
      simp at hown
    | offered => exact Or.inl (Or.inr rfl)
    | taken | working => exact Or.inl (Or.inl rfl)
    | called | exited | admitted | running | settled | returned => exact houtstanding.elim
  · exact Or.inr (done_own.mp hdone)

theorem Orderly.signalled_of_admitted (h : Orderly history)
    (hadmitted : .admitted command ∈ history) :
    .signalled ∈ history := by
  induction history with
  | nil => cases hadmitted
  | cons event earlier ih =>
    rw [List.mem_cons] at hadmitted
    obtain rfl | hadmitted := hadmitted
    · exact List.mem_cons_of_mem _ h.1.1
    · exact List.mem_cons_of_mem _ (ih h.2 hadmitted)

theorem pair_sublist_own (hlater : command? later = some command)
    (hearlier : command? earlier = some command) (h : [later, earlier].Sublist history) :
    [later, earlier].Sublist (own command history) := by
  have hfilter := h.filter (fun event => decide (command? event = some command))
  simpa [own, hlater, hearlier] using hfilter

theorem Sound.moveTo (h : Sound gate) (hold : gate.commands[command]? = some old)
    (hplace : place phase = place old)
    (hevents : ∀ event ∈ events, command? event = some command ∧ event ≠ .called command ∧
      event ≠ .offered command)
    (horderly : Orderly (events ++ gate.history))
    (hstory : Story command phase (events ++ own command gate.history))
    (hlate : [.called command, .closed].Sublist gate.history → KeptOut phase)
    (hadmitted : .admitted command ∈ events → ∀ queued,
      .accepted queued ∈ events ++ gate.history → Done gate.history queued) :
    Sound (gate.moveTo command phase events) := by
  constructor
  · exact h.recorded.moveTo hold (fun event hevent => ⟨(hevents event hevent).1,
      (hevents event hevent).2.1⟩) horderly hstory hlate hadmitted
  · refine h.queued.moveTo hold hplace (fun other hoffer => ?_)
    have hother : other = command := Option.some.inj (hevents _ hoffer).1
    exact (hevents _ hoffer).2.2 (by rw [hother])
  · exact h.guarded.keep events rfl rfl rfl rfl
      (fun hclosed => by simpa [command?] using (hevents _ hclosed).1)

theorem sound_enqueueCommand (h : Sound gate) : Sound gate.enqueueCommand := by
  constructor
  · exact h.recorded.enqueue
  · exact h.queued.enqueue
  · exact h.guarded.keep [.called _] rfl rfl rfl rfl (by simp)

theorem Sound.not_closed (h : Sound gate) (hopen : ¬IsClosed gate.commandReadinessState) :
    .closed ∉ gate.history :=
  fun hclosed => hopen (h.guarded.closed hclosed)

theorem Sound.turnAway (h : Sound gate) (hold : gate.commands[command]? = some .called)
    (error : ε) : Sound (gate.moveTo command (.settled (.error error)) []) := by
  refine h.moveTo hold rfl (by simp) h.recorded.orderly ?_ (fun _ => trivial) (by simp)
  rw [List.nil_append, (h.recorded.stories command _ hold).of_called]
  exact Story.turnedAway error

theorem sound_readReadiness (h : Sound gate)
    (horderly : gate.StepIsOrderly (.readReadiness command))
    (hstep : gate.readReadiness command = some next) : Sound next := by
  rw [readReadiness] at hstep
  split at hstep
  case h_2 => cases hstep
  case h_1 hold =>
    have hown := (h.recorded.stories command _ hold).of_called
    split at hstep
    case h_1 hready =>
      cases hstep
      have hclosed := h.not_closed (by rw [hready]; exact id)
      refine h.moveTo hold rfl (by simp [command?])
        (h.recorded.orderly.push ⟨h.guarded.ready hready, hclosed⟩) ?_ ?_ ?_
      · rw [hown]
        exact Story.admitted
      · exact fun hlate => (hclosed (hlate.subset (by simp))).elim
      · intro _ queued hqueued
        exact h.recorded.done_of_accepted (horderly hready) (by simpa using hqueued)
    case h_2 hpending =>
      cases hstep
      have hclosed := h.not_closed (by rw [hpending]; exact id)
      refine h.moveTo hold rfl (by simp [command?]) (h.recorded.orderly.push trivial) ?_ ?_ (by simp)
      · rw [hown]
        exact Story.accepted
      · exact fun hlate => (hclosed (hlate.subset (by simp))).elim
    case h_3 error _ =>
      cases hstep
      exact h.turnAway hold error
    case h_4 error _ =>
      cases hstep
      exact h.turnAway hold error

theorem Sound.run (h : Sound gate) (hold : gate.commands[command]? = some .admitted) :
    Sound (gate.moveTo command .running [.started command]) := by
  have hown := (h.recorded.stories command _ hold).of_admitted
  refine h.moveTo hold rfl (by simp [command?]) (h.recorded.orderly.push ⟨?_, ?_, ?_, ?_, ?_⟩) ?_
    (fun hlate => (h.recorded.late command _ hold hlate).elim) (by simp)
  · exact h.recorded.orderly.signalled_of_admitted ((mem_history_iff hown rfl).mpr (by simp))
  · rw [mem_history_iff hown] <;> simp [command?]
  · intro exit
    rw [mem_history_iff hown] <;> simp [command?]
  · exact fun hlate => h.recorded.late command _ hold hlate
  · intro queued hqueued
    obtain hoffers | hadmitted := hqueued
    · have hoffered : .offered command ∈ gate.history := hoffers.subset (by simp)
      rw [mem_history_iff hown rfl] at hoffered
      simp at hoffered
    · exact h.recorded.admitted command queued hadmitted
  · rw [hown]
    exact Story.running

theorem sound_continueCommand (h : Sound gate)
    (hstep : gate.continueCommand command = some next) : Sound next := by
  rw [continueCommand] at hstep
  split at hstep
  case h_1 hold =>
    cases hstep
    have hown := (h.recorded.stories command _ hold).of_accepted
    constructor
    · refine h.recorded.moveTo hold (by simp [command?]) (h.recorded.orderly.push trivial) ?_
        (fun hlate => (h.recorded.late command _ hold hlate).elim) (by simp)
      rw [hown]
      exact Story.offered
    · exact h.queued.offer h.recorded hold
    · exact h.guarded.keep [.offered command] rfl rfl rfl rfl (by simp)
  case h_2 hold =>
    cases hstep
    exact h.run hold
  case h_3 => cases hstep

theorem sound_take (h : Sound gate) (hstep : gate.take = some next) : Sound next := by
  rw [CommandGate.take] at hstep
  split at hstep
  case h_1 command rest hworker hqueue =>
    cases hstep
    have hold := h.queued.offered_of_mem (hqueue ▸ List.mem_cons_self)
    constructor
    · refine h.recorded.moveTo hold (by simp) h.recorded.orderly ?_
        (fun hlate => (h.recorded.late command _ hold hlate).elim) (by simp)
      rw [List.nil_append, (h.recorded.stories command _ hold).of_offered]
      exact Story.taken
    · exact h.queued.take hworker hqueue
    · exact h.guarded.keep [] rfl rfl rfl rfl (by simp)
  case h_2 => cases hstep

theorem Sound.work (h : Sound gate) (hworker : gate.commandWorker = some command)
    (hold : gate.commands[command]? = some .taken)
    (hready : gate.commandReady = some (.ok ())) :
    Sound (gate.moveTo command .working [.started command]) := by
  have hown := (h.recorded.stories command _ hold).of_taken
  refine h.moveTo hold rfl (by simp [command?]) (h.recorded.orderly.push ⟨?_, ?_, ?_, ?_, ?_⟩) ?_
    (fun hlate => (h.recorded.late command _ hold hlate).elim) (by simp)
  · exact h.guarded.commandReady hready
  · rw [mem_history_iff hown] <;> simp [command?]
  · intro exit
    rw [mem_history_iff hown] <;> simp [command?]
  · exact fun hlate => h.recorded.late command _ hold hlate
  · intro queued hqueued
    obtain hoffers | hadmitted := hqueued
    · have hoffered : .offered queued ∈ gate.history := hoffers.subset (by simp)
      obtain hwaiting | hdone := h.waiting_or_done hoffered
      · have hordered := h.queued.ordered
        rw [waiting, hworker, Option.toList_some, List.singleton_append] at hwaiting
        rw [hworker, Option.toList_some, List.singleton_append] at hordered
        obtain rfl | hbehind := List.mem_cons.mp hwaiting
        · have htwice := pair_sublist_own rfl rfl hoffers
          rw [hown] at htwice
          simp at htwice
        · exact ((List.rel_of_pairwise_cons hordered hbehind).2 hoffers).elim
      · exact hdone
    · exact h.recorded.admitted command queued hadmitted
  · rw [hown]
    exact Story.working

theorem sound_awaitReady (h : Sound gate) (hstep : gate.awaitReady = some next) :
    Sound next := by
  rw [awaitReady, Option.bind_eq_some_iff] at hstep
  obtain ⟨command, hworker, hstep⟩ := hstep
  split at hstep
  case h_1 hold hready =>
    cases hstep
    exact h.work hworker hold hready
  case h_2 error hold hready =>
    cases hstep
    have hown := (h.recorded.stories command _ hold).of_taken
    refine h.moveTo hold rfl (by simp [command?]) (h.recorded.orderly.push trivial) ?_
      (fun hlate => (h.recorded.late command _ hold hlate).elim) (by simp)
    rw [hown]
    exact Story.refused error
  case h_3 => cases hstep

theorem sound_finish {exit : α} (h : Sound gate) (hstep : gate.finish command exit = some next) :
    Sound next := by
  rw [finish] at hstep
  split at hstep
  case h_1 hold =>
    cases hstep
    have hown := (h.recorded.stories command _ hold).of_working
    refine h.moveTo hold rfl (by simp [command?]) (h.recorded.orderly.push ⟨?_, ?_⟩) ?_
      (fun hlate => (h.recorded.late command _ hold hlate).elim) (by simp)
    · exact (mem_history_iff hown rfl).mpr (by simp)
    · intro other
      rw [mem_history_iff hown] <;> simp [command?]
    · rw [hown]
      exact Story.ended exit
  case h_2 hold =>
    cases hstep
    have hown := (h.recorded.stories command _ hold).of_running
    refine h.moveTo hold rfl (by simp [command?]) (h.recorded.orderly.push ⟨?_, ?_⟩) ?_
      (fun _ => trivial) (by simp)
    · exact (mem_history_iff hown rfl).mpr (by simp)
    · intro other
      rw [mem_history_iff hown] <;> simp [command?]
    · rw [hown]
      exact Story.ran exit
  case h_3 => cases hstep

theorem sound_settleQueuedCommand (h : Sound gate)
    (hstep : gate.settleQueuedCommand = some next) : Sound next := by
  rw [settleQueuedCommand, Option.bind_eq_some_iff] at hstep
  obtain ⟨command, hworker, hstep⟩ := hstep
  split at hstep
  case h_1 exit hold =>
    cases hstep
    constructor
    · refine h.recorded.moveTo hold (by simp) h.recorded.orderly ?_ (fun _ => trivial) (by simp)
      exact Story.settled (h.recorded.stories command _ hold)
    · exact h.queued.settle hworker hold
    · exact h.guarded.keep [] rfl rfl rfl rfl (by simp)
  case h_2 => cases hstep

theorem sound_resume (h : Sound gate) (hstep : gate.resume command = some next) :
    Sound next := by
  rw [resume] at hstep
  split at hstep
  case h_1 exit hold =>
    cases hstep
    have hstory := h.recorded.stories command _ hold
    refine h.moveTo hold rfl (by simp [command?]) (h.recorded.orderly.push ⟨?_, ?_⟩)
      (Story.returned hstory) (fun _ => trivial) (by simp)
    · exact fun other hmem => hstory.of_settled.1 other ((mem_own rfl).mpr hmem)
    · have hexit := hstory.of_settled.2
      cases exit with
      | ok exit => exact (mem_own rfl).mp hexit
      | error error => exact fun hmem => hexit ((mem_own rfl).mpr hmem)
  case h_2 => cases hstep

theorem Sound.operate (h : Sound gate) (events : List (GateEvent ε α))
    (hcommands : next.commands = gate.commands) (hqueue : next.commandQueue = gate.commandQueue)
    (hworker : next.commandWorker = gate.commandWorker)
    (hhistory : next.history = events ++ gate.history)
    (hevents : ∀ event ∈ events, event = .signalled ∨ event = .closed)
    (hguarded : Guarded next) : Sound next := by
  have hnone : ∀ event ∈ events, command? event = none := by
    intro event hevent
    obtain rfl | rfl := hevents event hevent <;> rfl
  have horderly : ∀ events : List (GateEvent ε α),
      (∀ event ∈ events, event = .signalled ∨ event = .closed) →
      Orderly (events ++ gate.history) := by
    intro events hevents
    induction events with
    | nil => exact h.recorded.orderly
    | cons event events ih =>
      rw [List.forall_mem_cons] at hevents
      refine ⟨?_, ih hevents.2⟩
      obtain rfl | rfl := hevents.1 <;> trivial
  refine ⟨?_, h.queued.append hnone hcommands hqueue hworker hhistory, hguarded⟩
  rw [hcommands, hhistory]
  exact h.recorded.append hnone (horderly events hevents)

theorem sound_signalCommandReady (h : Sound gate)
    (horderly : gate.StepIsOrderly .signalCommandReady) : Sound gate.signalCommandReady := by
  refine h.operate [.signalled] rfl rfl rfl rfl (by simp) ?_
  have hin : .signalled ∈ gate.signalCommandReady.history := List.mem_cons_self
  constructor
  · exact fun _ => hin
  · exact fun _ => hin
  · intro hclosed
    exact (h.not_closed horderly (by simpa [signalCommandReady] using hclosed)).elim
  · intro operation hoperation
    rw [signalCommandReady, List.mem_append, List.mem_singleton] at hoperation
    obtain hbefore | rfl := hoperation
    · exact (h.guarded.operations operation hbefore).mono (fun hclosed => (horderly hclosed).elim)
        (fun _ => hin)
    · exact hin

theorem sound_failCommandReady (h : Sound gate) (error : ε) :
    Sound (gate.failCommandReady error) := by
  refine h.operate [] rfl rfl rfl rfl (by simp) ?_
  constructor
  · exact nofun
  · exact h.guarded.commandReady
  · exact fun _ => trivial
  · intro operation hoperation
    rw [failCommandReady, List.mem_append, List.mem_singleton] at hoperation
    obtain hbefore | rfl := hoperation
    · exact (h.guarded.operations operation hbefore).mono (fun _ => trivial) id
    · trivial

theorem sound_beginShutdown (h : Sound gate) (error : ε) :
    Sound (gate.beginShutdown error) := by
  refine h.operate [] rfl rfl rfl rfl (by simp) ?_
  refine ⟨h.guarded.ready, h.guarded.commandReady, h.guarded.closed, ?_⟩
  intro operation hoperation
  rw [beginShutdown, List.mem_append, List.mem_singleton] at hoperation
  obtain hbefore | rfl := hoperation
  · exact (h.guarded.operations operation hbefore).mono id id
  · exact id

theorem Guarded.proceed (h : Guarded gate) (events : List (GateEvent ε α))
    {later : GateOperation ε}
    (hoperations : next.operations = gate.operations.set operation later)
    (hclosing : IsClosed gate.commandReadinessState → IsClosed next.commandReadinessState)
    (hhistory : next.history = events ++ gate.history)
    (hready : next.commandReadinessState = .ready → .signalled ∈ next.history)
    (hcommandReady : next.commandReady = some (.ok ()) → .signalled ∈ next.history)
    (hclosed : .closed ∈ events → IsClosed next.commandReadinessState)
    (hlater : next.Supported later) : Guarded next := by
  have hsignalled : .signalled ∈ gate.history → .signalled ∈ next.history := by
    rw [hhistory]
    exact fun hmem => List.mem_append_right _ hmem
  refine ⟨hready, hcommandReady, ?_, ?_⟩
  · rw [hhistory, List.mem_append]
    exact fun hmem => hmem.elim hclosed (fun hbefore => hclosing (h.closed hbefore))
  · intro other hother
    rw [hoperations] at hother
    obtain hbefore | rfl := List.mem_or_eq_of_mem_set hother
    · exact (h.operations other hbefore).mono hclosing hsignalled
    · exact hlater

theorem Guarded.commandReady_error (h : Guarded gate) {error : ε}
    (hready : (gate.complete (.error error)).commandReady = some (.ok ())) :
    .signalled ∈ gate.history := by
  refine h.commandReady ?_
  cases hbefore : gate.commandReady with
  | none => simp [complete, hbefore] at hready
  | some result => simpa [complete, hbefore] using hready

theorem Sound.closeWith (h : Sound gate) (operation : Nat) (error : ε)
    (hclosed : IsClosed gate.commandReadinessState) :
    Sound ((gate.complete (.error error)).leave operation [.closed]) := by
  refine h.operate [.closed] rfl rfl rfl rfl (by simp) ?_
  refine h.guarded.proceed [.closed] rfl id rfl ?_ ?_ (fun _ => hclosed) trivial
  · exact fun hready => List.mem_cons_of_mem _ (h.guarded.ready hready)
  · exact fun hready => List.mem_cons_of_mem _ (h.guarded.commandReady_error hready)

theorem Sound.leaveClosed (h : Sound gate) (operation : Nat)
    (hclosed : IsClosed gate.commandReadinessState) :
    Sound (gate.leave operation [.closed]) := by
  refine h.operate [.closed] rfl rfl rfl rfl (by simp) ?_
  refine h.guarded.proceed [.closed] rfl id rfl ?_ ?_ (fun _ => hclosed) trivial
  · exact fun hready => List.mem_cons_of_mem _ (h.guarded.ready hready)
  · exact fun hready => List.mem_cons_of_mem _ (h.guarded.commandReady hready)

theorem sound_proceed (h : Sound gate) (hstep : gate.proceed operation = some next) :
    Sound next := by
  have hsupported : ∀ current, gate.operations[operation]? = some current →
      gate.Supported current :=
    fun current hcurrent => h.guarded.operations current (List.mem_of_getElem? hcurrent)
  rw [proceed] at hstep
  split at hstep
  case h_1 hcurrent =>
    cases hstep
    have hsignalled := hsupported _ hcurrent
    refine h.operate [] rfl rfl rfl rfl (by simp) ?_
    exact h.guarded.proceed [] rfl id rfl h.guarded.ready (fun _ => hsignalled) (by simp) trivial
  case h_2 error hcurrent =>
    cases hstep
    exact h.closeWith operation error (hsupported _ hcurrent)
  case h_3 error hcurrent =>
    cases hstep
    refine h.operate [] rfl rfl rfl rfl (by simp) ?_
    exact h.guarded.proceed [] rfl (fun _ => trivial) rfl nofun
      h.guarded.commandReady (by simp) trivial
  case h_4 error hcurrent =>
    cases hstep
    refine h.operate [.closed] rfl rfl rfl rfl (by simp) ?_
    refine h.guarded.proceed [.closed] rfl (fun _ => trivial) rfl nofun
      ?_ (fun _ => trivial) trivial
    exact fun hready => List.mem_cons_of_mem _ (h.guarded.commandReady hready)
  case h_5 readinessState error hpending hready hcurrent =>
    cases hstep
    refine h.leaveClosed operation (hsupported _ hcurrent ?_)
    cases readinessState with
    | pending => exact (hpending rfl).elim
    | ready => exact (hready rfl).elim
    | failed error => trivial
    | shuttingDown error => trivial
  case h_6 error hcurrent =>
    cases hstep
    exact h.closeWith operation error (hsupported _ hcurrent)
  case h_7 => cases hstep

theorem sound_makeCommandGate : Sound (makeCommandGate : CommandGate ε α) := by
  refine ⟨⟨trivial, ?_, ?_, ?_, ?_⟩, ⟨List.Pairwise.nil, ?_, ?_⟩, ⟨?_, ?_, ?_, ?_⟩⟩ <;>
    simp [makeCommandGate, own]

theorem sound_step {s : GateStep ε α} (h : Sound gate) (horderly : gate.StepIsOrderly s)
    (hstep : gate.step s = some next) : Sound next := by
  cases s with
  | enqueueCommand =>
    cases hstep
    exact sound_enqueueCommand h
  | readReadiness command => exact sound_readReadiness h horderly hstep
  | continueCommand command => exact sound_continueCommand h hstep
  | take => exact sound_take h hstep
  | awaitReady => exact sound_awaitReady h hstep
  | finish command exit => exact sound_finish h hstep
  | settleQueuedCommand => exact sound_settleQueuedCommand h hstep
  | resume command => exact sound_resume h hstep
  | signalCommandReady =>
    cases hstep
    exact sound_signalCommandReady h horderly
  | failCommandReady error =>
    cases hstep
    exact sound_failCommandReady h error
  | beginShutdown error =>
    cases hstep
    exact sound_beginShutdown h error
  | proceed operation => exact sound_proceed h hstep

/-- In a run whose signal comes before the gate is closed and whose commands are admitted when
no accepted command is left, the history is orderly all along. -/
theorem orderly_of_orderly_steps (steps : List (GateStep ε α))
    (h : StepsMeet step StepIsOrderly makeCommandGate steps) :
    Throughout step (fun gate => Orderly gate.history) makeCommandGate steps :=
  (throughout_of_stepsMeet (fun _ _ _ hsound horderly hstep => sound_step hsound horderly hstep)
    sound_makeCommandGate h).imp (fun _ hsound => hsound.recorded.orderly)

/-- A queued command is drained, one more runs at once, and a third comes after the shutdown. -/
theorem orderly_drained : Throughout step (fun gate => Orderly gate.history)
    (makeCommandGate : CommandGate Unit Nat)
    [.enqueueCommand, .readReadiness 0, .continueCommand 0, .take, .signalCommandReady,
      .proceed 0, .awaitReady, .finish 0 7, .settleQueuedCommand, .resume 0, .enqueueCommand,
      .readReadiness 1, .continueCommand 1, .finish 1 8, .resume 1, .beginShutdown (),
      .proceed 1, .enqueueCommand, .readReadiness 2, .resume 2] :=
  orderly_of_orderly_steps _ (by decide +kernel)

/-- A command called after the signal runs before one that is queued, and a signal after a
failure lets a command run that was called after both. -/
theorem not_orderly :
    ¬Throughout step (fun gate => Orderly gate.history) (makeCommandGate : CommandGate Unit Unit)
      [.enqueueCommand, .readReadiness 0, .continueCommand 0, .signalCommandReady, .proceed 0,
        .enqueueCommand, .readReadiness 1, .continueCommand 1] ∧
    ¬Throughout step (fun gate => Orderly gate.history) (makeCommandGate : CommandGate Unit Unit)
      [.failCommandReady (), .proceed 0, .signalCommandReady, .enqueueCommand, .readReadiness 0,
        .continueCommand 0] := by
  constructor
  · intro h
    have hlast := h.final rfl
    obtain ⟨exit, hended⟩ | hrefused := hlast.1.2.2.2.2 0 (Or.inr (by decide))
    · cases exit
      exact absurd hended (by decide)
    · exact absurd hrefused (by decide)
  · intro h
    have hlast := h.final rfl
    exact hlast.1.2.2.2.1 (by decide)

end CommandGate

end GT3Code.Server
