import GT3Code.Base.Runs

/-! # The command gate of the server's startup

The gate keeps its readiness in a reference, lets queued commands wait on one deferred, and
drains its queue with a worker of its own. Every access to one of the three is a step. The
history has the newest event first.
-/

namespace GT3Code.Server

open GT3Code.Base

universe u v

inductive CommandReadinessState (ε : Type u) where
  | pending
  | ready
  | failed (error : ε)
  | shuttingDown (error : ε)
  deriving DecidableEq

/-- What a caller is given: the exit of its command, or the error of the startup. -/
abbrev CommandExit (ε : Type u) (α : Type v) := Except ε α

/-- How far a call of `enqueueCommand` is. A command that waits in the queue is `offered`, and
`taken` once the worker has it; a command that runs without the queue was `admitted`. -/
inductive CommandPhase (ε : Type u) (α : Type v) where
  | called
  | accepted
  | offered
  | taken
  | working
  | exited (exit : CommandExit ε α)
  | admitted
  | running
  | settled (exit : CommandExit ε α)
  | returned

inductive GateOperation (ε : Type u) where
  | signalling
  | failing (error : ε)
  | beginningShutdown (readinessState : CommandReadinessState ε) (error : ε)
  | shutDown (error : ε)
  | returned

inductive GateEvent (ε : Type u) (α : Type v) where
  | called (command : Nat)
  | accepted (command : Nat)
  | offered (command : Nat)
  | admitted (command : Nat)
  | started (command : Nat)
  | ended (command : Nat) (exit : α)
  | refused (command : Nat)
  | returned (command : Nat) (exit : CommandExit ε α)
  | signalled
  | closed
  deriving DecidableEq

structure CommandGate (ε : Type u) (α : Type v) where
  commandReadinessState : CommandReadinessState ε
  commandReady : Option (Except ε Unit)
  commandQueue : List Nat
  commandWorker : Option Nat
  commands : List (CommandPhase ε α)
  operations : List (GateOperation ε)
  history : List (GateEvent ε α)

inductive GateStep (ε : Type u) (α : Type v) where
  | enqueueCommand
  | readReadiness (command : Nat)
  | continueCommand (command : Nat)
  | take
  | awaitReady
  | finish (command : Nat) (exit : α)
  | settleQueuedCommand
  | resume (command : Nat)
  | signalCommandReady
  | failCommandReady (error : ε)
  | beginShutdown (error : ε)
  | proceed (operation : Nat)

namespace CommandGate

variable {ε : Type u} {α : Type v}

def makeCommandGate : CommandGate ε α := ⟨.pending, none, [], none, [], [], []⟩

/-! ## Steps -/

def moveTo (command : Nat) (phase : CommandPhase ε α) (events : List (GateEvent ε α))
    (gate : CommandGate ε α) : CommandGate ε α :=
  { gate with
    commands := gate.commands.set command phase
    history := events ++ gate.history }

def complete (result : Except ε Unit) (gate : CommandGate ε α) : CommandGate ε α :=
  { gate with commandReady := gate.commandReady.or (some result) }

def enqueueCommand (gate : CommandGate ε α) : CommandGate ε α :=
  { gate with
    commands := gate.commands ++ [.called]
    history := .called gate.commands.length :: gate.history }

def readReadiness (command : Nat) (gate : CommandGate ε α) : Option (CommandGate ε α) :=
  match gate.commands[command]? with
  | some .called =>
    match gate.commandReadinessState with
    | .ready => some (gate.moveTo command .admitted [.admitted command])
    | .pending => some (gate.moveTo command .accepted [.accepted command])
    | .failed error => some (gate.moveTo command (.settled (.error error)) [])
    | .shuttingDown error => some (gate.moveTo command (.settled (.error error)) [])
  | _ => none

/-- Offers an accepted command to the queue, or begins the effect of one that was admitted. -/
def continueCommand (command : Nat) (gate : CommandGate ε α) : Option (CommandGate ε α) :=
  match gate.commands[command]? with
  | some .accepted =>
    some { gate.moveTo command .offered [.offered command] with
      commandQueue := gate.commandQueue ++ [command] }
  | some .admitted => some (gate.moveTo command .running [.started command])
  | _ => none

/-- `Queue.take` of the worker, which has no command then. -/
def take (gate : CommandGate ε α) : Option (CommandGate ε α) :=
  match gate.commandWorker, gate.commandQueue with
  | none, command :: rest =>
    some { gate.moveTo command .taken [] with
      commandWorker := some command
      commandQueue := rest }
  | _, _ => none

/-- The worker is past `Deferred.await(commandReady)`. -/
def awaitReady (gate : CommandGate ε α) : Option (CommandGate ε α) :=
  gate.commandWorker.bind (fun command =>
    match gate.commands[command]?, gate.commandReady with
    | some .taken, some (.ok ()) => some (gate.moveTo command .working [.started command])
    | some .taken, some (.error error) =>
      some (gate.moveTo command (.exited (.error error)) [.refused command])
    | _, _ => none)

def finish (command : Nat) (exit : α) (gate : CommandGate ε α) : Option (CommandGate ε α) :=
  match gate.commands[command]? with
  | some .working => some (gate.moveTo command (.exited (.ok exit)) [.ended command exit])
  | some .running => some (gate.moveTo command (.settled (.ok exit)) [.ended command exit])
  | _ => none

def settleQueuedCommand (gate : CommandGate ε α) : Option (CommandGate ε α) :=
  gate.commandWorker.bind (fun command =>
    match gate.commands[command]? with
    | some (.exited exit) =>
      some { gate.moveTo command (.settled exit) [] with commandWorker := none }
    | _ => none)

def resume (command : Nat) (gate : CommandGate ε α) : Option (CommandGate ε α) :=
  match gate.commands[command]? with
  | some (.settled exit) => some (gate.moveTo command .returned [.returned command exit])
  | _ => none

def signalCommandReady (gate : CommandGate ε α) : CommandGate ε α :=
  { gate with
    commandReadinessState := .ready
    operations := gate.operations ++ [.signalling]
    history := .signalled :: gate.history }

def failCommandReady (error : ε) (gate : CommandGate ε α) : CommandGate ε α :=
  { gate with
    commandReadinessState := .failed error
    operations := gate.operations ++ [.failing error] }

def beginShutdown (error : ε) (gate : CommandGate ε α) : CommandGate ε α :=
  { gate with
    operations := gate.operations ++ [.beginningShutdown gate.commandReadinessState error] }

/-- The call returns; `events` has `closed` unless it is a signal. -/
def leave (operation : Nat) (events : List (GateEvent ε α)) (gate : CommandGate ε α) :
    CommandGate ε α :=
  { gate with
    operations := gate.operations.set operation .returned
    history := events ++ gate.history }

def proceed (operation : Nat) (gate : CommandGate ε α) : Option (CommandGate ε α) :=
  match gate.operations[operation]? with
  | some .signalling => some ((gate.complete (.ok ())).leave operation [])
  | some (.failing error) => some ((gate.complete (.error error)).leave operation [.closed])
  | some (.beginningShutdown .pending error) =>
    some { gate with
      commandReadinessState := .shuttingDown error
      operations := gate.operations.set operation (.shutDown error) }
  | some (.beginningShutdown .ready error) =>
    some { gate.leave operation [.closed] with commandReadinessState := .shuttingDown error }
  | some (.beginningShutdown _ _) => some (gate.leave operation [.closed])
  | some (.shutDown error) => some ((gate.complete (.error error)).leave operation [.closed])
  | _ => none

def step (gate : CommandGate ε α) : GateStep ε α → Option (CommandGate ε α)
  | .enqueueCommand => some gate.enqueueCommand
  | .readReadiness command => gate.readReadiness command
  | .continueCommand command => gate.continueCommand command
  | .take => gate.take
  | .awaitReady => gate.awaitReady
  | .finish command exit => gate.finish command exit
  | .settleQueuedCommand => gate.settleQueuedCommand
  | .resume command => gate.resume command
  | .signalCommandReady => some gate.signalCommandReady
  | .failCommandReady error => some (gate.failCommandReady error)
  | .beginShutdown error => some (gate.beginShutdown error)
  | .proceed operation => gate.proceed operation

def Done (history : List (GateEvent ε α)) (command : Nat) : Prop :=
  (∃ exit, .ended command exit ∈ history) ∨ .refused command ∈ history

/-- What may happen after the earlier events: a command is admitted while the server is ready; an
effect runs once, after the signal, for a call made before the gate was closed, and after the
queued commands that were enqueued before; a caller is given the exit of its own command. -/
def MayFollow (earlier : List (GateEvent ε α)) : GateEvent ε α → Prop
  | .admitted _ => .signalled ∈ earlier ∧ .closed ∉ earlier
  | .started command =>
    .signalled ∈ earlier ∧ .started command ∉ earlier ∧
    (∀ exit, .returned command exit ∉ earlier) ∧
    ¬[.called command, .closed].Sublist earlier ∧
    ∀ queued, [.offered command, .offered queued].Sublist earlier ∨
      [.admitted command, .accepted queued].Sublist earlier → Done earlier queued
  | .ended command _ => .started command ∈ earlier ∧ ∀ exit, .ended command exit ∉ earlier
  | .returned command exit =>
    (∀ exit, .returned command exit ∉ earlier) ∧
    match exit with
    | .ok exit => .ended command exit ∈ earlier
    | .error _ => .started command ∉ earlier
  | _ => True

def Orderly : List (GateEvent ε α) → Prop
  | [] => True
  | event :: earlier => MayFollow earlier event ∧ Orderly earlier

def IsClosed : CommandReadinessState ε → Prop
  | .failed _ => True
  | .shuttingDown _ => True
  | _ => False

instance : DecidablePred (IsClosed (ε := ε))
  | .pending => isFalse id
  | .ready => isFalse id
  | .failed _ => isTrue trivial
  | .shuttingDown _ => isTrue trivial

/-- The command was accepted while readiness was pending, and its effect has not ended. -/
def Outstanding : CommandPhase ε α → Prop
  | .accepted => True
  | .offered => True
  | .taken => True
  | .working => True
  | _ => False

instance : DecidablePred (@Outstanding ε α)
  | .accepted => isTrue trivial
  | .offered => isTrue trivial
  | .taken => isTrue trivial
  | .working => isTrue trivial
  | .called => isFalse id
  | .exited _ => isFalse id
  | .admitted => isFalse id
  | .running => isFalse id
  | .settled _ => isFalse id
  | .returned => isFalse id

/-- Readiness is signalled before the gate is failed or shut down, and a command is admitted when
every command that was accepted before has ended. -/
def StepIsOrderly (gate : CommandGate ε α) : GateStep ε α → Prop
  | .signalCommandReady => ¬IsClosed gate.commandReadinessState
  | .readReadiness _ =>
    gate.commandReadinessState = .ready → ∀ phase ∈ gate.commands, ¬Outstanding phase
  | _ => True

instance [DecidableEq ε] (gate : CommandGate ε α) : ∀ step, Decidable (gate.StepIsOrderly step)
  | .signalCommandReady => inferInstanceAs (Decidable (¬_))
  | .readReadiness _ => inferInstanceAs (Decidable (_ → ∀ phase ∈ _, _))
  | .enqueueCommand => isTrue trivial
  | .continueCommand _ => isTrue trivial
  | .take => isTrue trivial
  | .awaitReady => isTrue trivial
  | .finish _ _ => isTrue trivial
  | .settleQueuedCommand => isTrue trivial
  | .resume _ => isTrue trivial
  | .failCommandReady _ => isTrue trivial
  | .beginShutdown _ => isTrue trivial
  | .proceed _ => isTrue trivial

end CommandGate

end GT3Code.Server
