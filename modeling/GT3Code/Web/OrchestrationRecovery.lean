import GT3Code.Base.GapFree
import GT3Code.Base.Ordering
import GT3Code.Base.Runs

/-! # Orchestration recovery

The coordinator says of each domain event whether to apply it, to defer it or to ask for a
replay, and of each finished recovery whether to replay again. The caller keeps the events
it may apply and passes them on in batches, as it does the answers to its replays.
-/

namespace GT3Code.Web

open GT3Code.Base

universe u

/-! ## The coordinator -/

inductive OrchestrationRecoveryReason where
  | bootstrap
  | sequenceGap
  | resubscribe
  | replayFailed

inductive OrchestrationRecoveryKind where
  | snapshot
  | replay
  deriving DecidableEq

structure OrchestrationRecoveryPhase where
  kind : OrchestrationRecoveryKind
  reason : OrchestrationRecoveryReason

structure OrchestrationRecoveryState where
  latestSequence : Nat
  highestObservedSequence : Nat
  bootstrapped : Bool
  pendingReplay : Bool
  inFlight : Option OrchestrationRecoveryPhase

structure ReplayRecoveryCompletion where
  replayMadeProgress : Bool
  shouldReplay : Bool

structure ReplayNeed where
  shouldReplay : Bool
  pendingReplayBeforeReset : Bool
  observedAhead : Bool

inductive DomainEventClass where
  | ignore
  | defer
  | recover
  | apply
  deriving DecidableEq

structure OrchestrationRecoveryCoordinator where
  state : OrchestrationRecoveryState
  replayStartSequence : Option Nat

def createOrchestrationRecoveryCoordinator : OrchestrationRecoveryCoordinator where
  state :=
    { latestSequence := 0
      highestObservedSequence := 0
      bootstrapped := false
      pendingReplay := false
      inFlight := none }
  replayStartSequence := none

namespace OrchestrationRecoveryState

def observeSequence (sequence : Nat) (state : OrchestrationRecoveryState) :
    OrchestrationRecoveryState :=
  { state with highestObservedSequence := max state.highestObservedSequence sequence }

def resolveReplayNeedAfterRecovery (state : OrchestrationRecoveryState) :
    ReplayNeed × OrchestrationRecoveryState :=
  let observedAhead := decide (state.latestSequence < state.highestObservedSequence)
  ({ shouldReplay := state.pendingReplay || observedAhead
     pendingReplayBeforeReset := state.pendingReplay
     observedAhead := observedAhead },
    { state with pendingReplay := false })

def inFlightKind (state : OrchestrationRecoveryState) : Option OrchestrationRecoveryKind :=
  state.inFlight.map (·.kind)

def classifyDomainEvent (sequence : Nat) (before : OrchestrationRecoveryState) :
    DomainEventClass × OrchestrationRecoveryState :=
  let state := before.observeSequence sequence
  if sequence ≤ state.latestSequence then (.ignore, state)
  else if state.bootstrapped = false ∨ state.inFlight.isSome then
    (.defer, { state with pendingReplay := true })
  else if sequence ≠ state.latestSequence + 1 then (.recover, { state with pendingReplay := true })
  else (.apply, state)

def nextEvents {T : Type u} (sequence : T → Nat) (events : List T)
    (state : OrchestrationRecoveryState) : List T :=
  toSorted (byKey sequence)
    (events.filter (fun event => state.latestSequence < sequence event))

def markEventBatchApplied {T : Type u} (sequence : T → Nat) (events : List T)
    (state : OrchestrationRecoveryState) : List T × OrchestrationRecoveryState :=
  match (state.nextEvents sequence events).getLast? with
  | none => ([], state)
  | some last =>
    (state.nextEvents sequence events,
      { state with
        latestSequence := sequence last
        highestObservedSequence := max state.highestObservedSequence (sequence last) })

def beginSnapshotRecovery (reason : OrchestrationRecoveryReason)
    (state : OrchestrationRecoveryState) : Bool × OrchestrationRecoveryState :=
  if state.inFlightKind = some .snapshot then (false, { state with pendingReplay := true })
  else if state.inFlightKind = some .replay then (false, { state with pendingReplay := true })
  else (true, { state with inFlight := some ⟨.snapshot, reason⟩ })

def completeSnapshotRecovery (snapshotSequence : Nat) (state : OrchestrationRecoveryState) :
    Bool × OrchestrationRecoveryState :=
  let latestSequence := max state.latestSequence snapshotSequence
  let (need, next) := resolveReplayNeedAfterRecovery
    { state with
      latestSequence := latestSequence
      highestObservedSequence := max state.highestObservedSequence latestSequence
      bootstrapped := true
      inFlight := none }
  (need.shouldReplay, next)

def failSnapshotRecovery (state : OrchestrationRecoveryState) : OrchestrationRecoveryState :=
  { state with inFlight := none }

end OrchestrationRecoveryState

namespace OrchestrationRecoveryCoordinator

def beginReplayRecovery (reason : OrchestrationRecoveryReason)
    (coordinator : OrchestrationRecoveryCoordinator) : Bool × OrchestrationRecoveryCoordinator :=
  let state := coordinator.state
  if state.bootstrapped = false ∨ state.inFlightKind = some .snapshot then
    (false, { coordinator with state := { state with pendingReplay := true } })
  else if state.inFlightKind = some .replay then
    (false, { coordinator with state := { state with pendingReplay := true } })
  else
    (true,
      { state := { state with pendingReplay := false, inFlight := some ⟨.replay, reason⟩ }
        replayStartSequence := some state.latestSequence })

def completeReplayRecovery (coordinator : OrchestrationRecoveryCoordinator) :
    ReplayRecoveryCompletion × OrchestrationRecoveryCoordinator :=
  let replayMadeProgress := coordinator.replayStartSequence.any
    (fun start => decide (start < coordinator.state.latestSequence))
  let (need, next) := OrchestrationRecoveryState.resolveReplayNeedAfterRecovery
    { coordinator.state with inFlight := none }
  ({ replayMadeProgress := replayMadeProgress, shouldReplay := need.shouldReplay },
    { state := next, replayStartSequence := none })

def failReplayRecovery (coordinator : OrchestrationRecoveryCoordinator) :
    OrchestrationRecoveryCoordinator where
  state := { coordinator.state with bootstrapped := false, inFlight := none }
  replayStartSequence := none

end OrchestrationRecoveryCoordinator

/-- The coordinator with the events observed, those it let its caller apply that have not been
passed on, the snapshots loaded and the events it returned for application, and whether the
last completion asked for a replay or an event did after it. -/
structure RecoveryRun (T : Type u) where
  coordinator : OrchestrationRecoveryCoordinator
  observed : List T
  cleared : List T
  progress : List Progress
  replayAsked : Bool

def startRecoveryRun (T : Type u) : RecoveryRun T where
  coordinator := createOrchestrationRecoveryCoordinator
  observed := []
  cleared := []
  progress := []
  replayAsked := false

inductive RecoveryAction (T : Type u) where
  | domainEvent (event : T)
  | applyCleared (batch kept : List T)
  | applyReplay (batch : List T)
  | beginSnapshot (reason : OrchestrationRecoveryReason)
  | completeSnapshot (snapshotSequence : Nat)
  | failSnapshot
  | beginReplay (reason : OrchestrationRecoveryReason)
  | completeReplay
  | failReplay

variable {T : Type u}

namespace RecoveryRun

def latestSequence (run : RecoveryRun T) : Nat := run.coordinator.state.latestSequence

def withState (state : OrchestrationRecoveryState) (run : RecoveryRun T) : RecoveryRun T :=
  { run with coordinator := { run.coordinator with state := state } }

/-- An event comes in, and is kept where the coordinator lets it be applied. -/
def classify (sequence : T → Nat) (event : T) (run : RecoveryRun T) : RecoveryRun T :=
  let (eventClass, state) := run.coordinator.state.classifyDomainEvent (sequence event)
  { run.withState state with
    observed := run.observed ++ [event]
    cleared := if eventClass = .apply then run.cleared ++ [event] else run.cleared
    replayAsked := run.replayAsked || decide (eventClass = .recover) }

/-- A batch is passed on and what the coordinator returns of it is applied. -/
def applyBatch (sequence : T → Nat) (batch : List T) (run : RecoveryRun T) : RecoveryRun T :=
  let (events, state) := run.coordinator.state.markEventBatchApplied sequence batch
  { run.withState state with
    progress := run.progress ++ (events.map sequence).map .applied }

variable [DecidableEq T] (sequence : T → Nat)

/-- A batch that answers a replay holds every event after the latest up to some point, in
order. A recovery is completed or fails while it is in flight. -/
def step (run : RecoveryRun T) : RecoveryAction T → Option (RecoveryRun T)
  | .domainEvent event => some (run.classify sequence event)
  | .applyCleared batch kept =>
    if run.cleared.Perm (batch ++ kept) then
      some { run.applyBatch sequence batch with cleared := kept }
    else none
  | .applyReplay batch =>
    let fresh := (batch.map sequence).filter (fun number => run.latestSequence < number)
    if fresh = List.range' (run.latestSequence + 1) fresh.length then
      some (run.applyBatch sequence batch)
    else none
  | .beginSnapshot reason =>
    some (run.withState (run.coordinator.state.beginSnapshotRecovery reason).2)
  | .completeSnapshot snapshotSequence =>
    if run.coordinator.state.inFlightKind = some .snapshot then
      let (shouldReplay, state) :=
        run.coordinator.state.completeSnapshotRecovery snapshotSequence
      some
        { run.withState state with
          progress := run.progress ++ [.loaded snapshotSequence]
          replayAsked := shouldReplay }
    else none
  | .failSnapshot =>
    if run.coordinator.state.inFlightKind = some .snapshot then
      some (run.withState run.coordinator.state.failSnapshotRecovery)
    else none
  | .beginReplay reason =>
    some { run with coordinator := (run.coordinator.beginReplayRecovery reason).2 }
  | .completeReplay =>
    if run.coordinator.state.inFlightKind = some .replay then
      let (completion, coordinator) := run.coordinator.completeReplayRecovery
      some { run with coordinator := coordinator, replayAsked := completion.shouldReplay }
    else none
  | .failReplay =>
    if run.coordinator.state.inFlightKind = some .replay then
      some { run with coordinator := run.coordinator.failReplayRecovery }
    else none

/-- No recovery is in flight and a snapshot has been loaded since a replay last failed. -/
def Settled (run : RecoveryRun T) : Prop :=
  run.coordinator.state.inFlight = none ∧ run.coordinator.state.bootstrapped = true

/-- An event observed above the latest may be applied, or a replay was asked for. -/
def Remembered (run : RecoveryRun T) : Prop :=
  ∀ event ∈ run.observed, run.latestSequence < sequence event →
    run.replayAsked = true ∨ ∃ waiting ∈ run.cleared, sequence waiting = sequence event

structure OnTrack (run : RecoveryRun T) : Prop where
  increasing : run.progress.Pairwise (fun earlier later =>
    later.isApplied = true → earlier.sequence < later.sequence)
  gapFree : GapFree 0 run.progress
  remembered : run.Settled → run.Remembered sequence

/-- A snapshot does not fail with events deferred, but for one in a coordinator that needs
another snapshot or was asked for a replay; and no batch repeats an event. -/
def KeepsTrack (run : RecoveryRun T) : RecoveryAction T → Prop
  | .failSnapshot => run.coordinator.state.bootstrapped = true → run.replayAsked = false →
      ∀ event ∈ run.observed, run.latestSequence < sequence event →
        ∃ waiting ∈ run.cleared, sequence waiting = sequence event
  | .applyCleared batch _ =>
    ((batch.map sequence).filter (fun number => run.latestSequence < number)).Nodup
  | _ => True

end RecoveryRun

namespace OrchestrationRecoveryState

variable {sequence : T → Nat} {events : List T} {state : OrchestrationRecoveryState}

def freshNumbers (sequence : T → Nat) (events : List T) (latestSequence : Nat) : List Nat :=
  (events.map sequence).filter (fun number => latestSequence < number)

theorem map_nextEvents (sequence : T → Nat) (events : List T)
    (state : OrchestrationRecoveryState) :
    (state.nextEvents sequence events).map sequence =
      toSorted (byKey id) (freshNumbers sequence events state.latestSequence) := by
  have hcompare : ∀ a b : T, byKey sequence a b = byKey id (sequence a) (sequence b) :=
    fun _ _ => rfl
  rw [nextEvents, map_toSorted hcompare, freshNumbers, List.filter_map]
  rfl

@[simp] theorem markEventBatchApplied_fst (sequence : T → Nat) (events : List T)
    (state : OrchestrationRecoveryState) :
    (state.markEventBatchApplied sequence events).1 = state.nextEvents sequence events := by
  unfold markEventBatchApplied
  split
  · next hlast => exact (List.getLast?_eq_none_iff.mp hlast).symm
  · rfl

theorem latestSequence_markEventBatchApplied (sequence : T → Nat) (events : List T)
    (state : OrchestrationRecoveryState) :
    (state.markEventBatchApplied sequence events).2.latestSequence =
      frontier state.latestSequence
        (((state.nextEvents sequence events).map sequence).map .applied) := by
  unfold markEventBatchApplied
  split
  · next hlast =>
      rw [List.getLast?_eq_none_iff.mp hlast]
      rfl
  · next last hlast =>
      have hmem : last ∈ state.nextEvents sequence events := List.mem_of_getLast? hlast
      have hlt : state.latestSequence < sequence last := by
        simpa using (List.mem_filter.mp (mem_toSorted.mp hmem)).2
      have hsorted : (state.nextEvents sequence events).Pairwise
          (fun a b => sequence a ≤ sequence b) :=
        (rankedBy_byKey sequence).pairwise_toSorted _
      obtain ⟨earlier, hevents⟩ := List.getLast?_eq_some_iff.mp hlast
      rw [hevents, List.pairwise_append] at hsorted
      rw [hevents, List.map_append, List.map_append, frontier_append]
      show sequence last = max _ (sequence last)
      refine (max_eq_right (frontier_le (by omega) ?_)).symm
      intro entry hentry
      obtain ⟨number, hnumber, rfl⟩ := List.mem_map.mp hentry
      obtain ⟨event, hevent, rfl⟩ := List.mem_map.mp hnumber
      exact hsorted.2.2 event hevent last (List.mem_singleton_self last)

theorem markEventBatchApplied_frame (sequence : T → Nat) (events : List T)
    (state : OrchestrationRecoveryState) :
    (state.markEventBatchApplied sequence events).2.bootstrapped = state.bootstrapped ∧
    (state.markEventBatchApplied sequence events).2.inFlight = state.inFlight ∧
    state.highestObservedSequence ≤
      (state.markEventBatchApplied sequence events).2.highestObservedSequence := by
  unfold markEventBatchApplied
  split
  · exact ⟨rfl, rfl, Nat.le_refl _⟩
  · exact ⟨rfl, rfl, le_max_left _ _⟩

theorem sequence_le_latestSequence {event : T} (h : event ∈ events) :
    sequence event ≤ (state.markEventBatchApplied sequence events).2.latestSequence := by
  rw [latestSequence_markEventBatchApplied, map_nextEvents]
  by_cases hfresh : state.latestSequence < sequence event
  · have hmem : Progress.applied (sequence event) ∈ (toSorted (byKey id)
        (freshNumbers sequence events state.latestSequence)).map .applied := by
      apply List.mem_map_of_mem
      rw [mem_toSorted]
      exact List.mem_filter.mpr ⟨List.mem_map_of_mem h, by simpa using hfresh⟩
    exact sequence_le_frontier hmem
  · have hstart := le_frontier state.latestSequence
      ((toSorted (byKey id) (freshNumbers sequence events state.latestSequence)).map .applied)
    omega

theorem toSorted_range' (start count : Nat) :
    toSorted (byKey id) (List.range' start count) = List.range' start count := by
  apply List.Pairwise.insertionSort_eq
  have hlt : (List.range' start count).Pairwise (· < ·) := List.pairwise_lt_range'
  refine hlt.imp ?_
  intro left right hlt
  show (left : Int) - (right : Int) ≤ 0
  omega

theorem replicate_eq_range'_iff (start count : Nat) :
    List.replicate count start = List.range' start count ↔ count ≤ 1 := by
  match count with
  | 0 => exact iff_of_true rfl (by omega)
  | 1 => exact iff_of_true rfl (by omega)
  | count + 2 =>
    refine iff_of_false ?_ (by omega)
    intro h
    rw [List.replicate_succ, List.replicate_succ, List.range'_succ, List.range'_succ] at h
    have hsecond := (List.cons.inj (List.cons.inj h).2).1
    omega

theorem toSorted_eq_range'_iff_nodup {numbers : List Nat} {next : Nat}
    (h : ∀ number ∈ numbers, number = next) :
    toSorted (byKey id) numbers = List.range' next (toSorted (byKey id) numbers).length ↔
      numbers.Nodup := by
  obtain ⟨count, rfl⟩ : ∃ count, numbers = List.replicate count next :=
    ⟨numbers.length, List.eq_replicate_iff.mpr ⟨rfl, h⟩⟩
  have hsorted : toSorted (byKey id) (List.replicate count next) = List.replicate count next :=
    List.perm_replicate.mp (toSorted_perm (byKey id) _)
  rw [hsorted, List.length_replicate, replicate_eq_range'_iff, List.nodup_replicate]

variable {number : Nat}

theorem classifyDomainEvent_cases (number : Nat) (state : OrchestrationRecoveryState) :
    (number ≤ state.latestSequence ∧
      state.classifyDomainEvent number = (.ignore, state.observeSequence number)) ∨
    (state.latestSequence < number ∧ (state.bootstrapped = false ∨ state.inFlight ≠ none) ∧
      state.classifyDomainEvent number =
        (.defer, { state.observeSequence number with pendingReplay := true })) ∨
    (state.latestSequence < number ∧ state.classifyDomainEvent number =
      (.recover, { state.observeSequence number with pendingReplay := true })) ∨
    (number = state.latestSequence + 1 ∧
      state.classifyDomainEvent number = (.apply, state.observeSequence number)) := by
  by_cases hold : number ≤ state.latestSequence
  · exact Or.inl ⟨hold, if_pos hold⟩
  have hnew : state.latestSequence < number := by omega
  by_cases hrecovering : state.bootstrapped = false ∨ state.inFlight.isSome
  · refine Or.inr (Or.inl ⟨hnew, ?_, (if_neg hold).trans (if_pos hrecovering)⟩)
    exact hrecovering.imp_right Option.isSome_iff_ne_none.mp
  by_cases hgap : number ≠ state.latestSequence + 1
  · exact Or.inr (Or.inr (Or.inl
      ⟨hnew, (if_neg hold).trans ((if_neg hrecovering).trans (if_pos hgap))⟩))
  · exact Or.inr (Or.inr (Or.inr
      ⟨not_not.mp hgap, (if_neg hold).trans ((if_neg hrecovering).trans (if_neg hgap))⟩))

theorem classifyDomainEvent_frame (number : Nat) (state : OrchestrationRecoveryState) :
    (state.classifyDomainEvent number).2.latestSequence = state.latestSequence ∧
    (state.classifyDomainEvent number).2.bootstrapped = state.bootstrapped ∧
    (state.classifyDomainEvent number).2.inFlight = state.inFlight ∧
    (state.classifyDomainEvent number).2.highestObservedSequence =
      max state.highestObservedSequence number := by
  rcases state.classifyDomainEvent_cases number with h | h | h | h
  · rw [h.2]
    exact ⟨rfl, rfl, rfl, rfl⟩
  · rw [h.2.2]
    exact ⟨rfl, rfl, rfl, rfl⟩
  · rw [h.2]
    exact ⟨rfl, rfl, rfl, rfl⟩
  · rw [h.2]
    exact ⟨rfl, rfl, rfl, rfl⟩

theorem eq_of_classifyDomainEvent_apply
    (h : (state.classifyDomainEvent number).1 = .apply) : number = state.latestSequence + 1 := by
  rcases state.classifyDomainEvent_cases number with hcase | hcase | hcase | hcase
  · rw [hcase.2] at h
    cases h
  · rw [hcase.2.2] at h
    cases h
  · rw [hcase.2] at h
    cases h
  · exact hcase.1

theorem classifyDomainEvent_of_settled (hinFlight : state.inFlight = none)
    (hbootstrapped : state.bootstrapped = true) (hnew : state.latestSequence < number) :
    (state.classifyDomainEvent number).1 = .apply ∨
      (state.classifyDomainEvent number).1 = .recover := by
  rcases state.classifyDomainEvent_cases number with hcase | hcase | hcase | hcase
  · omega
  · simp [hinFlight, hbootstrapped] at hcase
  · exact Or.inr (congrArg Prod.fst hcase.2)
  · exact Or.inl (congrArg Prod.fst hcase.2)

end OrchestrationRecoveryState

/-! ## One step -/

namespace RecoveryRun

/-- The latest event is the frontier of what was loaded and applied; an event that may be
applied is at most the next one. -/
structure Sound (sequence : T → Nat) (run : RecoveryRun T) : Prop where
  frontier_eq : frontier 0 run.progress = run.latestSequence
  observed_le : ∀ event ∈ run.observed,
    sequence event ≤ run.coordinator.state.highestObservedSequence
  cleared_le : ∀ event ∈ run.cleared, sequence event ≤ run.latestSequence + 1

variable {sequence : T → Nat} {run next : RecoveryRun T}

theorem onTrack_iff :
    run.OnTrack sequence ↔ GapFree 0 run.progress ∧ (run.Settled → run.Remembered sequence) := by
  constructor
  · intro h
    exact ⟨h.gapFree, h.remembered⟩
  · intro h
    exact ⟨h.1.pairwise, h.1, h.2⟩

/-! ### Observing an event -/

theorem cleared_classify (sequence : T → Nat) (event : T) (run : RecoveryRun T) :
    (run.classify sequence event).cleared =
      if (run.coordinator.state.classifyDomainEvent (sequence event)).1 = .apply then
        run.cleared ++ [event]
      else run.cleared := rfl

theorem latestSequence_classify (sequence : T → Nat) (event : T) (run : RecoveryRun T) :
    (run.classify sequence event).latestSequence = run.latestSequence :=
  (run.coordinator.state.classifyDomainEvent_frame (sequence event)).1

theorem Sound.classify (hsound : run.Sound sequence) (event : T) :
    (run.classify sequence event).Sound sequence := by
  constructor
  · rw [latestSequence_classify]
    exact hsound.frontier_eq
  · intro other hmem
    have hhighest := (run.coordinator.state.classifyDomainEvent_frame (sequence event)).2.2.2
    refine le_of_le_of_eq ?_ hhighest.symm
    rcases List.mem_append.mp hmem with hold | hnew
    · exact le_trans (hsound.observed_le other hold) (le_max_left _ _)
    · rw [List.mem_singleton.mp hnew]
      exact le_max_right _ _
  · intro other hmem
    rw [latestSequence_classify]
    rw [cleared_classify] at hmem
    split at hmem
    · next happly =>
        rcases List.mem_append.mp hmem with hold | hnew
        · exact hsound.cleared_le other hold
        · rw [List.mem_singleton.mp hnew]
          exact (OrchestrationRecoveryState.eq_of_classifyDomainEvent_apply happly).le
    · exact hsound.cleared_le other hmem

theorem OnTrack.classify (htrack : run.OnTrack sequence) (event : T) :
    (run.classify sequence event).OnTrack sequence := by
  obtain ⟨-, hbootstrapped, hinFlight, -⟩ :=
    run.coordinator.state.classifyDomainEvent_frame (sequence event)
  refine onTrack_iff.mpr ⟨htrack.gapFree, ?_⟩
  intro hsettled other hmem hnew
  have hidle : run.coordinator.state.inFlight = none := hinFlight ▸ hsettled.1
  have hready : run.coordinator.state.bootstrapped = true := hbootstrapped ▸ hsettled.2
  rw [latestSequence_classify] at hnew
  rw [cleared_classify]
  show (run.replayAsked || decide ((run.coordinator.state.classifyDomainEvent
    (sequence event)).1 = .recover)) = true ∨ _
  rcases List.mem_append.mp hmem with hold | hself
  · rcases htrack.remembered ⟨hidle, hready⟩ other hold hnew with hasked | ⟨waiting, hwaiting, heq⟩
    · exact Or.inl (by simp [hasked])
    · refine Or.inr ⟨waiting, ?_, heq⟩
      split
      · exact List.mem_append_left _ hwaiting
      · exact hwaiting
  · rw [List.mem_singleton.mp hself] at hnew ⊢
    rcases OrchestrationRecoveryState.classifyDomainEvent_of_settled hidle hready hnew with
      happly | hrecover
    · exact Or.inr ⟨event, by simp [happly], rfl⟩
    · exact Or.inl (by simp [hrecover])

/-! ### Applying a batch -/

theorem latestSequence_applyBatch (sequence : T → Nat) (batch : List T) (run : RecoveryRun T) :
    (run.applyBatch sequence batch).latestSequence =
      (run.coordinator.state.markEventBatchApplied sequence batch).2.latestSequence := rfl

theorem progress_applyBatch (sequence : T → Nat) (batch : List T) (run : RecoveryRun T) :
    (run.applyBatch sequence batch).progress = run.progress ++
      ((run.coordinator.state.nextEvents sequence batch).map sequence).map .applied := by
  rw [← OrchestrationRecoveryState.markEventBatchApplied_fst]
  rfl

theorem latestSequence_le_applyBatch (sequence : T → Nat) (batch : List T)
    (run : RecoveryRun T) :
    run.latestSequence ≤ (run.applyBatch sequence batch).latestSequence := by
  rw [latestSequence_applyBatch,
    OrchestrationRecoveryState.latestSequence_markEventBatchApplied]
  exact le_frontier _ _

variable {kept batch : List T} {state : OrchestrationRecoveryState}

theorem Sound.applyBatch (hsound : run.Sound sequence) (batch : List T)
    (hkept : ∀ event ∈ kept, event ∈ run.cleared) :
    ({ run.applyBatch sequence batch with cleared := kept } : RecoveryRun T).Sound sequence := by
  constructor
  · show frontier 0 (run.applyBatch sequence batch).progress =
      (run.applyBatch sequence batch).latestSequence
    rw [progress_applyBatch, frontier_append, hsound.frontier_eq, latestSequence_applyBatch,
      OrchestrationRecoveryState.latestSequence_markEventBatchApplied]
    rfl
  · intro event hmem
    exact le_trans (hsound.observed_le event hmem)
      (run.coordinator.state.markEventBatchApplied_frame sequence batch).2.2
  · intro event hmem
    have hbefore := hsound.cleared_le event (hkept event hmem)
    have hgrows := latestSequence_le_applyBatch sequence batch run
    show sequence event ≤ (run.applyBatch sequence batch).latestSequence + 1
    omega

theorem Remembered.applyBatch (hremembered : run.Remembered sequence)
    (hkept : ∀ event ∈ run.cleared, event ∈ batch ∨ event ∈ kept) :
    ({ run.applyBatch sequence batch with cleared := kept } : RecoveryRun T).Remembered
      sequence := by
  intro event hmem hnew
  have hnew : (run.applyBatch sequence batch).latestSequence < sequence event := hnew
  have hgrows := latestSequence_le_applyBatch sequence batch run
  rcases hremembered event hmem (by omega) with hasked | ⟨waiting, hwaiting, heq⟩
  · exact Or.inl hasked
  · rcases hkept waiting hwaiting with hpassed | hstays
    · have happlied : sequence waiting ≤ (run.applyBatch sequence batch).latestSequence :=
        OrchestrationRecoveryState.sequence_le_latestSequence hpassed
      omega
    · exact Or.inr ⟨waiting, hstays, heq⟩

theorem gapFree_applyBatch_iff (hsound : run.Sound sequence) (hgapFree : GapFree 0 run.progress)
    (batch : List T) :
    GapFree 0 (run.applyBatch sequence batch).progress ↔
      toSorted (byKey id)
        (OrchestrationRecoveryState.freshNumbers sequence batch run.latestSequence) =
        List.range' (run.latestSequence + 1) (toSorted (byKey id)
          (OrchestrationRecoveryState.freshNumbers sequence batch run.latestSequence)).length := by
  rw [progress_applyBatch, gapFree_append, hsound.frontier_eq,
    OrchestrationRecoveryState.map_nextEvents, gapFree_applied_iff]
  exact and_iff_right hgapFree

theorem onTrack_applyBatch_iff (htrack : run.OnTrack sequence)
    (hkept : ∀ event ∈ run.cleared, event ∈ batch ∨ event ∈ kept) :
    ({ run.applyBatch sequence batch with cleared := kept } : RecoveryRun T).OnTrack sequence ↔
      GapFree 0 (run.applyBatch sequence batch).progress := by
  obtain ⟨hbootstrapped, hinFlight, -⟩ :=
    run.coordinator.state.markEventBatchApplied_frame sequence batch
  rw [onTrack_iff]
  refine and_iff_left ?_
  intro hsettled
  have hidle : run.coordinator.state.inFlight = none := hinFlight ▸ hsettled.1
  have hready : run.coordinator.state.bootstrapped = true := hbootstrapped ▸ hsettled.2
  exact (htrack.remembered ⟨hidle, hready⟩).applyBatch hkept

/-! ### Recoveries -/

structure SameNumbers (run next : RecoveryRun T) : Prop where
  latestSequence_eq : next.latestSequence = run.latestSequence
  highest_eq : next.coordinator.state.highestObservedSequence =
    run.coordinator.state.highestObservedSequence
  observed_eq : next.observed = run.observed
  cleared_eq : next.cleared = run.cleared
  progress_eq : next.progress = run.progress
  replayAsked_eq : next.replayAsked = run.replayAsked

theorem sameNumbers_beginSnapshot (reason : OrchestrationRecoveryReason) (run : RecoveryRun T) :
    SameNumbers run (run.withState (run.coordinator.state.beginSnapshotRecovery reason).2) := by
  unfold OrchestrationRecoveryState.beginSnapshotRecovery
  split
  · exact ⟨rfl, rfl, rfl, rfl, rfl, rfl⟩
  · split
    · exact ⟨rfl, rfl, rfl, rfl, rfl, rfl⟩
    · exact ⟨rfl, rfl, rfl, rfl, rfl, rfl⟩

theorem sameNumbers_beginReplay (reason : OrchestrationRecoveryReason) (run : RecoveryRun T) :
    SameNumbers run
      { run with coordinator := (run.coordinator.beginReplayRecovery reason).2 } := by
  simp only [OrchestrationRecoveryCoordinator.beginReplayRecovery]
  split
  · exact ⟨rfl, rfl, rfl, rfl, rfl, rfl⟩
  · split
    · exact ⟨rfl, rfl, rfl, rfl, rfl, rfl⟩
    · exact ⟨rfl, rfl, rfl, rfl, rfl, rfl⟩

theorem inFlightKind_ne_none {kind : OrchestrationRecoveryKind}
    (h : state.inFlightKind = some kind) : state.inFlight ≠ none := by
  intro hnone
  rw [OrchestrationRecoveryState.inFlightKind, hnone] at h
  cases h

theorem not_settled_beginSnapshot (reason : OrchestrationRecoveryReason) (run : RecoveryRun T) :
    ¬ (run.withState (run.coordinator.state.beginSnapshotRecovery reason).2).Settled := by
  unfold OrchestrationRecoveryState.beginSnapshotRecovery
  intro hsettled
  split at hsettled
  · next hkind => exact inFlightKind_ne_none hkind hsettled.1
  · split at hsettled
    · next hkind => exact inFlightKind_ne_none hkind hsettled.1
    · cases hsettled.1

theorem not_settled_beginReplay (reason : OrchestrationRecoveryReason) (run : RecoveryRun T) :
    ¬ ({ run with coordinator := (run.coordinator.beginReplayRecovery reason).2 } :
      RecoveryRun T).Settled := by
  simp only [OrchestrationRecoveryCoordinator.beginReplayRecovery]
  intro hsettled
  split at hsettled
  · next hblocked =>
      rcases hblocked with hunready | hkind
      · have hready : run.coordinator.state.bootstrapped = true := hsettled.2
        rw [hunready] at hready
        cases hready
      · exact inFlightKind_ne_none hkind hsettled.1
  · split at hsettled
    · next hkind => exact inFlightKind_ne_none hkind hsettled.1
    · cases hsettled.1

theorem SameNumbers.sound (hsame : SameNumbers run next) (hsound : run.Sound sequence) :
    next.Sound sequence := by
  obtain ⟨hfrontier, hobserved, hcleared⟩ := hsound
  constructor
  · rw [hsame.progress_eq, hsame.latestSequence_eq, hfrontier]
  · rw [hsame.observed_eq, hsame.highest_eq]
    exact hobserved
  · rw [hsame.cleared_eq, hsame.latestSequence_eq]
    exact hcleared

theorem SameNumbers.remembered_iff (hsame : SameNumbers run next) :
    next.Remembered sequence ↔ run.Remembered sequence := by
  unfold Remembered
  rw [hsame.observed_eq, hsame.latestSequence_eq, hsame.replayAsked_eq, hsame.cleared_eq]

theorem SameNumbers.onTrack_iff (hsame : SameNumbers run next) (htrack : run.OnTrack sequence) :
    next.OnTrack sequence ↔ (next.Settled → run.Remembered sequence) := by
  rw [RecoveryRun.onTrack_iff, hsame.progress_eq, hsame.remembered_iff]
  exact and_iff_right htrack.gapFree

theorem shouldReplay_of_lt {number : Nat} (hle : number ≤ state.highestObservedSequence)
    (hlt : state.latestSequence < number) :
    state.resolveReplayNeedAfterRecovery.1.shouldReplay = true := by
  have hahead : state.latestSequence < state.highestObservedSequence := by omega
  simp [OrchestrationRecoveryState.resolveReplayNeedAfterRecovery, hahead]

variable [DecidableEq T] {action : RecoveryAction T}

theorem Sound.step (hsound : run.Sound sequence) (h : run.step sequence action = some next) :
    next.Sound sequence := by
  cases action with
  | domainEvent event =>
    cases h
    exact hsound.classify event
  | applyCleared batch kept =>
    simp only [RecoveryRun.step] at h
    split at h
    · next hperm =>
        cases h
        exact hsound.applyBatch batch
          (fun event hmem => hperm.mem_iff.mpr (List.mem_append_right _ hmem))
    · cases h
  | applyReplay batch =>
    simp only [RecoveryRun.step] at h
    split at h
    · cases h
      exact hsound.applyBatch batch (fun _ hmem => hmem)
    · cases h
  | beginSnapshot reason =>
    cases h
    exact (sameNumbers_beginSnapshot reason run).sound hsound
  | completeSnapshot snapshotSequence =>
    simp only [RecoveryRun.step] at h
    split at h
    · cases h
      obtain ⟨hfrontier, hobserved, hcleared⟩ := hsound
      constructor
      · show frontier 0 (run.progress ++ [.loaded snapshotSequence]) = _
        rw [frontier_append, hfrontier]
        rfl
      · intro event hmem
        exact le_trans (hobserved event hmem) (le_max_left _ _)
      · intro event hmem
        exact le_trans (hcleared event hmem) (Nat.succ_le_succ (le_max_left _ _))
    · cases h
  | failSnapshot | completeReplay | failReplay =>
    simp only [RecoveryRun.step] at h
    split at h
    · cases h
      exact ⟨hsound.frontier_eq, hsound.observed_le, hsound.cleared_le⟩
    · cases h
  | beginReplay reason =>
    cases h
    exact (sameNumbers_beginReplay reason run).sound hsound

theorem onTrack_step_iff (hsound : run.Sound sequence) (htrack : run.OnTrack sequence)
    (h : run.step sequence action = some next) :
    next.OnTrack sequence ↔ run.KeepsTrack sequence action := by
  cases action with
  | domainEvent event =>
    cases h
    exact iff_of_true (htrack.classify event) trivial
  | applyCleared batch kept =>
    simp only [RecoveryRun.step] at h
    split at h
    · next hperm =>
        cases h
        have hkept : ∀ event ∈ run.cleared, event ∈ batch ∨ event ∈ kept :=
          fun event hmem => List.mem_append.mp (hperm.mem_iff.mp hmem)
        rw [onTrack_applyBatch_iff htrack hkept,
          gapFree_applyBatch_iff hsound htrack.gapFree]
        apply OrchestrationRecoveryState.toSorted_eq_range'_iff_nodup
        intro number hnumber
        obtain ⟨hmem, hnew⟩ := List.mem_filter.mp hnumber
        obtain ⟨event, hevent, rfl⟩ := List.mem_map.mp hmem
        have hbound := hsound.cleared_le event
          (hperm.mem_iff.mpr (List.mem_append_left _ hevent))
        have hnew : run.latestSequence < sequence event := by simpa using hnew
        omega
    · cases h
  | applyReplay batch =>
    simp only [RecoveryRun.step] at h
    split at h
    · next hfresh =>
        cases h
        refine iff_of_true ?_ trivial
        apply (onTrack_applyBatch_iff htrack (fun _ hmem => Or.inr hmem)).mpr
        rw [gapFree_applyBatch_iff hsound htrack.gapFree, length_toSorted]
        unfold OrchestrationRecoveryState.freshNumbers
        rw [hfresh, OrchestrationRecoveryState.toSorted_range', List.length_range']
    · cases h
  | beginSnapshot reason =>
    cases h
    refine iff_of_true ?_ trivial
    rw [(sameNumbers_beginSnapshot reason run).onTrack_iff htrack]
    intro hsettled
    exact absurd hsettled (not_settled_beginSnapshot reason run)
  | completeSnapshot snapshotSequence =>
    simp only [RecoveryRun.step] at h
    split at h
    · cases h
      refine iff_of_true ?_ trivial
      rw [onTrack_iff]
      constructor
      · show GapFree 0 (run.progress ++ [.loaded snapshotSequence])
        rw [gapFree_append]
        exact ⟨htrack.gapFree, trivial⟩
      · intro hsettled event hmem hnew
        exact Or.inl (shouldReplay_of_lt
          (le_trans (hsound.observed_le event hmem) (le_max_left _ _)) hnew)
    · cases h
  | failSnapshot =>
    simp only [RecoveryRun.step] at h
    split at h
    · cases h
      have hsame : SameNumbers run
          (run.withState run.coordinator.state.failSnapshotRecovery) :=
        ⟨rfl, rfl, rfl, rfl, rfl, rfl⟩
      rw [hsame.onTrack_iff htrack]
      constructor
      · intro hremembered hready hasked event hmem hnew
        refine (hremembered ⟨rfl, hready⟩ event hmem hnew).resolve_left ?_
        rw [hasked]
        exact Bool.false_ne_true
      · intro hkeeps hsettled event hmem hnew
        by_cases hasked : run.replayAsked = true
        · exact Or.inl hasked
        · exact Or.inr (hkeeps hsettled.2 (Bool.not_eq_true _ ▸ hasked) event hmem hnew)
    · cases h
  | beginReplay reason =>
    cases h
    refine iff_of_true ?_ trivial
    rw [(sameNumbers_beginReplay reason run).onTrack_iff htrack]
    intro hsettled
    exact absurd hsettled (not_settled_beginReplay reason run)
  | completeReplay =>
    simp only [RecoveryRun.step] at h
    split at h
    · cases h
      refine iff_of_true ?_ trivial
      rw [onTrack_iff]
      refine ⟨htrack.gapFree, ?_⟩
      intro hsettled event hmem hnew
      exact Or.inl (shouldReplay_of_lt (hsound.observed_le event hmem) hnew)
    · cases h
  | failReplay =>
    simp only [RecoveryRun.step] at h
    split at h
    · cases h
      refine iff_of_true ?_ trivial
      rw [onTrack_iff]
      refine ⟨htrack.gapFree, ?_⟩
      intro hsettled
      cases hsettled.2
    · cases h

omit [DecidableEq T] in
theorem sound_startRecoveryRun : (startRecoveryRun T).Sound sequence := by
  constructor
  · rfl
  · exact nofun
  · exact nofun

omit [DecidableEq T] in
theorem onTrack_startRecoveryRun : (startRecoveryRun T).OnTrack sequence := by
  refine onTrack_iff.mpr ⟨trivial, ?_⟩
  intro hsettled
  cases hsettled.2

/-- The events returned for application are a gap-free prefix and none observed is forgotten
exactly in the runs where no snapshot fails with events deferred and no batch repeats one. -/
theorem onTrack_throughout_iff (sequence : T → Nat) (actions : List (RecoveryAction T)) :
    Throughout (RecoveryRun.step sequence) (OnTrack sequence) (startRecoveryRun T) actions ↔
      StepsMeet (RecoveryRun.step sequence) (KeepsTrack sequence) (startRecoveryRun T)
        actions := by
  have hkeep : ∀ (run : RecoveryRun T) action next, run.Sound sequence →
      run.step sequence action = some next → next.Sound sequence :=
    fun _ _ _ hsound hstep => hsound.step hstep
  have hexact : ∀ (run : RecoveryRun T) action next, run.Sound sequence →
      run.OnTrack sequence → run.step sequence action = some next →
      (next.OnTrack sequence ↔ run.KeepsTrack sequence action) :=
    fun _ _ _ hsound htrack hstep => onTrack_step_iff hsound htrack hstep
  exact throughout_iff_stepsMeet hkeep hexact sound_startRecoveryRun onTrack_startRecoveryRun
    actions

/-- The event deferred during a second snapshot is forgotten when that snapshot fails. -/
theorem failed_snapshot_forgets :
    ¬ ∀ actions : List (RecoveryAction Nat),
      Throughout (RecoveryRun.step id) (OnTrack id) (startRecoveryRun Nat) actions := by
  intro h
  have hrun : exec (RecoveryRun.step id) (startRecoveryRun Nat)
      [.beginSnapshot .bootstrap, .completeSnapshot 3, .beginSnapshot .resubscribe,
        .domainEvent 4, .failSnapshot] = some (_ : RecoveryRun Nat) := rfl
  have htrack := (h _).final hrun
  rcases htrack.remembered ⟨rfl, rfl⟩ 4 (List.mem_singleton_self 4) (by decide) with
    hasked | ⟨waiting, hwaiting, -⟩
  · cases hasked
  · cases hwaiting

end RecoveryRun

end GT3Code.Web
