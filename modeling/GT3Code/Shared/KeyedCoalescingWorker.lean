import Mathlib.Data.Finset.Basic
import GT3Code.Base.Coalescing
import GT3Code.Base.KeyedMap
import GT3Code.Base.Runs

/-! # Keyed coalescing worker

One fiber takes keys from a queue and processes the latest value of each. Enqueuers, the
fiber and the clean-up after a failure change three collections in transactions of their
own, so any enqueue may come between two of the fiber's.
-/

namespace GT3Code.Shared

open GT3Code.Base

universe u v

variable {K : Type u} {V : Type v} [DecidableEq K]

structure KeyedCoalescingWorkerState (K : Type u) (V : Type v) where
  latestByKey : KeyedMap K V
  queuedKeys : Finset K
  activeKeys : Finset K

/-- The transaction of `enqueue`, and whether the key is offered to the queue. -/
def enqueueValue (merge : V → V → V) (key : K) (value : V)
    (state : KeyedCoalescingWorkerState K V) : Bool × KeyedCoalescingWorkerState K V :=
  let latestByKey :=
    state.latestByKey.set key (joinValue merge (state.latestByKey.get key) value)
  if key ∈ state.queuedKeys ∨ key ∈ state.activeKeys then
    (false, { state with latestByKey := latestByKey })
  else
    (true, { state with latestByKey := latestByKey, queuedKeys := insert key state.queuedKeys })

/-- The transaction after a key is taken, and the value to process. -/
def startKey (key : K) (state : KeyedCoalescingWorkerState K V) :
    Option V × KeyedCoalescingWorkerState K V :=
  let queuedKeys := state.queuedKeys.erase key
  match state.latestByKey.get key with
  | none => (none, { state with queuedKeys := queuedKeys })
  | some value =>
    (some value,
      { latestByKey := state.latestByKey.delete key
        queuedKeys := queuedKeys
        activeKeys := insert key state.activeKeys })

/-- The transaction after a value is processed, and the newer value to process. -/
def nextValue (key : K) (state : KeyedCoalescingWorkerState K V) :
    Option V × KeyedCoalescingWorkerState K V :=
  match state.latestByKey.get key with
  | none => (none, { state with activeKeys := state.activeKeys.erase key })
  | some value => (some value, { state with latestByKey := state.latestByKey.delete key })

/-- The transaction after a failure, and whether the key is offered again. -/
def cleanupFailedKey (key : K) (state : KeyedCoalescingWorkerState K V) :
    Bool × KeyedCoalescingWorkerState K V :=
  let activeKeys := state.activeKeys.erase key
  if state.latestByKey.has key ∧ key ∉ state.queuedKeys then
    (true, { state with activeKeys := activeKeys, queuedKeys := insert key state.queuedKeys })
  else (false, { state with activeKeys := activeKeys })

/-- The transaction of `drainKey`, undefined where it retries. -/
def drainKey (key : K) (state : KeyedCoalescingWorkerState K V) : Option Unit :=
  if state.latestByKey.has key ∨ key ∈ state.queuedKeys ∨ key ∈ state.activeKeys then none
  else some ()

/-! ## The worker -/

inductive WorkerFiber (K : Type u) (V : Type v) where
  | taking
  | taken (key : K)
  | processing (key : K) (value : V)
  | processed (key : K)
  | failed (key : K)
  | requeueing (key : K)

/-- The worker, with what has been enqueued, the calls of `process` that were started, and
the keys of those that ended, each in order. -/
structure KeyedCoalescingWorker (K : Type u) (V : Type v) where
  queue : List K
  state : KeyedCoalescingWorkerState K V
  fiber : WorkerFiber K V
  enqueued : List (K × V)
  calls : List (K × V)
  ended : List K

def makeKeyedCoalescingWorker : KeyedCoalescingWorker K V where
  queue := []
  state := ⟨KeyedTable.empty _, ∅, ∅⟩
  fiber := .taking
  enqueued := []
  calls := []
  ended := []

/-- What may happen next: an `enqueue`, or a step of the fiber. The result of a call of
`process` is its own. -/
inductive WorkerAction (K : Type u) (V : Type v) where
  | enqueue (key : K) (value : V)
  | take
  | start
  | processEnds (succeeds : Bool)
  | next
  | cleanup
  | requeue

variable (merge : V → V → V)

def enqueueStep (key : K) (value : V) (worker : KeyedCoalescingWorker K V) :
    KeyedCoalescingWorker K V :=
  let (shouldOffer, state) := enqueueValue merge key value worker.state
  { worker with
    state := state
    queue := if shouldOffer then worker.queue ++ [key] else worker.queue
    enqueued := worker.enqueued ++ [(key, value)] }

def processFound (key : K) (found : Option V) (worker : KeyedCoalescingWorker K V) :
    KeyedCoalescingWorker K V :=
  match found with
  | none => { worker with fiber := .taking }
  | some value =>
    { worker with fiber := .processing key value, calls := worker.calls ++ [(key, value)] }

def KeyedCoalescingWorker.step (worker : KeyedCoalescingWorker K V) :
    WorkerAction K V → Option (KeyedCoalescingWorker K V)
  | .enqueue key value => some (enqueueStep merge key value worker)
  | .take =>
    match worker.fiber, worker.queue with
    | .taking, key :: rest => some { worker with queue := rest, fiber := .taken key }
    | _, _ => none
  | .start =>
    match worker.fiber with
    | .taken key =>
      let (found, state) := startKey key worker.state
      some (processFound key found { worker with state := state })
    | _ => none
  | .processEnds succeeds =>
    match worker.fiber with
    | .processing key _ =>
      some
        { worker with
          fiber := if succeeds then .processed key else .failed key
          ended := worker.ended ++ [key] }
    | _ => none
  | .next =>
    match worker.fiber with
    | .processed key =>
      let (found, state) := nextValue key worker.state
      some (processFound key found { worker with state := state })
    | _ => none
  | .cleanup =>
    match worker.fiber with
    | .failed key =>
      let (shouldRequeue, state) := cleanupFailedKey key worker.state
      some
        { worker with
          state := state
          fiber := if shouldRequeue then .requeueing key else .taking }
    | _ => none
  | .requeue =>
    match worker.fiber with
    | .requeueing key => some { worker with queue := worker.queue ++ [key], fiber := .taking }
    | _ => none

/-- The key the fiber holds and will take from `queuedKeys`. -/
def WorkerFiber.heldKey : WorkerFiber K V → Option K
  | .taken key | .requeueing key => some key
  | _ => none

def WorkerFiber.activeKey : WorkerFiber K V → Option K
  | .processing key _ | .processed key | .failed key => some key
  | _ => none

/-- The key of the call of `process` that is running. -/
def WorkerFiber.runningKey : WorkerFiber K V → Option K
  | .processing key _ => some key
  | _ => none

/-- The value whose call of `process` is running for the key. -/
def WorkerFiber.runningValue (key : K) : WorkerFiber K V → Option V
  | .processing other value => if other = key then some value else none
  | _ => none

omit [DecidableEq K] in
theorem WorkerFiber.activeKey_of_runningKey {fiber : WorkerFiber K V} {key : K}
    (h : fiber.runningKey = some key) : fiber.activeKey = some key := by
  cases fiber with
  | processing other value => exact h
  | taking | taken _ | processed _ | failed _ | requeueing _ => cases h

def WorkerFiber.stepsLeft : WorkerFiber K V → Nat
  | .taking => 0
  | .taken _ => 5
  | .requeueing _ => 7
  | .processed _ | .failed _ => 8
  | .processing _ _ => 9

def WorkerAction.ofFiber : WorkerAction K V → Bool
  | .enqueue _ _ => false
  | _ => true

def valuesFor (key : K) (log : List (K × V)) : List V :=
  (log.filter (fun entry => entry.1 = key)).map Prod.snd

theorem valuesFor_append_self (key : K) (value : V) (log : List (K × V)) :
    valuesFor key (log ++ [(key, value)]) = valuesFor key log ++ [value] := by
  simp [valuesFor]

theorem valuesFor_append_of_ne {key other : K} (h : other ≠ key) (value : V)
    (log : List (K × V)) : valuesFor other (log ++ [(key, value)]) = valuesFor other log := by
  simp [valuesFor, h.symm]

namespace KeyedCoalescingWorker

/-- Calls of `process` for a key that are running: started and not ended. -/
def runningFor (worker : KeyedCoalescingWorker K V) (key : K) : Nat :=
  (valuesFor key worker.calls).length - worker.ended.count key

inductive Transition (worker : KeyedCoalescingWorker K V) :
    WorkerAction K V → KeyedCoalescingWorker K V → Prop
  | enqueueJoins {key : K} (value : V)
      (hkey : key ∈ worker.state.queuedKeys ∨ key ∈ worker.state.activeKeys) :
      Transition worker (.enqueue key value)
        { worker with
          state :=
            { worker.state with
              latestByKey := worker.state.latestByKey.set key
                (joinValue merge (worker.state.latestByKey.get key) value) }
          enqueued := worker.enqueued ++ [(key, value)] }
  | enqueueOffers {key : K} (value : V) (hqueued : key ∉ worker.state.queuedKeys)
      (hactive : key ∉ worker.state.activeKeys) :
      Transition worker (.enqueue key value)
        { worker with
          state :=
            { worker.state with
              latestByKey := worker.state.latestByKey.set key
                (joinValue merge (worker.state.latestByKey.get key) value)
              queuedKeys := insert key worker.state.queuedKeys }
          queue := worker.queue ++ [key]
          enqueued := worker.enqueued ++ [(key, value)] }
  | take {key : K} {rest : List K} (hfiber : worker.fiber = .taking)
      (hqueue : worker.queue = key :: rest) :
      Transition worker .take { worker with queue := rest, fiber := .taken key }
  | startNothing {key : K} (hfiber : worker.fiber = .taken key)
      (hget : worker.state.latestByKey.get key = none) :
      Transition worker .start
        { worker with
          state := { worker.state with queuedKeys := worker.state.queuedKeys.erase key }
          fiber := .taking }
  | startFound {key : K} {value : V} (hfiber : worker.fiber = .taken key)
      (hget : worker.state.latestByKey.get key = some value) :
      Transition worker .start
        { worker with
          state :=
            { latestByKey := worker.state.latestByKey.delete key
              queuedKeys := worker.state.queuedKeys.erase key
              activeKeys := insert key worker.state.activeKeys }
          fiber := .processing key value
          calls := worker.calls ++ [(key, value)] }
  | processEnds {key : K} {value : V} (succeeds : Bool)
      (hfiber : worker.fiber = .processing key value) :
      Transition worker (.processEnds succeeds)
        { worker with
          fiber := if succeeds then .processed key else .failed key
          ended := worker.ended ++ [key] }
  | nextNothing {key : K} (hfiber : worker.fiber = .processed key)
      (hget : worker.state.latestByKey.get key = none) :
      Transition worker .next
        { worker with
          state := { worker.state with activeKeys := worker.state.activeKeys.erase key }
          fiber := .taking }
  | nextFound {key : K} {value : V} (hfiber : worker.fiber = .processed key)
      (hget : worker.state.latestByKey.get key = some value) :
      Transition worker .next
        { worker with
          state := { worker.state with latestByKey := worker.state.latestByKey.delete key }
          fiber := .processing key value
          calls := worker.calls ++ [(key, value)] }
  | cleanupRequeues {key : K} (hfiber : worker.fiber = .failed key)
      (hhas : worker.state.latestByKey.has key = true) (hqueued : key ∉ worker.state.queuedKeys) :
      Transition worker .cleanup
        { worker with
          state :=
            { worker.state with
              activeKeys := worker.state.activeKeys.erase key
              queuedKeys := insert key worker.state.queuedKeys }
          fiber := .requeueing key }
  | cleanupEnds {key : K} (hfiber : worker.fiber = .failed key)
      (hhas : worker.state.latestByKey.has key = true → key ∈ worker.state.queuedKeys) :
      Transition worker .cleanup
        { worker with
          state := { worker.state with activeKeys := worker.state.activeKeys.erase key }
          fiber := .taking }
  | requeue {key : K} (hfiber : worker.fiber = .requeueing key) :
      Transition worker .requeue
        { worker with queue := worker.queue ++ [key], fiber := .taking }

variable {merge} {worker next : KeyedCoalescingWorker K V} {action : WorkerAction K V}

theorem transition_of_step (h : worker.step merge action = some next) :
    Transition merge worker action next := by
  cases action with
  | enqueue key value =>
    simp only [step, Option.some.injEq] at h
    cases h
    by_cases hkey : key ∈ worker.state.queuedKeys ∨ key ∈ worker.state.activeKeys
    · simpa [enqueueStep, enqueueValue, hkey] using .enqueueJoins value hkey
    · have hnone := not_or.mp hkey
      simpa [enqueueStep, enqueueValue, hnone.1, hnone.2] using
        .enqueueOffers value hnone.1 hnone.2
  | take =>
    simp only [step] at h
    split at h
    · next hfiber hqueue =>
        cases h
        exact .take hfiber hqueue
    · cases h
  | start =>
    simp only [step] at h
    split at h
    · next key hfiber =>
        cases h
        cases hget : worker.state.latestByKey.get key with
        | none => simpa [startKey, processFound, hget] using .startNothing hfiber hget
        | some value => simpa [startKey, processFound, hget] using .startFound hfiber hget
    · cases h
  | processEnds succeeds =>
    simp only [step] at h
    split at h
    · next hfiber =>
        cases h
        exact .processEnds succeeds hfiber
    · cases h
  | next =>
    simp only [step] at h
    split at h
    · next key hfiber =>
        cases h
        cases hget : worker.state.latestByKey.get key with
        | none => simpa [nextValue, processFound, hget] using .nextNothing hfiber hget
        | some value => simpa [nextValue, processFound, hget] using .nextFound hfiber hget
    · cases h
  | cleanup =>
    simp only [step] at h
    split at h
    · next key hfiber =>
        cases h
        by_cases hrequeue :
            worker.state.latestByKey.has key = true ∧ key ∉ worker.state.queuedKeys
        · simpa [cleanupFailedKey, hrequeue] using
            .cleanupRequeues hfiber hrequeue.1 hrequeue.2
        · have hhas : worker.state.latestByKey.has key = true →
              key ∈ worker.state.queuedKeys := by simpa using hrequeue
          simpa [cleanupFailedKey, hrequeue] using .cleanupEnds hfiber hhas
    · cases h
  | requeue =>
    simp only [step] at h
    split at h
    · next hfiber =>
        cases h
        exact .requeue hfiber
    · cases h

/-! ## Invariants -/

/-- The queue and the fiber hold each queued key once, the fiber the active one. A key with
a value waiting is queued or active. -/
structure Consistent (worker : KeyedCoalescingWorker K V) : Prop where
  once : (worker.fiber.heldKey.toList ++ worker.queue).Nodup
  queued : ∀ key, key ∈ worker.state.queuedKeys ↔
    key ∈ worker.fiber.heldKey.toList ++ worker.queue
  active : ∀ key, key ∈ worker.state.activeKeys ↔ worker.fiber.activeKey = some key
  waiting : ∀ key, worker.state.latestByKey.has key = true →
    key ∈ worker.state.queuedKeys ∨ key ∈ worker.state.activeKeys

/-- What was enqueued for each key has been folded into the calls, but for the value that
waits; a call is running exactly where the fiber processes. -/
structure Accounted (merge : V → V → V) (worker : KeyedCoalescingWorker K V) : Prop where
  coalesced : ∀ key, Coalesced merge (valuesFor key worker.enqueued) (valuesFor key worker.calls)
    (worker.state.latestByKey.get key)
  running : ∀ key, (valuesFor key worker.calls).length =
    worker.ended.count key + if worker.fiber.runningKey = some key then 1 else 0

variable {key other : K} {calls : List (K × V)} {actions : List (WorkerAction K V)}

/-- Taking the key the fiber holds out of `queuedKeys` leaves the keys of the queue. -/
theorem mem_erase_heldKey {queuedKeys : Finset K} {queue : List K} (honce : (key :: queue).Nodup)
    (hqueued : ∀ key', key' ∈ queuedKeys ↔ key' ∈ key :: queue) :
    other ∈ queuedKeys.erase key ↔ other ∈ queue := by
  rw [Finset.mem_erase, hqueued other, List.mem_cons]
  have hnot : key ∉ queue := (List.nodup_cons.mp honce).1
  constructor
  · intro h
    exact h.2.resolve_left h.1
  · intro h
    exact ⟨fun hother => hnot (hother ▸ h), Or.inr h⟩

theorem mem_erase_activeKey {activeKeys : Finset K}
    (hactive : ∀ key', key' ∈ activeKeys ↔ some key = some key') :
    other ∈ activeKeys.erase key ↔ (none : Option K) = some other := by
  rw [Finset.mem_erase, hactive other, Option.some.injEq]
  constructor
  · intro h
    exact absurd h.2.symm h.1
  · exact nofun

theorem ne_of_has {map : KeyedMap K V} (hget : map.get key = none) (hhas : map.has other = true) :
    other ≠ key := by
  intro hother
  rw [hother, KeyedMap.has, hget] at hhas
  cases hhas

theorem Consistent.step (hsound : worker.Consistent) (h : worker.step merge action = some next) :
    next.Consistent := by
  obtain ⟨honce, hqueued, hactive, hwaiting⟩ := hsound
  cases transition_of_step h with
  | @enqueueJoins key value hkey =>
    refine ⟨honce, hqueued, hactive, ?_⟩
    intro other hhas
    rcases KeyedMap.has_set_iff.mp hhas with hother | hold
    · exact hother ▸ hkey
    · exact hwaiting other hold
  | @enqueueOffers key value hnot hidle =>
    have hfresh : key ∉ worker.fiber.heldKey.toList ++ worker.queue :=
      fun hmem => hnot ((hqueued key).mpr hmem)
    constructor
    · show (worker.fiber.heldKey.toList ++ (worker.queue ++ [key])).Nodup
      rw [← List.append_assoc]
      exact List.Nodup.append honce (List.nodup_singleton key) (by simpa using hfresh)
    · intro other
      show other ∈ insert key worker.state.queuedKeys ↔
        other ∈ worker.fiber.heldKey.toList ++ (worker.queue ++ [key])
      rw [Finset.mem_insert, hqueued other, ← List.append_assoc, List.mem_append (t := [key]),
        List.mem_singleton]
      exact or_comm
    · exact hactive
    · intro other hhas
      rcases KeyedMap.has_set_iff.mp hhas with hother | hold
      · exact Or.inl (Finset.mem_insert.mpr (Or.inl hother))
      · exact (hwaiting other hold).imp_left Finset.mem_insert_of_mem
  | @take key rest hfiber hqueue =>
    simp only [hfiber, hqueue, WorkerFiber.heldKey, WorkerFiber.activeKey] at honce hqueued hactive
    exact ⟨honce, hqueued, hactive, hwaiting⟩
  | @startNothing key hfiber hget =>
    simp only [hfiber, WorkerFiber.heldKey, WorkerFiber.activeKey] at honce hqueued hactive
    constructor
    · exact (List.nodup_cons.mp honce).2
    · intro other
      exact mem_erase_heldKey honce hqueued
    · exact hactive
    · intro other hhas
      have hother : other ≠ key := ne_of_has hget hhas
      exact (hwaiting other hhas).imp_left
        (fun hmem => Finset.mem_erase.mpr ⟨hother, hmem⟩)
  | @startFound key value hfiber hget =>
    simp only [hfiber, WorkerFiber.heldKey, WorkerFiber.activeKey] at honce hqueued hactive
    constructor
    · exact (List.nodup_cons.mp honce).2
    · intro other
      exact mem_erase_heldKey honce hqueued
    · intro other
      show other ∈ insert key worker.state.activeKeys ↔ some key = some other
      have hidle : other ∉ worker.state.activeKeys := by simpa using (hactive other).not
      rw [Finset.mem_insert, or_iff_left hidle, Option.some.injEq]
      exact eq_comm
    · intro other hhas
      obtain ⟨hother, hold⟩ := KeyedMap.has_delete_iff.mp hhas
      exact (hwaiting other hold).imp (fun hmem => Finset.mem_erase.mpr ⟨hother, hmem⟩)
        Finset.mem_insert_of_mem
  | @processEnds key value succeeds hfiber =>
    simp only [hfiber, WorkerFiber.heldKey, WorkerFiber.activeKey] at honce hqueued hactive
    cases succeeds with
    | true | false => exact ⟨honce, hqueued, hactive, hwaiting⟩
  | @nextNothing key hfiber hget =>
    simp only [hfiber, WorkerFiber.heldKey, WorkerFiber.activeKey] at honce hqueued hactive
    refine ⟨honce, hqueued, ?_, ?_⟩
    · intro other
      exact mem_erase_activeKey hactive
    · intro other hhas
      have hother : other ≠ key := ne_of_has hget hhas
      exact (hwaiting other hhas).imp_right (fun hmem => Finset.mem_erase.mpr ⟨hother, hmem⟩)
  | @nextFound key value hfiber hget =>
    simp only [hfiber, WorkerFiber.heldKey, WorkerFiber.activeKey] at honce hqueued hactive
    refine ⟨honce, hqueued, hactive, ?_⟩
    intro other hhas
    exact hwaiting other (KeyedMap.has_delete_iff.mp hhas).2
  | @cleanupRequeues key hfiber hhas hnot =>
    simp only [hfiber, WorkerFiber.heldKey, WorkerFiber.activeKey] at honce hqueued hactive
    constructor
    · exact List.nodup_cons.mpr ⟨fun hmem => hnot ((hqueued key).mpr hmem), honce⟩
    · intro other
      show other ∈ insert key worker.state.queuedKeys ↔ other ∈ key :: worker.queue
      rw [Finset.mem_insert, hqueued other, List.mem_cons]
      rfl
    · intro other
      exact mem_erase_activeKey hactive
    · intro other hwaits
      by_cases hother : other = key
      · exact Or.inl (Finset.mem_insert.mpr (Or.inl hother))
      · exact (hwaiting other hwaits).imp Finset.mem_insert_of_mem
          (fun hmem => Finset.mem_erase.mpr ⟨hother, hmem⟩)
  | @cleanupEnds key hfiber hhas =>
    simp only [hfiber, WorkerFiber.heldKey, WorkerFiber.activeKey] at honce hqueued hactive
    refine ⟨honce, hqueued, ?_, ?_⟩
    · intro other
      exact mem_erase_activeKey hactive
    · intro other hwaits
      by_cases hother : other = key
      · exact Or.inl (hother ▸ hhas (hother ▸ hwaits))
      · exact (hwaiting other hwaits).imp_right
          (fun hmem => Finset.mem_erase.mpr ⟨hother, hmem⟩)
  | @requeue key hfiber =>
    simp only [hfiber, WorkerFiber.heldKey, WorkerFiber.activeKey] at honce hqueued hactive
    have hperm : (key :: worker.queue).Perm (worker.queue ++ [key]) :=
      (List.perm_append_singleton key worker.queue).symm
    refine ⟨hperm.nodup honce, ?_, hactive, hwaiting⟩
    intro other
    exact (hqueued other).trans hperm.mem_iff

theorem Consistent.enqueueStep (hsound : worker.Consistent) (key : K) (value : V) :
    (Shared.enqueueStep merge key value worker).Consistent := by
  have hstep : worker.step merge (.enqueue key value) =
      some (Shared.enqueueStep merge key value worker) := rfl
  exact hsound.step hstep

variable {enqueued : List (K × V)} {latestByKey : KeyedMap K V} {value : V} {ended : List K}

theorem coalesced_enqueue
    (h : ∀ key, Coalesced merge (valuesFor key enqueued) (valuesFor key calls)
      (latestByKey.get key))
    (key : K) (value : V) (other : K) :
    Coalesced merge (valuesFor other (enqueued ++ [(key, value)])) (valuesFor other calls)
      ((latestByKey.set key (joinValue merge (latestByKey.get key) value)).get other) := by
  by_cases hother : other = key
  · subst hother
    rw [valuesFor_append_self, KeyedMap.get_set_self]
    exact (h other).join value
  · rw [valuesFor_append_of_ne hother, KeyedMap.get_set_of_ne hother]
    exact h other

theorem coalesced_call
    (h : ∀ key, Coalesced merge (valuesFor key enqueued) (valuesFor key calls)
      (latestByKey.get key))
    (hget : latestByKey.get key = some value) (other : K) :
    Coalesced merge (valuesFor other enqueued) (valuesFor other (calls ++ [(key, value)]))
      ((latestByKey.delete key).get other) := by
  by_cases hother : other = key
  · subst hother
    rw [valuesFor_append_self, KeyedMap.get_delete_self]
    have hwaits := h other
    rw [hget] at hwaits
    exact hwaits.hand
  · rw [valuesFor_append_of_ne hother, KeyedMap.get_delete_of_ne hother]
    exact h other

theorem running_call (h : ∀ key, (valuesFor key calls).length = ended.count key) (key : K)
    (value : V) (other : K) :
    (valuesFor other (calls ++ [(key, value)])).length =
      ended.count other + if some key = some other then 1 else 0 := by
  by_cases hother : other = key
  · subst hother
    rw [valuesFor_append_self, List.length_append, h other]
    simp
  · rw [valuesFor_append_of_ne hother, h other]
    simp [Ne.symm hother]

theorem running_end
    (h : ∀ other, (valuesFor other calls).length =
      ended.count other + if some key = some other then 1 else 0)
    (other : K) : (valuesFor other calls).length = (ended ++ [key]).count other := by
  rw [h other, List.count_append, List.count_singleton]
  by_cases hother : key = other
  · simp [hother]
  · simp [hother]

theorem Accounted.step (haccounted : worker.Accounted merge)
    (h : worker.step merge action = some next) : next.Accounted merge := by
  obtain ⟨hcoalesced, hrunning⟩ := haccounted
  cases transition_of_step h with
  | @enqueueJoins key value hkey => exact ⟨coalesced_enqueue hcoalesced key value, hrunning⟩
  | @enqueueOffers key value hnot hidle =>
    exact ⟨coalesced_enqueue hcoalesced key value, hrunning⟩
  | @take _ _ hfiber | @startNothing _ hfiber | @nextNothing _ hfiber
  | @cleanupRequeues _ hfiber | @cleanupEnds _ hfiber | @requeue _ hfiber =>
    simp only [hfiber, WorkerFiber.runningKey] at hrunning
    exact ⟨hcoalesced, hrunning⟩
  | @startFound key value hfiber hget | @nextFound key value hfiber hget =>
    simp only [hfiber, WorkerFiber.runningKey] at hrunning
    exact ⟨coalesced_call hcoalesced hget, running_call hrunning key value⟩
  | @processEnds key value succeeds hfiber =>
    simp only [hfiber, WorkerFiber.runningKey] at hrunning
    cases succeeds with
    | true => exact ⟨hcoalesced, running_end hrunning⟩
    | false => exact ⟨hcoalesced, running_end hrunning⟩

theorem consistent_makeKeyedCoalescingWorker :
    (makeKeyedCoalescingWorker : KeyedCoalescingWorker K V).Consistent := by
  constructor
  · exact List.nodup_nil
  · intro key
    exact iff_of_false (Finset.notMem_empty key) List.not_mem_nil
  · intro key
    exact iff_of_false (Finset.notMem_empty key) (fun h => nomatch h)
  · exact nofun

theorem accounted_makeKeyedCoalescingWorker :
    (makeKeyedCoalescingWorker : KeyedCoalescingWorker K V).Accounted merge :=
  ⟨fun _ => coalesced_nil, fun _ => rfl⟩

theorem exec_consistent (hsound : worker.Consistent)
    (h : exec (step merge) worker actions = some next) : next.Consistent :=
  exec_invariant (fun _ _ _ hworker hstep => hworker.step hstep) hsound h

theorem exec_accounted (haccounted : worker.Accounted merge)
    (h : exec (step merge) worker actions = some next) : next.Accounted merge :=
  exec_invariant (fun _ _ _ hworker hstep => hworker.step hstep) haccounted h

theorem Accounted.runningFor_eq (haccounted : worker.Accounted merge) (key : K) :
    worker.runningFor key = if worker.fiber.runningKey = some key then 1 else 0 := by
  have hrunning := haccounted.running key
  unfold runningFor
  omega

def stepsLeft (worker : KeyedCoalescingWorker K V) : Nat :=
  worker.fiber.stepsLeft + 6 * worker.queue.length + 5 * worker.state.latestByKey.rows.length

theorem stepsLeft_step (hof : action.ofFiber = true)
    (h : worker.step merge action = some next) : next.stepsLeft < worker.stepsLeft := by
  cases transition_of_step h with
  | enqueueJoins | enqueueOffers => cases hof
  | take hfiber hqueue =>
    simp only [stepsLeft, hfiber, hqueue, WorkerFiber.stepsLeft, List.length_cons]
    omega
  | startNothing hfiber | nextNothing hfiber | cleanupRequeues hfiber | cleanupEnds hfiber =>
    simp only [stepsLeft, hfiber, WorkerFiber.stepsLeft]
    omega
  | startFound hfiber hget | nextFound hfiber hget =>
    have hfewer := KeyedMap.length_delete_lt hget
    simp only [stepsLeft, hfiber, WorkerFiber.stepsLeft]
    omega
  | processEnds succeeds hfiber =>
    cases succeeds with
    | true =>
      simp only [stepsLeft, hfiber, WorkerFiber.stepsLeft, if_true]
      omega
    | false =>
      simp only [stepsLeft, hfiber, WorkerFiber.stepsLeft, Bool.false_eq_true, if_false]
      omega
  | requeue hfiber =>
    simp only [stepsLeft, hfiber, WorkerFiber.stepsLeft, List.length_append, List.length_singleton]
    omega

theorem length_le_stepsLeft (hfiber : ∀ action ∈ actions, action.ofFiber = true)
    (h : exec (step merge) worker actions = some next) : actions.length ≤ worker.stepsLeft := by
  induction actions generalizing worker with
  | nil => exact Nat.zero_le _
  | cons action actions ih =>
    obtain ⟨middle, hstep, hrest⟩ := exec_cons_eq_some h
    have hfewer := stepsLeft_step (hfiber action (List.mem_cons_self)) hstep
    have hlength := ih (fun other hother => hfiber other (List.mem_cons_of_mem _ hother)) hrest
    rw [List.length_cons]
    omega

theorem Consistent.fiber_enabled (hsound : worker.Consistent)
    (hhas : worker.state.latestByKey.has key = true) :
    ∃ action : WorkerAction K V,
      action.ofFiber = true ∧ (worker.step merge action).isSome = true := by
  cases hfiber : worker.fiber with
  | taking =>
    have hidle : key ∉ worker.state.activeKeys := by
      rw [hsound.active key, hfiber]
      intro h
      cases h
    have hmem := (hsound.queued key).mp ((hsound.waiting key hhas).resolve_right hidle)
    rw [hfiber] at hmem
    obtain ⟨first, rest, hqueue⟩ := List.exists_cons_of_ne_nil (List.ne_nil_of_mem hmem)
    have hqueue : worker.queue = first :: rest := hqueue
    exact ⟨.take, rfl, by simp [KeyedCoalescingWorker.step, hfiber, hqueue]⟩
  | taken other => exact ⟨.start, rfl, by simp [KeyedCoalescingWorker.step, hfiber]⟩
  | processing other value => exact ⟨.processEnds true, rfl, by simp [KeyedCoalescingWorker.step, hfiber]⟩
  | processed other => exact ⟨.next, rfl, by simp [KeyedCoalescingWorker.step, hfiber]⟩
  | failed other => exact ⟨.cleanup, rfl, by simp [KeyedCoalescingWorker.step, hfiber]⟩
  | requeueing other => exact ⟨.requeue, rfl, by simp [KeyedCoalescingWorker.step, hfiber]⟩

theorem enqueued_step (h : worker.step merge action = some next) :
    worker.enqueued <+: next.enqueued := by
  cases transition_of_step h with
  | enqueueJoins | enqueueOffers => exact List.prefix_append _ _
  | take | startNothing | startFound | processEnds | nextNothing | nextFound | cleanupRequeues
  | cleanupEnds | requeue => exact List.prefix_refl _

theorem enqueued_exec (h : exec (step merge) worker actions = some next) :
    worker.enqueued <+: next.enqueued := by
  have hkeep : ∀ s a t, worker.enqueued <+: s.enqueued → step merge s a = some t →
      worker.enqueued <+: t.enqueued :=
    fun _ _ _ hbefore hstep => hbefore.trans (enqueued_step hstep)
  exact exec_invariant hkeep (List.prefix_refl _) h

theorem valuesFor_isPrefix_valuesFor {log longer : List (K × V)} (h : log <+: longer) (key : K) :
    valuesFor key log <+: valuesFor key longer :=
  (h.filter _).map _

/-- Where `drainKey` returns nothing waits for the key and no call of it is running. -/
theorem Accounted.drained (haccounted : worker.Accounted merge) (hsound : worker.Consistent)
    (h : drainKey key worker.state = some ()) :
    (∃ batches : List (List V), valuesFor key worker.enqueued = batches.flatten ∧
      batches.map (foldBatch merge) = (valuesFor key worker.calls).map some) ∧
      worker.runningFor key = 0 := by
  unfold drainKey at h
  split at h
  · cases h
  · next hidle =>
      simp only [not_or] at hidle
      obtain ⟨hhas, -, hactive⟩ := hidle
      constructor
      · have hcoalesced := haccounted.coalesced key
        rw [KeyedMap.has, Option.not_isSome_iff_eq_none] at hhas
        rw [hhas] at hcoalesced
        exact hcoalesced.all_handed
      · rw [haccounted.runningFor_eq key, if_neg]
        intro hrunning
        apply hactive
        rw [hsound.active key]
        exact WorkerFiber.activeKey_of_runningKey hrunning

/-- The values of a key that are not processed: the one whose call runs, then the one that
waits. -/
def unfinished (worker : KeyedCoalescingWorker K V) (key : K) : List V :=
  (worker.fiber.runningValue key).toList ++ (worker.state.latestByKey.get key).toList

theorem unfinished_enqueueStep_self (worker : KeyedCoalescingWorker K V) (key : K) (value : V) :
    (enqueueStep merge key value worker).unfinished key =
      (worker.fiber.runningValue key).toList ++
        [joinValue merge (worker.state.latestByKey.get key) value] := by
  simp only [enqueueStep, enqueueValue]
  split <;> simp [unfinished]

theorem unfinished_enqueueStep_of_ne (hother : other ≠ key) (worker : KeyedCoalescingWorker K V)
    (value : V) :
    (enqueueStep merge key value worker).unfinished other = worker.unfinished other := by
  simp only [enqueueStep, enqueueValue]
  split <;> simp [unfinished, KeyedMap.get_set_of_ne hother]

theorem unfinished_of_processing {running : Option V} (hrunning : running = none)
    (hget : worker.state.latestByKey.get other = some value) :
    ((WorkerFiber.processing other value).runningValue key).toList ++
        ((worker.state.latestByKey.delete other).get key).toList =
      running.toList ++ (worker.state.latestByKey.get key).toList := by
  by_cases hother : other = key
  · subst hother
    simp [WorkerFiber.runningValue, hget, hrunning]
  · simp [WorkerFiber.runningValue, hother, KeyedMap.get_delete_of_ne (Ne.symm hother), hrunning]

/-- The fiber drops nothing between two calls of `process`. -/
theorem unfinished_step (hof : action.ofFiber = true)
    (hends : ∀ succeeds, action ≠ .processEnds succeeds)
    (h : worker.step merge action = some next) (key : K) :
    next.unfinished key = worker.unfinished key := by
  cases transition_of_step h with
  | enqueueJoins | enqueueOffers => cases hof
  | take hfiber | startNothing hfiber | nextNothing hfiber | cleanupRequeues hfiber
  | cleanupEnds hfiber | requeue hfiber => simp [unfinished, hfiber, WorkerFiber.runningValue]
  | startFound hfiber hget | nextFound hfiber hget =>
    simp only [unfinished, hfiber]
    exact unfinished_of_processing rfl hget
  | processEnds succeeds hfiber => exact absurd rfl (hends succeeds)

theorem unfinished_processEnds {succeeds : Bool}
    (h : worker.step merge (.processEnds succeeds) = some next) (key : K) :
    worker.unfinished key =
      (worker.fiber.runningValue key).toList ++ next.unfinished key := by
  cases transition_of_step h with
  | processEnds succeeds hfiber => cases succeeds <;> simp [unfinished, WorkerFiber.runningValue]

theorem Consistent.unfinished_drained (hsound : worker.Consistent)
    (h : drainKey key worker.state = some ()) : worker.unfinished key = [] := by
  unfold drainKey at h
  split at h
  · cases h
  · next hidle =>
      simp only [not_or] at hidle
      obtain ⟨hhas, -, hactive⟩ := hidle
      rw [KeyedMap.has, Option.not_isSome_iff_eq_none] at hhas
      rw [hsound.active key] at hactive
      have hrunning : worker.fiber.runningValue key = none := by
        cases hfiber : worker.fiber with
        | processing other value =>
          have hother : other ≠ key := by
            intro hother
            exact hactive (by simp [hfiber, WorkerFiber.activeKey, hother])
          simp [WorkerFiber.runningValue, hother]
        | taking | taken _ | processed _ | failed _ | requeueing _ => rfl
      simp [unfinished, hhas, hrunning]

/-- Whatever was enqueued is folded into one call of `process` each or waits; what waits is
queued or active and the fiber, left alone, comes to rest only when nothing waits; no key
is processed twice at a time; and `drainKey` returns only after all that was enqueued for
its key before. -/
theorem updates_neither_lost_nor_stranded (merge : V → V → V)
    {actions : List (WorkerAction K V)} {worker : KeyedCoalescingWorker K V}
    (h : exec (step merge) makeKeyedCoalescingWorker actions = some worker) :
    (∀ key, Coalesced merge (valuesFor key worker.enqueued) (valuesFor key worker.calls)
      (worker.state.latestByKey.get key)) ∧
    (∀ key, worker.state.latestByKey.has key = true →
      (key ∈ worker.state.queuedKeys ∧
        (key ∈ worker.queue ∨ worker.fiber.heldKey = some key)) ∨
      (key ∈ worker.state.activeKeys ∧ worker.fiber.activeKey = some key)) ∧
    (∃ bound, ∀ (steps : List (WorkerAction K V)) rested,
      (∀ action ∈ steps, action.ofFiber = true) →
      exec (step merge) worker steps = some rested →
      steps.length ≤ bound ∧
        ((∃ key, rested.state.latestByKey.has key = true) →
          ∃ action : WorkerAction K V,
            action.ofFiber = true ∧ (rested.step merge action).isSome = true)) ∧
    (∀ key, worker.runningFor key ≤ 1) ∧
    (∀ key (later : List (WorkerAction K V)) returned,
      exec (step merge) worker later = some returned →
      drainKey key returned.state = some () →
      valuesFor key worker.enqueued <+: valuesFor key returned.enqueued ∧
        (∃ batches : List (List V), valuesFor key returned.enqueued = batches.flatten ∧
          batches.map (foldBatch merge) = (valuesFor key returned.calls).map some) ∧
        returned.runningFor key = 0) := by
  have hsound : worker.Consistent := exec_consistent consistent_makeKeyedCoalescingWorker h
  have haccounted : worker.Accounted merge := exec_accounted accounted_makeKeyedCoalescingWorker h
  refine ⟨haccounted.coalesced, ?_, ⟨worker.stepsLeft, ?_⟩, ?_, ?_⟩
  · intro key hhas
    rcases hsound.waiting key hhas with hqueued | hactive
    · refine Or.inl ⟨hqueued, ?_⟩
      have hmem := (hsound.queued key).mp hqueued
      rw [List.mem_append, Option.mem_toList] at hmem
      exact hmem.symm
    · exact Or.inr ⟨hactive, (hsound.active key).mp hactive⟩
  · intro steps rested hfiber hsteps
    refine ⟨length_le_stepsLeft hfiber hsteps, ?_⟩
    intro hwaits
    obtain ⟨key, hhas⟩ := hwaits
    exact (exec_consistent hsound hsteps).fiber_enabled hhas
  · intro key
    rw [haccounted.runningFor_eq key]
    split <;> omega
  · intro key later returned hlater hdrained
    exact ⟨valuesFor_isPrefix_valuesFor (enqueued_exec hlater) key,
      (exec_accounted haccounted hlater).drained (exec_consistent hsound hlater) hdrained⟩

/-- A value enqueued while an earlier one is processed, and the failure of that call. -/
theorem updates_neither_lost_nor_stranded_failure :
    ∃ worker : KeyedCoalescingWorker Nat Nat,
      exec (step (fun _ next => next)) makeKeyedCoalescingWorker
        [.enqueue 1 10, .take, .start, .enqueue 1 20, .processEnds false, .cleanup, .requeue] =
          some worker ∧ ∀ key, worker.runningFor key ≤ 1 := by
  have hrun : exec (step (fun _ next => next)) makeKeyedCoalescingWorker
      [.enqueue 1 10, .take, .start, .enqueue 1 20, .processEnds false, .cleanup, .requeue] =
        some (_ : KeyedCoalescingWorker Nat Nat) := rfl
  exact ⟨_, hrun, (updates_neither_lost_nor_stranded (fun _ next => next) hrun).2.2.2.1⟩

end KeyedCoalescingWorker

end GT3Code.Shared
