import GT3Code.Base.Runs
import Mathlib.Data.List.Nodup

/-! # Session updates and their handler

Notifications that arrive without a handler are buffered. The fiber that registers the first
one takes the buffer and runs the handler for each, while the read loop runs it for what
arrives meanwhile. A run of the handler may suspend.
-/

namespace GT3Code.Acp

open GT3Code.Base

variable {α : Type}

structure Notification (α : Type) where
  number : Nat
  params : α

/-- `pending` is the buffer, `flushing` what the registering fiber has taken from it and not
started, `dispatching` what the read loop goes on to run the handler for. `arrivals` and `runs`
record the notifications received and the runs started. -/
structure SessionUpdates (α : Type) where
  registered : Bool
  pending : List (Notification α)
  flushing : List (Notification α)
  flushRuns : Bool
  dispatching : Option (Notification α)
  dispatchRuns : Bool
  arrivals : List (Notification α)
  runs : List (Notification α)

inductive SessionUpdateAction (α : Type) where
  | dispatchNotification (params : α)
  | startDispatched
  | finishDispatched
  | handleSessionUpdate
  | startFlushed
  | finishFlushed

namespace SessionUpdates

def initial : SessionUpdates α where
  registered := false
  pending := []
  flushing := []
  flushRuns := false
  dispatching := none
  dispatchRuns := false
  arrivals := []
  runs := []

def step (state : SessionUpdates α) : SessionUpdateAction α → Option (SessionUpdates α)
  | .dispatchNotification params =>
    match state.dispatching, state.dispatchRuns with
    | none, false =>
      let notification : Notification α :=
        { number := state.arrivals.length, params := params }
      let arrivals := state.arrivals ++ [notification]
      if state.registered then
        some { state with arrivals := arrivals, dispatching := some notification }
      else
        some { state with arrivals := arrivals, pending := state.pending ++ [notification] }
    | _, _ => none
  | .startDispatched =>
    match state.dispatching with
    | some notification =>
      some
        { state with
          dispatching := none
          dispatchRuns := true
          runs := state.runs ++ [notification] }
    | none => none
  | .finishDispatched =>
    if state.dispatchRuns then some { state with dispatchRuns := false } else none
  | .handleSessionUpdate =>
    if state.registered then none
    else some { state with registered := true, flushing := state.pending, pending := [] }
  | .startFlushed =>
    match state.flushing, state.flushRuns with
    | notification :: rest, false =>
      some
        { state with
          flushing := rest
          flushRuns := true
          runs := state.runs ++ [notification] }
    | _, _ => none
  | .finishFlushed => if state.flushRuns then some { state with flushRuns := false } else none

def waiting (state : SessionUpdates α) : List (Notification α) :=
  state.flushing ++ state.dispatching.toList ++ state.pending

/-- Every notification is run for once or waits to be, the fibers hold all of them after the
registration, and the runs start in the order of arrival. -/
structure DeliveredInOrder (state : SessionUpdates α) : Prop where
  once : (state.runs ++ state.waiting).Perm state.arrivals
  held : state.registered = true → state.pending = []
  inOrder : state.runs <+: state.arrivals

/-- The read loop starts no run before all of the buffer were started. -/
def AfterFlush (state : SessionUpdates α) : SessionUpdateAction α → Prop
  | .startDispatched => state.flushing = []
  | _ => True

structure Sound (state : SessionUpdates α) : Prop where
  numbers : state.arrivals.map Notification.number = List.range state.arrivals.length
  once : (state.runs ++ state.waiting).Perm state.arrivals
  held : state.registered = true → state.pending = []
  buffered : state.registered = false →
    state.flushing = [] ∧ state.dispatching = none ∧ state.runs = []

/-- Until a run starts early, what is left to run follows the runs. -/
def Queued (state : SessionUpdates α) : Prop := state.arrivals = state.runs ++ state.waiting

variable {state next : SessionUpdates α}

theorem sound_initial : (initial : SessionUpdates α).Sound where
  numbers := rfl
  once := .refl _
  held := nofun
  buffered _ := ⟨rfl, rfl, rfl⟩

theorem Sound.nodup (h : state.Sound) : state.arrivals.Nodup := by
  apply List.Nodup.of_map Notification.number
  rw [h.numbers]
  exact List.nodup_range

theorem Sound.dispatch (h : state.Sound) {params : α}
    (hstep : state.step (.dispatchNotification params) = some next) :
    next.Sound ∧ (state.Queued → next.Queued) := by
  simp only [step] at hstep
  split at hstep
  · rename_i hidle _
    have hnumbers : (state.arrivals ++
        [({ number := state.arrivals.length, params := params } : Notification α)]).map
          Notification.number = List.range (state.arrivals ++
            [({ number := state.arrivals.length, params := params } : Notification α)]).length := by
      rw [List.map_append, h.numbers, List.length_append]
      exact (List.range_succ).symm
    split at hstep
    · rename_i hregistered
      cases hstep
      have hpending := h.held hregistered
      have honce := h.once
      simp only [waiting, hidle, hpending, Option.toList_none, List.append_nil] at honce
      refine ⟨⟨hnumbers, ?_, h.held, ?_⟩, ?_⟩
      · simp only [waiting, hpending, Option.toList_some, List.append_nil]
        rw [← List.append_assoc]
        exact honce.append_right _
      · intro hother
        rw [hregistered] at hother
        cases hother
      · intro hqueued
        simp only [Queued, waiting, hidle, hpending, Option.toList_none, Option.toList_some,
          List.append_nil] at hqueued ⊢
        rw [hqueued, List.append_assoc]
    · rename_i hregistered
      cases hstep
      obtain ⟨hflushing, _, hruns⟩ := h.buffered (Bool.not_eq_true _ ▸ hregistered)
      have honce := h.once
      simp only [waiting, hidle, hflushing, hruns, Option.toList_none, List.append_nil,
        List.nil_append] at honce
      refine ⟨⟨hnumbers, ?_, fun hother => absurd hother hregistered, h.buffered⟩, ?_⟩
      · simp only [waiting, hidle, hflushing, hruns, Option.toList_none, List.append_nil,
          List.nil_append]
        exact honce.append_right _
      · intro hqueued
        simp only [Queued, waiting, hidle, hflushing, hruns, Option.toList_none, List.append_nil,
          List.nil_append] at hqueued ⊢
        rw [hqueued]
  · cases hstep

theorem Sound.startDispatched (h : state.Sound)
    (hstep : state.step .startDispatched = some next) :
    next.Sound ∧ (state.Queued → state.flushing = [] → next.Queued) ∧
      (state.Queued → next.DeliveredInOrder → state.flushing = []) := by
  simp only [step] at hstep
  split at hstep
  · rename_i notification hdispatching
    cases hstep
    have hregistered : state.registered = true := by
      rw [← Bool.not_eq_false]
      intro hother
      rw [(h.buffered hother).2.1] at hdispatching
      cases hdispatching
    have hpending := h.held hregistered
    have honce := h.once
    simp only [waiting, hdispatching, hpending, Option.toList_some, List.append_nil] at honce
    refine ⟨⟨h.numbers, ?_, h.held, ?_⟩, ?_, ?_⟩
    · simp only [waiting, hpending, Option.toList_none, List.append_nil]
      refine List.Perm.trans ?_ honce
      rw [List.append_assoc]
      exact List.perm_append_comm.append_left _
    · intro hother
      rw [hregistered] at hother
      cases hother
    · intro hqueued hflushing
      simp only [Queued, waiting, hdispatching, hpending, hflushing, Option.toList_none,
        Option.toList_some, List.append_nil, List.nil_append] at hqueued ⊢
      exact hqueued
    · intro hqueued hdelivered
      simp only [Queued, waiting, hdispatching, hpending, Option.toList_some, List.append_nil]
        at hqueued
      have hprefix : state.runs ++ [notification] <+: state.runs ++
          (state.flushing ++ [notification]) := hqueued ▸ hdelivered.inOrder
      have hnodup := h.nodup
      rw [hqueued] at hnodup
      -- The flushed ones are in front of the dispatched one, which is not one of them.
      cases hflushing : state.flushing with
      | nil => rfl
      | cons first rest =>
        rw [hflushing] at hprefix hnodup
        rw [List.prefix_append_right_inj] at hprefix
        have hsame : notification = first := by
          obtain ⟨_, heq⟩ := hprefix
          exact (List.cons.inj heq).1
        have hwaiting := List.Nodup.of_append_right hnodup
        rw [hsame] at hwaiting
        simp at hwaiting
  · cases hstep

theorem Sound.register (h : state.Sound) (hstep : state.step .handleSessionUpdate = some next) :
    next.Sound ∧ (state.Queued → next.Queued) := by
  simp only [step] at hstep
  split at hstep
  · cases hstep
  · rename_i hregistered
    cases hstep
    obtain ⟨hflushing, hdispatching, hruns⟩ := h.buffered (Bool.not_eq_true _ ▸ hregistered)
    have hwaiting : ({ state with
        registered := true
        flushing := state.pending
        pending := [] } : SessionUpdates α).waiting = state.waiting := by
      simp [waiting, hflushing, hdispatching]
    refine ⟨⟨h.numbers, ?_, fun _ => rfl, nofun⟩, ?_⟩
    · rw [hwaiting]
      exact h.once
    · intro hqueued
      show state.arrivals = state.runs ++ _
      rw [hwaiting]
      exact hqueued

theorem Sound.startFlushed (h : state.Sound) (hstep : state.step .startFlushed = some next) :
    next.Sound ∧ (state.Queued → next.Queued) := by
  simp only [step] at hstep
  split at hstep
  · rename_i notification rest hflushing _
    cases hstep
    have hmoved : (state.runs ++ [notification]) ++ ({ state with
        flushing := rest
        flushRuns := true
        runs := state.runs ++ [notification] } : SessionUpdates α).waiting =
          state.runs ++ state.waiting := by
      simp [waiting, hflushing]
    refine ⟨⟨h.numbers, ?_, h.held, ?_⟩, ?_⟩
    · rw [hmoved]
      exact h.once
    · intro hother
      rw [(h.buffered hother).1] at hflushing
      cases hflushing
    · intro hqueued
      show state.arrivals = _
      rw [hmoved]
      exact hqueued
  · cases hstep

variable {action : SessionUpdateAction α}

theorem Sound.step (h : state.Sound) (hstep : state.step action = some next) : next.Sound := by
  cases action with
  | dispatchNotification params => exact (h.dispatch hstep).1
  | startDispatched => exact (h.startDispatched hstep).1
  | handleSessionUpdate => exact (h.register hstep).1
  | startFlushed => exact (h.startFlushed hstep).1
  | finishDispatched | finishFlushed =>
    simp only [SessionUpdates.step] at hstep
    split at hstep
    · cases hstep
      exact ⟨h.numbers, h.once, h.held, h.buffered⟩
    · cases hstep

theorem Sound.deliveredInOrder (h : state.Sound) (hqueued : state.Queued) :
    state.DeliveredInOrder where
  once := h.once
  held := h.held
  inOrder := ⟨state.waiting, hqueued.symm⟩

theorem Sound.queued_step (h : state.Sound) (hqueued : state.Queued)
    (hstep : state.step action = some next) :
    (state.AfterFlush action → next.Queued) ∧
      (next.DeliveredInOrder → state.AfterFlush action) := by
  cases action with
  | dispatchNotification params =>
    exact ⟨fun _ => (h.dispatch hstep).2 hqueued, fun _ => trivial⟩
  | startDispatched =>
    obtain ⟨-, hnext, hafter⟩ := h.startDispatched hstep
    exact ⟨hnext hqueued, hafter hqueued⟩
  | handleSessionUpdate => exact ⟨fun _ => (h.register hstep).2 hqueued, fun _ => trivial⟩
  | startFlushed => exact ⟨fun _ => (h.startFlushed hstep).2 hqueued, fun _ => trivial⟩
  | finishDispatched | finishFlushed =>
    simp only [SessionUpdates.step] at hstep
    split at hstep
    · cases hstep
      exact ⟨fun _ => hqueued, fun _ => trivial⟩
    · cases hstep

/-- They are run for in order exactly when the read loop starts no run before the flush has
started all of its own. -/
theorem deliveredInOrder_throughout (actions : List (SessionUpdateAction α)) :
    Throughout SessionUpdates.step DeliveredInOrder (initial : SessionUpdates α) actions ↔
      StepsMeet SessionUpdates.step AfterFlush (initial : SessionUpdates α) actions := by
  apply throughout_iff_stepsMeet_while (I := fun state => state.Sound ∧ state.Queued)
  · intro state action next hstate _ hnext hstep
    obtain ⟨hsound, hqueued⟩ := hstate
    obtain ⟨hkeeps, hafter⟩ := hsound.queued_step hqueued hstep
    exact ⟨hsound.step hstep, hkeeps (hafter hnext)⟩
  · intro state action next hstate _ hstep
    obtain ⟨hsound, hqueued⟩ := hstate
    obtain ⟨hkeeps, hafter⟩ := hsound.queued_step hqueued hstep
    exact ⟨hafter, fun hmeets => (hsound.step hstep).deliveredInOrder (hkeeps hmeets)⟩
  · exact ⟨sound_initial, rfl⟩
  · exact sound_initial.deliveredInOrder rfl

/-- Two updates are buffered, a third arrives while the handler runs for the first. -/
def updateDuringFlush : List (SessionUpdateAction Nat) :=
  [.dispatchNotification 0, .dispatchNotification 1, .handleSessionUpdate, .startFlushed,
    .dispatchNotification 2, .startDispatched]

/-- The handler is run for the third before the second. -/
theorem not_deliveredInOrder_updateDuringFlush :
    ¬Throughout SessionUpdates.step DeliveredInOrder initial updateDuringFlush := by
  intro hdelivered
  have hrun : (exec SessionUpdates.step initial updateDuringFlush).map (fun state =>
      (state.runs.map Notification.number, state.arrivals.map Notification.number)) =
        some ([0, 2], [0, 1, 2]) := rfl
  obtain ⟨state, hexec, hstate⟩ := Option.map_eq_some_iff.mp hrun
  simp only [Prod.mk.injEq] at hstate
  have hprefix := (hdelivered.final hexec).inOrder.map Notification.number
  rw [hstate.1, hstate.2] at hprefix
  revert hprefix
  decide

end SessionUpdates

end GT3Code.Acp
