import GT3Code.Base.FreshNames
import GT3Code.Codex.Protocol

/-! # Requests settle

A response completes the request of its id, the first one of those since the request was
registered. The termination handler fails the requests it reads; those registered later
have nobody left to complete them.
-/

namespace GT3Code.Codex

open GT3Code.Base

variable {Value : Type}

namespace CodexProtocol

def Stranded (state : CodexProtocol Value) (i : Nat) : Prop :=
  (state.requests.calls i).stage = .awaiting ∧ ∀ actions next,
    exec step state actions = some next → (next.requests.calls i).cell = none

/-- A call that got a response got the first of its id since it was registered, no two calls
share an id, and when the termination handler is through no call is left waiting. -/
structure RequestsSettle (state : CodexProtocol Value) : Prop where
  own : ∀ i response, (state.requests.calls i).stage = .settled (.answered response) →
    firstSince (state.requests.calls i).since (toString (state.requests.calls i).number)
      state.requests.answers = some response
  ids : ∀ i j, (state.requests.calls i).stage.Numbered → (state.requests.calls j).stage.Numbered →
    (state.requests.calls i).number = (state.requests.calls j).number → i = j
  settles : state.stage = .finished → ∀ i, ¬state.Stranded i

/-- A call registered after the handler had read the pending map does not wait when the handler
ends, nor start to wait afterwards. -/
def NoLateWait (state : CodexProtocol Value) : CodexAction Value → Prop
  | .onTermination => ∀ i, (state.requests.calls i).stage = .awaiting →
      (state.requests.calls i).late = false
  | .offerOutgoing i => state.stage = .finished → (state.requests.calls i).late = false
  | _ => True

end CodexProtocol

def TerminationStage.Agrees (handling : Handling String (JsonRpcResponse Value)
    (CodexAppServerError Value)) : TerminationStage Value → Prop
  | .reading => handling.isFailing = false
  | .classifying | .classified _ => handling = .reading
  | .failing => handling.isFailing = true
  | .cleared | .ended | .finished => ∃ error, handling = .failing [] error

namespace CodexProtocol

structure Sound (state : CodexProtocol Value) : Prop where
  requests : state.requests.Sound toString
  agrees : state.stage.Agrees state.requests.handling

variable {state next : CodexProtocol Value}

theorem sound_initial : (initial : CodexProtocol Value).Sound where
  requests := Requests.sound_initial 1
  agrees := rfl

variable {stage : TerminationStage Value}
  {action : RequestsAction String (JsonRpcResponse Value) (CodexAppServerError Value)} {i : Nat}

theorem atRequests_eq_some
    {actions : List (RequestsAction String (JsonRpcResponse Value)
    (CodexAppServerError Value))}
    (h : state.atRequests actions stage = some next) :
    exec (Requests.step toString) state.requests actions = some next.requests ∧
      next.stage = stage := by
  obtain ⟨requests, hexec, rfl⟩ := Option.map_eq_some_iff.mp h
  exact ⟨hexec, rfl⟩

theorem atRequests_one_eq_some (h : state.atRequests [action] stage = some next) :
    state.requests.step toString action = some next.requests ∧ next.stage = stage := by
  obtain ⟨hexec, hstage⟩ := atRequests_eq_some h
  obtain ⟨requests, hstep, hnil⟩ := exec_cons_eq_some hexec
  cases hnil
  exact ⟨hstep, hstage⟩

theorem Sound.caller (h : state.Sound) {before : CodexProtocol Value}
    (hstep : before.atRequests [action] state.stage = some next)
    (hrequests : before.requests = state.requests) (hcaller : action.OfCaller) : next.Sound := by
  obtain ⟨hrequest, hstage⟩ := atRequests_one_eq_some hstep
  rw [hrequests] at hrequest
  constructor
  · exact h.requests.step toString_injective hrequest
  · rw [hstage, Requests.handling_of_caller hrequest hcaller]
    exact h.agrees

variable {action : CodexAction Value}

theorem Sound.step (h : state.Sound) (hstep : state.step action = some next) : next.Sound := by
  have hagrees := h.agrees
  cases action with
  | request | offerOutgoing =>
    simp only [CodexProtocol.step] at hstep
    exact h.caller hstep rfl trivial
  | registerPending | encodeFails | removePending | resume | interrupt =>
    exact h.caller hstep rfl trivial
  | handleResponse response =>
    simp only [CodexProtocol.step] at hstep
    split at hstep
    · rename_i hreading
      rw [hreading] at hagrees
      split at hstep
      · obtain ⟨hexec, hstage⟩ := atRequests_eq_some hstep
        constructor
        · exact h.requests.exec toString_injective hexec
        · obtain ⟨received, hreceive, hrest⟩ := exec_cons_eq_some hexec
          obtain ⟨taken, htake, hnil⟩ := exec_cons_eq_some hrest
          cases hnil
          rw [hstage]
          show next.requests.handling.isFailing = false
          rw [Requests.isFailing_of_step htake (fun _ h => by cases h),
            Requests.isFailing_of_step hreceive (fun _ h => by cases h)]
          exact hagrees
      · obtain ⟨hreceive, hstage⟩ := atRequests_one_eq_some hstep
        constructor
        · exact h.requests.step toString_injective hreceive
        · rw [hstage]
          show next.requests.handling.isFailing = false
          rw [Requests.isFailing_of_step hreceive (fun _ h => by cases h)]
          exact hagrees
    · cases hstep
  | completeDeferred =>
    obtain ⟨hcomplete, hstage⟩ := atRequests_one_eq_some hstep
    constructor
    · exact h.requests.step toString_injective hcomplete
    · obtain ⟨⟨_, _, hhandling⟩, hreading⟩ := Requests.handling_of_complete hcomplete
      rw [hstage, hreading]
      rw [hhandling] at hagrees
      cases hstate : state.stage with
      | reading => rfl
      | classifying | classified | failing =>
        rw [hstate] at hagrees
        cases hagrees
      | cleared | ended | finished =>
        rw [hstate] at hagrees
        obtain ⟨_, hother⟩ := hagrees
        cases hother
  | handleTermination =>
    simp only [CodexProtocol.step] at hstep
    split at hstep
    · rename_i hreading
      split at hstep
      · cases hstep
      · cases hstep
        exact ⟨h.requests, hreading⟩
    · cases hstep
  | classifyTermination error =>
    simp only [CodexProtocol.step] at hstep
    split at hstep
    · rename_i hclassifying
      cases hstep
      rw [hclassifying] at hagrees
      exact ⟨h.requests, hagrees⟩
    · cases hstep
  | readPending =>
    simp only [CodexProtocol.step] at hstep
    split at hstep
    · obtain ⟨hdrain, hstage⟩ := atRequests_one_eq_some hstep
      constructor
      · exact h.requests.step toString_injective hdrain
      · rw [hstage, (Requests.handling_of_drain hdrain).2]
        rfl
    · cases hstep
  | failNextPending =>
    obtain ⟨hfail, hstage⟩ := atRequests_one_eq_some hstep
    constructor
    · exact h.requests.step toString_injective hfail
    · obtain ⟨_, _, _, hhandling, hfailing⟩ := Requests.handling_of_failNext hfail
      rw [hstage, hfailing]
      rw [hhandling] at hagrees
      cases hstate : state.stage with
      | failing => rfl
      | reading | classifying | classified =>
        rw [hstate] at hagrees
        cases hagrees
      | cleared | ended | finished =>
        rw [hstate] at hagrees
        obtain ⟨_, hother⟩ := hagrees
        cases hother
  | clearPending =>
    simp only [CodexProtocol.step] at hstep
    split at hstep
    · rename_i hhandling
      obtain ⟨hclear, hstage⟩ := atRequests_one_eq_some hstep
      constructor
      · exact h.requests.step toString_injective hclear
      · rw [hstage, Requests.handling_of_clear hclear]
        exact ⟨_, hhandling⟩
    · cases hstep
  | endOutgoing =>
    simp only [CodexProtocol.step] at hstep
    split at hstep
    · rename_i hcleared
      cases hstep
      rw [hcleared] at hagrees
      exact ⟨h.requests, hagrees⟩
    · cases hstep
  | onTermination =>
    simp only [CodexProtocol.step] at hstep
    split at hstep
    · rename_i hended
      cases hstep
      rw [hended] at hagrees
      exact ⟨h.requests, hagrees⟩
    · cases hstep

theorem step_requests (hstep : state.step action = some next) :
    ∃ actions, exec (Requests.step toString) state.requests actions = some next.requests ∧
      ∀ i, .offer i ∈ actions → action = .offerOutgoing i := by
  have hnone : ∀ actions, exec (Requests.step toString) state.requests actions =
      some next.requests → (∀ i, .offer i ∉ actions) →
      ∃ actions, exec (Requests.step toString) state.requests actions = some next.requests ∧
        ∀ i, .offer i ∈ actions → action = .offerOutgoing i :=
    fun actions hexec hnot => ⟨actions, hexec, fun i hi => absurd hi (hnot i)⟩
  cases action with
  | offerOutgoing i =>
    simp only [CodexProtocol.step] at hstep
    refine ⟨_, (atRequests_eq_some hstep).1, ?_⟩
    intro j hj
    cases List.mem_singleton.mp hj
    rfl
  | request | registerPending | encodeFails | removePending | resume | interrupt
  | completeDeferred | failNextPending =>
    simp only [CodexProtocol.step] at hstep
    exact hnone _ (atRequests_eq_some hstep).1 (by simp)
  | handleResponse response =>
    simp only [CodexProtocol.step] at hstep
    split at hstep
    · split at hstep
      · exact hnone _ (atRequests_eq_some hstep).1 (by simp)
      · exact hnone _ (atRequests_eq_some hstep).1 (by simp)
    · cases hstep
  | handleTermination =>
    simp only [CodexProtocol.step] at hstep
    split at hstep
    · split at hstep
      · cases hstep
      · cases hstep
        exact hnone [] rfl (by simp)
    · cases hstep
  | readPending | clearPending =>
    simp only [CodexProtocol.step] at hstep
    split at hstep
    · exact hnone _ (atRequests_eq_some hstep).1 (by simp)
    · cases hstep
  | classifyTermination | endOutgoing | onTermination =>
    simp only [CodexProtocol.step] at hstep
    split at hstep
    · cases hstep
      exact hnone [] rfl (by simp)
    · cases hstep

/-- The handler is through when `onTermination` returns. -/
theorem finished_step (hstep : state.step action = some next) (hnext : next.stage = .finished) :
    (action = .onTermination ∧ next.requests = state.requests) ∨
      (action ≠ .onTermination ∧ state.stage = .finished) := by
  cases action with
  | request | registerPending | offerOutgoing | encodeFails | removePending | resume | interrupt
  | completeDeferred | failNextPending =>
    simp only [CodexProtocol.step] at hstep
    have hstage := (atRequests_eq_some hstep).2
    exact .inr ⟨fun h => (by cases h), hstage.symm.trans hnext⟩
  | handleResponse response =>
    simp only [CodexProtocol.step] at hstep
    split at hstep
    · split at hstep
      · rw [(atRequests_eq_some hstep).2] at hnext
        cases hnext
      · rw [(atRequests_eq_some hstep).2] at hnext
        cases hnext
    · cases hstep
  | handleTermination =>
    simp only [CodexProtocol.step] at hstep
    split at hstep
    · split at hstep
      · cases hstep
      · cases hstep
        cases hnext
    · cases hstep
  | readPending | clearPending =>
    simp only [CodexProtocol.step] at hstep
    split at hstep
    · rw [(atRequests_eq_some hstep).2] at hnext
      cases hnext
    · cases hstep
  | classifyTermination | endOutgoing =>
    simp only [CodexProtocol.step] at hstep
    split at hstep
    · cases hstep
      cases hnext
    · cases hstep
  | onTermination =>
    simp only [CodexProtocol.step] at hstep
    split at hstep
    · cases hstep
      exact .inl ⟨rfl, rfl⟩
    · cases hstep

theorem Sound.cell_of_late (h : state.Sound) (hentered : (state.requests.calls i).stage.Entered)
    (hlate : (state.requests.calls i).late = true) {actions : List (CodexAction Value)}
    (hexec : exec CodexProtocol.step state actions = some next) :
    (next.requests.calls i).cell = none := by
  have hinvariant : next.Sound ∧ (next.requests.calls i).stage.Entered ∧
      (next.requests.calls i).late = true := by
    apply exec_invariant (I := fun state : CodexProtocol Value => state.Sound ∧
      (state.requests.calls i).stage.Entered ∧ (state.requests.calls i).late = true) _
      ⟨h, hentered, hlate⟩ hexec
    intro before action after hbefore hstep
    obtain ⟨hsound, hin, hwasLate⟩ := hbefore
    obtain ⟨steps, hsteps, -⟩ := step_requests hstep
    obtain ⟨hstays, hsameLate⟩ := (Requests.exec_call hsteps i).1 hin
    exact ⟨hsound.step hstep, hstays, hsameLate.trans hwasLate⟩
  exact (hinvariant.1.requests.late i hinvariant.2.2).2

theorem Sound.stranded_iff (h : state.Sound) (hfinished : state.stage = .finished) :
    state.Stranded i ↔ (state.requests.calls i).stage = .awaiting ∧
      (state.requests.calls i).late = true := by
  have hagrees := h.agrees
  rw [hfinished] at hagrees
  obtain ⟨error, hhandling⟩ := hagrees
  constructor
  · rintro ⟨hawaiting, hnever⟩
    have hwaits : (state.requests.calls i).stage.Waits := by rw [hawaiting]; trivial
    exact ⟨hawaiting, (h.requests.left hhandling hwaits).mp (hnever [] state rfl)⟩
  · rintro ⟨hawaiting, hlate⟩
    have hentered : (state.requests.calls i).stage.Entered := by rw [hawaiting]; trivial
    exact ⟨hawaiting, fun actions next hexec => h.cell_of_late hentered hlate hexec⟩

theorem Sound.requestsSettle_iff (h : state.Sound) :
    state.RequestsSettle ↔ (state.stage = .finished → ∀ i,
      (state.requests.calls i).stage = .awaiting → (state.requests.calls i).late = false) := by
  constructor
  · intro hsettle hfinished i hawaiting
    rw [← Bool.not_eq_true]
    intro hlate
    exact hsettle.settles hfinished i ((h.stranded_iff hfinished).mpr ⟨hawaiting, hlate⟩)
  · intro hearly
    constructor
    · exact fun i response hsettled => h.requests.first hsettled
    · exact h.requests.unique
    · intro hfinished i hstranded
      obtain ⟨hawaiting, hlate⟩ := (h.stranded_iff hfinished).mp hstranded
      rw [hearly hfinished i hawaiting] at hlate
      cases hlate

theorem Sound.requestsSettle_step (h : state.Sound) (hsettle : state.RequestsSettle)
    (hstep : state.step action = some next) : next.RequestsSettle ↔ state.NoLateWait action := by
  rw [(h.step hstep).requestsSettle_iff]
  have hbefore := h.requestsSettle_iff.mp hsettle
  by_cases hnext : next.stage = .finished
  · rcases finished_step hstep hnext with ⟨rfl, hsame⟩ | ⟨hother, hfinished⟩
    · rw [hsame]
      exact ⟨fun hearly => hearly hnext, fun hearly _ => hearly⟩
    · constructor
      · intro hearly
        cases action with
        | offerOutgoing i =>
          intro _
          simp only [CodexProtocol.step] at hstep
          obtain ⟨hawaiting, hlate⟩ := Requests.offer_eq_some (atRequests_one_eq_some hstep).1
          exact hlate.symm.trans (hearly hnext i hawaiting)
        | onTermination => exact absurd rfl hother
        | _ => trivial
      · intro hmeets _ i hawaiting
        obtain ⟨actions, hexec, hoffers⟩ := step_requests hstep
        obtain ⟨hkeeps, hwaited⟩ := Requests.exec_call hexec i
        rcases hwaited hawaiting with hwaiting | hoffer
        · have hentered : (state.requests.calls i).stage.Entered := by rw [hwaiting]; trivial
          exact (hkeeps hentered).2.trans (hbefore hfinished i hwaiting)
        · cases hoffers i hoffer
          simp only [CodexProtocol.step] at hstep
          obtain ⟨-, hlate⟩ := Requests.offer_eq_some (atRequests_one_eq_some hstep).1
          exact hlate.trans (hmeets hfinished)
  · constructor
    · intro _
      cases action with
      | offerOutgoing i =>
        intro hfinished
        simp only [CodexProtocol.step] at hstep
        exact absurd ((atRequests_eq_some hstep).2.trans hfinished) hnext
      | onTermination =>
        simp only [CodexProtocol.step] at hstep
        split at hstep
        · cases hstep
          exact absurd rfl hnext
        · cases hstep
      | _ => trivial
    · exact fun _ hfinished => absurd hfinished hnext

/-- Requests settle in a run exactly when no call that registered after the pending map was read
waits once the handler is through. -/
theorem requestsSettle_throughout (actions : List (CodexAction Value)) :
    Throughout step RequestsSettle (initial : CodexProtocol Value) actions ↔
      StepsMeet step NoLateWait (initial : CodexProtocol Value) actions := by
  apply throughout_iff_stepsMeet (I := Sound)
  · exact fun _ _ _ hsound hstep => hsound.step hstep
  · exact fun _ _ _ hsound hsettle hstep => hsound.requestsSettle_step hsettle hstep
  · exact sound_initial
  · exact sound_initial.requestsSettle_iff.mpr fun h => by cases h

/-- The input stream ends with nothing pending, and a call is made. -/
def requestAfterEnd : List (CodexAction Unit) :=
  [.handleTermination, .classifyTermination (.transport "Codex App Server input stream ended"),
    .readPending, .clearPending, .endOutgoing, .onTermination, .request 0 "thread/start" none,
    .registerPending 0, .offerOutgoing 0]

/-- It waits for ever. -/
theorem not_requestsSettle_requestAfterEnd :
    ¬Throughout step RequestsSettle (initial : CodexProtocol Unit) requestAfterEnd := by
  intro hsettle
  have hrun : (exec step (initial : CodexProtocol Unit) requestAfterEnd).map (fun state =>
      (state.stage, (state.requests.calls 0).stage, (state.requests.calls 0).late)) =
        some (.finished, .awaiting, true) := rfl
  obtain ⟨state, hexec, hstate⟩ := Option.map_eq_some_iff.mp hrun
  simp only [Prod.mk.injEq] at hstate
  obtain ⟨hfinished, hawaiting, hlate⟩ := hstate
  have hsound : state.Sound :=
    exec_invariant (fun _ _ _ hbefore hstep => Sound.step hbefore hstep) sound_initial hexec
  exact (hsettle.final hexec).settles hfinished 0
    ((hsound.stranded_iff hfinished).mpr ⟨hawaiting, hlate⟩)

end CodexProtocol

end GT3Code.Codex
