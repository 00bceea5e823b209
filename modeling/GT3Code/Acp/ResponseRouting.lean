import GT3Code.Base.FreshNames
import GT3Code.Acp.Protocol

/-! # Responses reach the caller that asked

The ids of extension requests stay below those of the RPC client, so a message completes the
request that asked. A request that registers between the routing of a message and its offer
to the RPC client, or after the pending ones were taken to be failed, is served by nobody.
-/

namespace GT3Code.Acp

open GT3Code.Base

variable {Value : Type}

namespace AcpProtocol

def Stranded (state : AcpProtocol Value) (i : Nat) : Prop :=
  (state.ext.calls i).stage = .awaiting ∧ ∀ actions next,
    exec step state actions = some next → (next.ext.calls i).cell = none

/-- An extension request gets the first message with its id since it was registered. With fewer
than `2 ^ 32` of them none takes a message of the RPC client, the RPC client gets none of a
pending one, and when the termination handler is through none is left waiting. -/
structure ResponsesRouted (state : AcpProtocol Value) : Prop where
  own : ∀ i message, (state.ext.calls i).stage = .settled (.answered message) →
    firstSince (state.ext.calls i).since (toString (state.ext.calls i).number)
      state.ext.answers = some message
  apart : state.ext.next ≤ 2 ^ 32 → ∀ message ∈ state.consumed, ∀ id, 2 ^ 32 ≤ id →
    id < state.nextRpcRequestId → message.requestId? ≠ some (toString id)
  kept : state.stray = []
  settles : state.stage = .finished → ∀ i, ¬state.Stranded i

/-- The request was registered before the message on its way to the RPC client was routed. A
call registered after the pending ones were taken does not wait when the handler ends, nor
start to wait afterwards. -/
def InTime (state : AcpProtocol Value) : AcpAction Value → Prop
  | .offerClient => ∀ message requestId i, state.offering = some message →
      message.requestId? = some requestId → state.ext.pending.get requestId = some i →
        (state.ext.calls i).since < state.ext.answers.length
  | .onTermination => ∀ i, (state.ext.calls i).stage = .awaiting →
      (state.ext.calls i).late = false
  | .offerOutgoing i => state.stage = .finished → (state.ext.calls i).late = false
  | _ => True

end AcpProtocol

def TerminationStage.Agrees (handling : Handling String (FromServerEncoded Value) (AcpError Value))
    (offering : Option (FromServerEncoded Value)) : TerminationStage Value → Prop
  | .reading => handling.isFailing = false ∧ (offering.isSome = true → handling = .reading)
  | .classifying | .dismissed | .classified _ => handling = .reading ∧ offering = none
  | .failing _ => handling.isFailing = true ∧ offering = none
  | .emitted | .finished => (∃ error, handling = .failing [] error) ∧ offering = none

namespace AcpProtocol

/-- A request pending under the id of a message on its way to the RPC client came after it. -/
structure Sound (state : AcpProtocol Value) : Prop where
  ext : state.ext.Sound toString
  agrees : state.stage.Agrees state.ext.handling state.offering
  consumed : ∀ message ∈ state.consumed,
    ∃ number, number < state.ext.next ∧ message.requestId? = some (toString number)
  offered : ∀ message requestId i, state.offering = some message →
    message.requestId? = some requestId → state.ext.pending.get requestId = some i →
      (state.ext.calls i).since = state.ext.answers.length

variable {state next : AcpProtocol Value}

theorem sound_initial : (initial : AcpProtocol Value).Sound where
  ext := Requests.sound_initial 1
  agrees := ⟨rfl, fun h => by cases h⟩
  consumed := nofun
  offered := nofun

variable {stage : TerminationStage Value} {action : AcpAction Value}

theorem atExt_eq_some
    {actions : List (RequestsAction String (FromServerEncoded Value)
    (AcpError Value))}
    (h : state.atExt actions stage = some next) :
    exec (Requests.step toString) state.ext actions = some next.ext ∧ next.stage = stage ∧
      next.offering = state.offering ∧ next.consumed = state.consumed ∧
        next.stray = state.stray ∧ next.nextRpcRequestId = state.nextRpcRequestId := by
  obtain ⟨ext, hexec, rfl⟩ := Option.map_eq_some_iff.mp h
  exact ⟨hexec, rfl, rfl, rfl, rfl, rfl⟩

theorem atExt_one_eq_some
    {action : RequestsAction String (FromServerEncoded Value)
    (AcpError Value)}
    (h : state.atExt [action] stage = some next) :
    state.ext.step toString action = some next.ext ∧ next.stage = stage ∧
      next.offering = state.offering ∧ next.consumed = state.consumed ∧
        next.stray = state.stray ∧ next.nextRpcRequestId = state.nextRpcRequestId := by
  obtain ⟨hexec, hrest⟩ := atExt_eq_some h
  obtain ⟨ext, hstep, hnil⟩ := exec_cons_eq_some hexec
  cases hnil
  exact ⟨hstep, hrest⟩

theorem Sound.consumed_mono (h : state.Sound) (hnext : state.ext.next ≤ next.ext.next)
    (hconsumed : next.consumed = state.consumed) : ∀ message ∈ next.consumed,
      ∃ number, number < next.ext.next ∧ message.requestId? = some (toString number) := by
  intro message hmessage
  obtain ⟨number, hnumber, hid⟩ := h.consumed message (hconsumed ▸ hmessage)
  exact ⟨number, by omega, hid⟩

theorem Sound.caller (h : state.Sound) {before : AcpProtocol Value}
    {action : RequestsAction String (FromServerEncoded Value) (AcpError Value)}
    (hstep : before.atExt [action] state.stage = some next) (hext : before.ext = state.ext)
    (hoffering : before.offering = state.offering) (hconsumed : before.consumed = state.consumed)
    (hcaller : action.OfCaller) : next.Sound := by
  obtain ⟨hrequest, hstage, hnextOffering, hnextConsumed, -⟩ := atExt_one_eq_some hstep
  rw [hext] at hrequest
  rw [hoffering] at hnextOffering
  constructor
  · exact h.ext.step toString_injective hrequest
  · rw [hstage, hnextOffering, Requests.handling_of_caller hrequest hcaller]
    exact h.agrees
  · exact h.consumed_mono (Requests.next_le_of_step hrequest) (hnextConsumed.trans hconsumed)
  · intro message requestId i hmessage hid hget
    rw [hnextOffering] at hmessage
    rw [Requests.answers_of_caller hrequest hcaller]
    rcases h.ext.pending_of_caller hrequest hcaller hget with ⟨hold, hsince⟩ | hnew
    · rw [hsince]
      exact h.offered message requestId i hmessage hid hold
    · exact hnew

theorem Sound.unoffered (h : state.Sound) {before : AcpProtocol Value}
    {actions : List (RequestsAction String (FromServerEncoded Value) (AcpError Value))}
    (hstep : before.atExt actions stage = some next) (hext : before.ext = state.ext)
    (hoffering : before.offering = none) (hconsumed : before.consumed = state.consumed)
    (hagrees : stage.Agrees next.ext.handling none) : next.Sound := by
  obtain ⟨hexec, hstage, hnextOffering, hnextConsumed, -⟩ := atExt_eq_some hstep
  rw [hext] at hexec
  rw [hoffering] at hnextOffering
  constructor
  · exact h.ext.exec toString_injective hexec
  · rw [hstage, hnextOffering]
    exact hagrees
  · exact h.consumed_mono (Requests.next_le_of_exec hexec) (hnextConsumed.trans hconsumed)
  · intro message requestId i hmessage
    rw [hnextOffering] at hmessage
    cases hmessage

theorem Sound.reading_of_routing (h : state.Sound) (hhandling : state.ext.handling ≠ .reading)
    (hfailing : state.ext.handling.isFailing = false) :
    state.stage = .reading ∧ state.offering = none := by
  have hagrees := h.agrees
  cases hstage : state.stage with
  | reading =>
    rw [hstage] at hagrees
    refine ⟨rfl, ?_⟩
    rw [← Option.not_isSome_iff_eq_none]
    exact fun hsome => hhandling (hagrees.2 hsome)
  | classifying | dismissed | classified =>
    rw [hstage] at hagrees
    exact absurd hagrees.1 hhandling
  | failing =>
    rw [hstage] at hagrees
    rw [hagrees.1] at hfailing
    cases hfailing
  | emitted | finished =>
    rw [hstage] at hagrees
    obtain ⟨⟨error, hfailed⟩, -⟩ := hagrees
    rw [hfailed] at hfailing
    cases hfailing

theorem Sound.route (h : state.Sound) {message : FromServerEncoded Value}
    (hstep : state.step (.routeDecodedMessage message) = some next) : next.Sound := by
  simp only [AcpProtocol.step] at hstep
  split at hstep
  · rename_i requestId hreading hoffering hid
    split at hstep
    · rename_i hhas
      obtain ⟨hreceive, hstage, hnextOffering, hnextConsumed, -⟩ := atExt_one_eq_some hstep
      constructor
      · exact h.ext.step toString_injective hreceive
      · rw [hstage, hnextOffering]
        show next.ext.handling.isFailing = false ∧ (state.offering.isSome = true → _)
        rw [hoffering, Requests.isFailing_of_step hreceive (fun _ h => by cases h),
          (Requests.handling_of_receive hreceive).1]
        exact ⟨rfl, fun h => by cases h⟩
      · rw [hnextConsumed]
        intro consumed hconsumed
        have hmono := Requests.next_le_of_step hreceive
        rcases List.mem_cons.mp hconsumed with hsame | hold
        · obtain ⟨i, hget⟩ := Option.isSome_iff_exists.mp hhas
          obtain ⟨hkey, hentered⟩ := h.ext.table requestId i hget
          have hnumber := h.ext.numbered i hentered.numbered
          refine ⟨(state.ext.calls i).number, Nat.lt_of_lt_of_le hnumber hmono, ?_⟩
          rw [hsame, hid, hkey]
        · obtain ⟨number, hnumber, hold⟩ := h.consumed consumed hold
          exact ⟨number, Nat.lt_of_lt_of_le hnumber hmono, hold⟩
      · intro other otherId i hother
        rw [hnextOffering] at hother
        rw [hoffering] at hother
        cases hother
    · rename_i hhas
      obtain ⟨hreceive, hstage, hnextOffering, hnextConsumed, -⟩ := atExt_one_eq_some hstep
      obtain ⟨-, hpending, hstays⟩ := Requests.handling_of_receive hreceive
      have hreading' := hstays (Bool.not_eq_true _ ▸ hhas)
      constructor
      · exact h.ext.step toString_injective hreceive
      · rw [hstage, hreading']
        exact ⟨rfl, fun _ => rfl⟩
      · exact h.consumed_mono (Requests.next_le_of_step hreceive) hnextConsumed
      · intro other otherId i hother hotherId hget
        rw [hnextOffering] at hother
        cases hother
        rw [hid] at hotherId
        cases hotherId
        rw [hpending] at hget
        rw [KeyedMap.has, hget] at hhas
        exact absurd rfl hhas
  · rename_i hreading hoffering hid
    split at hstep
    · rename_i hhandling
      cases hstep
      constructor
      · exact h.ext
      · rw [hreading]
        show state.ext.handling.isFailing = false ∧ (_ → state.ext.handling = .reading)
        rw [hhandling]
        exact ⟨rfl, fun _ => rfl⟩
      · exact h.consumed
      · intro other otherId i hother hotherId
        cases hother
        rw [hid] at hotherId
        cases hotherId
    · cases hstep
  · cases hstep

theorem Sound.step (h : state.Sound) (hstep : state.step action = some next) : next.Sound := by
  have hagrees := h.agrees
  cases action with
  | sendRequest | offerOutgoing =>
    simp only [AcpProtocol.step] at hstep
    exact h.caller hstep rfl rfl rfl trivial
  | registerExt | encodeFails | removeExtPending | resume | interrupt =>
    exact h.caller hstep rfl rfl rfl trivial
  | sendRpc tag payload =>
    cases hstep
    exact ⟨h.ext, hagrees, h.consumed, h.offered⟩
  | routeDecodedMessage message => exact h.route hstep
  | resolveExtPending =>
    simp only [AcpProtocol.step] at hstep
    have htake := (atExt_one_eq_some hstep).1
    obtain ⟨k, answer, hhandling⟩ := Requests.handling_of_take htake
    obtain ⟨hreading, hoffering⟩ := h.reading_of_routing
      (fun hother => by rw [hhandling] at hother; cases hother) (by rw [hhandling]; rfl)
    apply h.unoffered hstep rfl hoffering rfl
    rw [hreading]
    refine ⟨?_, fun h => by cases h⟩
    rw [Requests.isFailing_of_step htake (fun _ h => by cases h), hhandling]
    rfl
  | completeDeferred =>
    simp only [AcpProtocol.step] at hstep
    obtain ⟨⟨i, answer, hhandling⟩, hnext⟩ :=
      Requests.handling_of_complete (atExt_one_eq_some hstep).1
    obtain ⟨hreading, hoffering⟩ := h.reading_of_routing
      (fun hother => by rw [hhandling] at hother; cases hother) (by rw [hhandling]; rfl)
    apply h.unoffered hstep rfl hoffering rfl
    rw [hreading, hnext]
    exact ⟨rfl, fun h => by cases h⟩
  | offerClient =>
    simp only [AcpProtocol.step] at hstep
    split at hstep
    · rename_i message hoffering
      cases hstep
      constructor
      · exact h.ext
      · show state.stage.Agrees state.ext.handling none
        cases hstage : state.stage with
        | reading =>
          rw [hstage] at hagrees
          exact ⟨hagrees.1, fun h => by cases h⟩
        | classifying | dismissed | classified | failing | emitted | finished =>
          rw [hstage] at hagrees
          exact ⟨hagrees.1, rfl⟩
      · exact h.consumed
      · exact fun _ _ _ h => by cases h
    · cases hstep
  | handleTermination =>
    simp only [AcpProtocol.step] at hstep
    split at hstep
    · rename_i hreading hoffering hhandling
      split at hstep
      · cases hstep
      · cases hstep
        exact ⟨h.ext, ⟨hhandling, hoffering⟩, h.consumed, h.offered⟩
    · cases hstep
  | classifyTermination error =>
    simp only [AcpProtocol.step] at hstep
    split at hstep
    · rename_i hclassifying
      cases hstep
      rw [hclassifying] at hagrees
      exact ⟨h.ext, hagrees, h.consumed, h.offered⟩
    · rename_i hclassifying
      cases hstep
      rw [hclassifying] at hagrees
      exact ⟨h.ext, hagrees, h.consumed, h.offered⟩
    · cases hstep
  | getAndSetExtPending =>
    simp only [AcpProtocol.step] at hstep
    split at hstep
    · rename_i error hclassified
      rw [hclassified] at hagrees
      obtain ⟨drained, hdrain, hrest⟩ := exec_cons_eq_some (atExt_eq_some hstep).1
      obtain ⟨cleared, hclear, hnil⟩ := exec_cons_eq_some hrest
      cases hnil
      apply h.unoffered hstep rfl hagrees.2 rfl
      refine ⟨?_, rfl⟩
      rw [Requests.handling_of_clear hclear, (Requests.handling_of_drain hdrain).2]
      rfl
    · cases hstep
  | failNextPending =>
    simp only [AcpProtocol.step] at hstep
    obtain ⟨i, rest, error, hhandling, hnext⟩ :=
      Requests.handling_of_failNext (atExt_one_eq_some hstep).1
    rw [hhandling] at hagrees
    cases hstage : state.stage with
    | failing other =>
      rw [hstage] at hagrees hstep
      apply h.unoffered hstep rfl hagrees.2 rfl
      rw [hnext]
      exact ⟨rfl, rfl⟩
    | reading | classifying | dismissed | classified =>
      rw [hstage] at hagrees
      cases hagrees.1
    | emitted | finished =>
      rw [hstage] at hagrees
      obtain ⟨⟨_, hother⟩, -⟩ := hagrees
      cases hother
  | emitClientProtocolError =>
    simp only [AcpProtocol.step] at hstep
    split at hstep
    · rename_i error _ hfailing hhandling
      cases hstep
      rw [hfailing] at hagrees
      exact ⟨h.ext, ⟨⟨_, hhandling⟩, hagrees.2⟩, h.consumed, h.offered⟩
    · cases hstep
  | onTermination =>
    simp only [AcpProtocol.step] at hstep
    split at hstep
    · rename_i hemitted
      cases hstep
      rw [hemitted] at hagrees
      exact ⟨h.ext, hagrees, h.consumed, h.offered⟩
    · cases hstep

/-- What a step does at the pending requests: only `offerOutgoing` offers. Only
`offerClient` gives messages to the RPC client. -/
theorem step_ext (hstep : state.step action = some next) :
    ∃ actions, exec (Requests.step toString) state.ext actions = some next.ext ∧
      (∀ i, .offer i ∈ actions → action = .offerOutgoing i) ∧
        (action ≠ .offerClient → next.stray = state.stray) := by
  have hnone : ∀ actions, exec (Requests.step toString) state.ext actions = some next.ext →
      (∀ i, .offer i ∉ actions) → (action ≠ .offerClient → next.stray = state.stray) →
      ∃ actions, exec (Requests.step toString) state.ext actions = some next.ext ∧
        (∀ i, .offer i ∈ actions → action = .offerOutgoing i) ∧
          (action ≠ .offerClient → next.stray = state.stray) :=
    fun actions hexec hnot hstray => ⟨actions, hexec, fun i hi => absurd hi (hnot i), hstray⟩
  cases action with
  | offerOutgoing i =>
    simp only [AcpProtocol.step] at hstep
    obtain ⟨hexec, -, -, -, hstray, -⟩ := atExt_eq_some hstep
    refine ⟨_, hexec, ?_, fun _ => hstray⟩
    intro j hj
    cases List.mem_singleton.mp hj
    rfl
  | sendRequest | registerExt | encodeFails | removeExtPending | resume | interrupt
  | resolveExtPending | completeDeferred | failNextPending =>
    simp only [AcpProtocol.step] at hstep
    exact hnone _ (atExt_eq_some hstep).1 (by simp) fun _ => (atExt_eq_some hstep).2.2.2.2.1
  | sendRpc =>
    cases hstep
    exact hnone [] rfl (by simp) fun _ => rfl
  | routeDecodedMessage message =>
    simp only [AcpProtocol.step] at hstep
    split at hstep
    · split at hstep
      · exact hnone _ (atExt_eq_some hstep).1 (by simp) fun _ => (atExt_eq_some hstep).2.2.2.2.1
      · exact hnone _ (atExt_eq_some hstep).1 (by simp) fun _ => (atExt_eq_some hstep).2.2.2.2.1
    · split at hstep
      · cases hstep
        exact hnone [] rfl (by simp) fun _ => rfl
      · cases hstep
    · cases hstep
  | offerClient =>
    simp only [AcpProtocol.step] at hstep
    split at hstep
    · cases hstep
      exact hnone [] rfl (by simp) fun hother => absurd rfl hother
    · cases hstep
  | emitClientProtocolError | onTermination =>
    simp only [AcpProtocol.step] at hstep
    split at hstep
    · cases hstep
      exact hnone [] rfl (by simp) fun _ => rfl
    · cases hstep
  | handleTermination =>
    simp only [AcpProtocol.step] at hstep
    split at hstep
    · split at hstep
      · cases hstep
      · cases hstep
        exact hnone [] rfl (by simp) fun _ => rfl
    · cases hstep
  | classifyTermination =>
    simp only [AcpProtocol.step] at hstep
    split at hstep
    case h_3 => cases hstep
    all_goals
      cases hstep
      exact hnone [] rfl (by simp) fun _ => rfl
  | getAndSetExtPending =>
    simp only [AcpProtocol.step] at hstep
    split at hstep
    · exact hnone _ (atExt_eq_some hstep).1 (by simp) fun _ => (atExt_eq_some hstep).2.2.2.2.1
    · cases hstep

/-- The handler is through when `onTermination` returns. -/
theorem finished_step (hstep : state.step action = some next) (hnext : next.stage = .finished) :
    (action = .onTermination ∧ next.ext = state.ext) ∨
      (action ≠ .onTermination ∧ state.stage = .finished) := by
  cases action with
  | sendRequest | registerExt | offerOutgoing | encodeFails | removeExtPending | resume | interrupt
  | resolveExtPending | completeDeferred | failNextPending =>
    simp only [AcpProtocol.step] at hstep
    have hstage := (atExt_eq_some hstep).2.1
    exact .inr ⟨fun h => (by cases h), hstage.symm.trans hnext⟩
  | sendRpc =>
    cases hstep
    exact .inr ⟨fun h => (by cases h), hnext⟩
  | routeDecodedMessage message =>
    simp only [AcpProtocol.step] at hstep
    split at hstep
    · split at hstep
      · rw [(atExt_eq_some hstep).2.1] at hnext
        cases hnext
      · rw [(atExt_eq_some hstep).2.1] at hnext
        cases hnext
    · split at hstep
      · cases hstep
        exact .inr ⟨fun h => (by cases h), hnext⟩
      · cases hstep
    · cases hstep
  | offerClient =>
    simp only [AcpProtocol.step] at hstep
    split at hstep
    · cases hstep
      exact .inr ⟨fun h => (by cases h), hnext⟩
    · cases hstep
  | handleTermination =>
    simp only [AcpProtocol.step] at hstep
    split at hstep
    · split at hstep
      · cases hstep
      · cases hstep
        cases hnext
    · cases hstep
  | classifyTermination =>
    simp only [AcpProtocol.step] at hstep
    split at hstep
    case h_3 => cases hstep
    all_goals
      cases hstep
      cases hnext
  | getAndSetExtPending =>
    simp only [AcpProtocol.step] at hstep
    split at hstep
    · rw [(atExt_eq_some hstep).2.1] at hnext
      cases hnext
    · cases hstep
  | emitClientProtocolError =>
    simp only [AcpProtocol.step] at hstep
    split at hstep
    · cases hstep
      cases hnext
    · cases hstep
  | onTermination =>
    simp only [AcpProtocol.step] at hstep
    split at hstep
    · cases hstep
      exact .inl ⟨rfl, rfl⟩
    · cases hstep

theorem Sound.cell_of_late (h : state.Sound) {i : Nat}
    (hentered : (state.ext.calls i).stage.Entered) (hlate : (state.ext.calls i).late = true)
    {actions : List (AcpAction Value)} (hexec : exec AcpProtocol.step state actions = some next) :
    (next.ext.calls i).cell = none := by
  have hinvariant : next.Sound ∧ (next.ext.calls i).stage.Entered ∧
      (next.ext.calls i).late = true := by
    apply exec_invariant (I := fun state : AcpProtocol Value => state.Sound ∧
      (state.ext.calls i).stage.Entered ∧ (state.ext.calls i).late = true) _
      ⟨h, hentered, hlate⟩ hexec
    intro before action after hbefore hstep
    obtain ⟨hsound, hin, hwasLate⟩ := hbefore
    obtain ⟨steps, hsteps, -⟩ := step_ext hstep
    obtain ⟨hstays, hsameLate⟩ := (Requests.exec_call hsteps i).1 hin
    exact ⟨hsound.step hstep, hstays, hsameLate.trans hwasLate⟩
  exact (hinvariant.1.ext.late i hinvariant.2.2).2

theorem Sound.stranded_iff (h : state.Sound) (hfinished : state.stage = .finished) {i : Nat} :
    state.Stranded i ↔ (state.ext.calls i).stage = .awaiting ∧
      (state.ext.calls i).late = true := by
  have hagrees := h.agrees
  rw [hfinished] at hagrees
  obtain ⟨⟨error, hhandling⟩, -⟩ := hagrees
  constructor
  · rintro ⟨hawaiting, hnever⟩
    have hwaits : (state.ext.calls i).stage.Waits := by rw [hawaiting]; trivial
    exact ⟨hawaiting, (h.ext.left hhandling hwaits).mp (hnever [] state rfl)⟩
  · rintro ⟨hawaiting, hlate⟩
    have hentered : (state.ext.calls i).stage.Entered := by rw [hawaiting]; trivial
    exact ⟨hawaiting, fun actions next hexec => h.cell_of_late hentered hlate hexec⟩

theorem Sound.responsesRouted_iff (h : state.Sound) :
    state.ResponsesRouted ↔ state.stray = [] ∧ (state.stage = .finished → ∀ i,
      (state.ext.calls i).stage = .awaiting → (state.ext.calls i).late = false) := by
  constructor
  · intro hrouted
    refine ⟨hrouted.kept, ?_⟩
    intro hfinished i hawaiting
    rw [← Bool.not_eq_true]
    intro hlate
    exact hrouted.settles hfinished i ((h.stranded_iff hfinished).mpr ⟨hawaiting, hlate⟩)
  · rintro ⟨hkept, hearly⟩
    constructor
    · exact fun i message hsettled => h.ext.first hsettled
    · intro hfew message hmessage id hlow _ hsame
      obtain ⟨number, hnumber, hid⟩ := h.consumed message hmessage
      rw [hid] at hsame
      have heq : number = id := toString_injective (Option.some.inj hsame)
      omega
    · exact hkept
    · intro hfinished i hstranded
      obtain ⟨hawaiting, hlate⟩ := (h.stranded_iff hfinished).mp hstranded
      rw [hearly hfinished i hawaiting] at hlate
      cases hlate

theorem isPending_iff {message : FromServerEncoded Value} :
    state.isPending message = true ↔ ∃ requestId i,
      message.requestId? = some requestId ∧ state.ext.pending.get requestId = some i := by
  unfold isPending
  cases hid : message.requestId? with
  | none => simp
  | some requestId =>
    simp only [KeyedMap.has, Option.isSome_iff_exists, Option.some.injEq]
    constructor
    · rintro ⟨i, hget⟩
      exact ⟨requestId, i, rfl, hget⟩
    · rintro ⟨_, i, rfl, hget⟩
      exact ⟨i, hget⟩

theorem Sound.stray_offerClient (h : state.Sound) (hkept : state.stray = [])
    (hstep : state.step .offerClient = some next) :
    next.stray = [] ↔ state.InTime .offerClient := by
  simp only [AcpProtocol.step] at hstep
  split at hstep
  · rename_i message hoffering
    cases hstep
    show (if state.isPending message then message :: state.stray else state.stray) = [] ↔ _
    by_cases hpending : state.isPending message = true
    · rw [if_pos hpending]
      obtain ⟨requestId, i, hid, hget⟩ := isPending_iff.mp hpending
      constructor
      · exact fun h => by cases h
      · intro hin
        have hearlier := hin message requestId i hoffering hid hget
        have hsince := h.offered message requestId i hoffering hid hget
        omega
    · rw [if_neg hpending]
      constructor
      · intro _ other requestId i hother hid hget
        rw [hoffering] at hother
        cases hother
        exact absurd (isPending_iff.mpr ⟨requestId, i, hid, hget⟩) hpending
      · exact fun _ => hkept
  · cases hstep

theorem settles_step
    (hbefore : state.stage = .finished → ∀ i,
      (state.ext.calls i).stage = .awaiting → (state.ext.calls i).late = false)
    (hstep : state.step action = some next) (hclient : action ≠ .offerClient) :
    (next.stage = .finished → ∀ i, (next.ext.calls i).stage = .awaiting →
      (next.ext.calls i).late = false) ↔ state.InTime action := by
  by_cases hnext : next.stage = .finished
  · rcases finished_step hstep hnext with ⟨rfl, hsame⟩ | ⟨hother, hfinished⟩
    · rw [hsame]
      exact ⟨fun hearly => hearly hnext, fun hearly _ => hearly⟩
    · constructor
      · intro hearly
        cases action with
        | offerOutgoing i =>
          intro _
          simp only [AcpProtocol.step] at hstep
          obtain ⟨hawaiting, hlate⟩ := Requests.offer_eq_some (atExt_one_eq_some hstep).1
          exact hlate.symm.trans (hearly hnext i hawaiting)
        | onTermination => exact absurd rfl hother
        | offerClient => exact absurd rfl hclient
        | _ => trivial
      · intro hmeets _ i hawaiting
        obtain ⟨actions, hexec, hoffers, -⟩ := step_ext hstep
        obtain ⟨hkeeps, hwaited⟩ := Requests.exec_call hexec i
        rcases hwaited hawaiting with hwaiting | hoffer
        · have hentered : (state.ext.calls i).stage.Entered := by rw [hwaiting]; trivial
          exact (hkeeps hentered).2.trans (hbefore hfinished i hwaiting)
        · cases hoffers i hoffer
          simp only [AcpProtocol.step] at hstep
          obtain ⟨-, hlate⟩ := Requests.offer_eq_some (atExt_one_eq_some hstep).1
          exact hlate.trans (hmeets hfinished)
  · constructor
    · intro _
      cases action with
      | offerOutgoing i =>
        intro hfinished
        simp only [AcpProtocol.step] at hstep
        exact absurd ((atExt_eq_some hstep).2.1.trans hfinished) hnext
      | onTermination =>
        simp only [AcpProtocol.step] at hstep
        split at hstep
        · cases hstep
          exact absurd rfl hnext
        · cases hstep
      | offerClient => exact absurd rfl hclient
      | _ => trivial
    · exact fun _ hfinished => absurd hfinished hnext

theorem Sound.responsesRouted_step (h : state.Sound) (hrouted : state.ResponsesRouted)
    (hstep : state.step action = some next) : next.ResponsesRouted ↔ state.InTime action := by
  rw [(h.step hstep).responsesRouted_iff]
  obtain ⟨hkept, hbefore⟩ := h.responsesRouted_iff.mp hrouted
  by_cases hclient : action = .offerClient
  · subst hclient
    rw [h.stray_offerClient hkept hstep]
    constructor
    · exact fun hboth => hboth.1
    · intro hin
      refine ⟨hin, ?_⟩
      simp only [AcpProtocol.step] at hstep
      split at hstep
      · cases hstep
        exact hbefore
      · cases hstep
  · obtain ⟨-, -, -, hstray⟩ := step_ext hstep
    rw [hstray hclient, settles_step hbefore hstep hclient]
    exact ⟨fun hboth => hboth.2, fun hin => ⟨hkept, hin⟩⟩

/-- Responses reach the caller that asked in a run exactly when no request registers too late. -/
theorem responsesRouted_throughout (actions : List (AcpAction Value)) :
    Throughout step ResponsesRouted (initial : AcpProtocol Value) actions ↔
      StepsMeet step InTime (initial : AcpProtocol Value) actions := by
  apply throughout_iff_stepsMeet (I := Sound)
  · exact fun _ _ _ hsound hstep => hsound.step hstep
  · exact fun _ _ _ hsound hrouted hstep => hsound.responsesRouted_step hrouted hstep
  · exact sound_initial
  · exact sound_initial.responsesRouted_iff.mpr ⟨rfl, fun h => by cases h⟩

/-- The input stream ends with nothing pending, and an extension request is made. -/
def requestAfterEnd : List (AcpAction Unit) :=
  [.handleTermination, .classifyTermination (some (.transport "ACP input stream ended")),
    .getAndSetExtPending, .emitClientProtocolError, .onTermination,
    .sendRequest 0 "x/request" none, .registerExt 0, .offerOutgoing 0]

/-- It waits for ever. -/
theorem not_responsesRouted_requestAfterEnd :
    ¬Throughout step ResponsesRouted (initial : AcpProtocol Unit) requestAfterEnd := by
  intro hrouted
  have hrun : (exec step (initial : AcpProtocol Unit) requestAfterEnd).map (fun state =>
      (state.stage, (state.ext.calls 0).stage, (state.ext.calls 0).late)) =
        some (.finished, .awaiting, true) := rfl
  obtain ⟨state, hexec, hstate⟩ := Option.map_eq_some_iff.mp hrun
  simp only [Prod.mk.injEq] at hstate
  obtain ⟨hfinished, hawaiting, hlate⟩ := hstate
  have hsound : state.Sound :=
    exec_invariant (fun _ _ _ hbefore hstep => Sound.step hbefore hstep) sound_initial hexec
  exact (hrouted.final hexec).settles hfinished 0
    ((hsound.stranded_iff hfinished).mpr ⟨hawaiting, hlate⟩)

end AcpProtocol

end GT3Code.Acp
