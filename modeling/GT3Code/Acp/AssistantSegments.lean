import GT3Code.Acp.SessionRuntime
import GT3Code.Base.FreshNames

/-! # Assistant segments

What reaches the queue is what the segment changes ask for, in the order of the changes, as long as
no event overtakes that of an earlier change.
-/

namespace GT3Code.Acp

open GT3Code.Base GT3Code.Contracts GT3Code.Gc

def AcpParsedSessionEvent.delta? : AcpParsedSessionEvent → Option String
  | .contentDelta _ text => some text
  | _ => none

def AcpMessage.chunk? : AcpMessage → Option String
  | .sessionUpdate notification =>
    match notification.update with
    | .agentMessageChunk text => text.filter fun text => text ≠ ""
    | _ => none
  | .promptResponse _ _ => none

def segmentEvents (events : List AcpParsedSessionEvent) : List (BracketEvent String) :=
  events.filterMap AcpParsedSessionEvent.segment?

def itemIds (events : List AcpParsedSessionEvent) : List String :=
  (segmentEvents events).filterMap BracketEvent.opened?

namespace AcpWorld

def keptChunks (world : AcpWorld) (count : Nat) : List String :=
  (List.range count).filterMap fun number =>
    if number ∈ world.skipped then none else (world.received[number]?).bind AcpMessage.chunk?

/-- The items are bracketed and every delta is of one; the deltas are the chunks of the messages
but for blank ones that came upon no open segment, the last message being still in the handler
maybe. -/
structure WellQueued (world : AcpWorld) : Prop where
  bracketed : Bracketed (segmentEvents world.events)
  identified : ∀ text, .contentDelta none text ∉ world.events
  deltas : ∃ count, count ≤ world.taken ∧ world.taken ≤ count + 1 ∧
    world.events.filterMap AcpParsedSessionEvent.delta? = world.keptChunks count
  blank : ∀ (number : Nat), number ∈ world.skipped → ∃ message text,
    world.received[number]? = some message ∧ message.chunk? = some text ∧ trim text = ""

end AcpWorld

namespace ThreadRuntimes

/-- The queue of each runtime is as it should be, and no runtime uses an item id of another. -/
structure SegmentsKept (state : ThreadRuntimes) : Prop where
  past : ∀ events ∈ state.past, Bracketed (segmentEvents events)
  current : state.current.view.world.WellQueued
  distinct : (state.past ++ [state.current.view.world.events]).Pairwise fun earlier later =>
    ∀ id ∈ itemIds later, id ∉ itemIds earlier

end ThreadRuntimes

/-- An event of a segment is queued when those of the changes before it were, and the segment that
is opened is of a session and number no earlier runtime has opened. -/
def inOrder (past : List (List AcpParsedSessionEvent)) :
    StepConditions AcpWorld AcpOp Unit PromptCall AcpExternal where
  call _ _ := True
  advance world op _ :=
    match op with
    | .offer event => ∀ segmentEvent, event.segment? = some segmentEvent →
        world.owed.head? = some segmentEvent
    | .ensureSegment sessionId => world.segment.activeItemId = none →
        ∀ events ∈ past, assistantItemId sessionId world.segment.nextSegmentIndex ∉ itemIds events
    | _ => True
  external _ _ := True
  interrupt _ _ := True

def ThreadRuntimes.InOrder (state : ThreadRuntimes) : ThreadAction → Prop
  | .runtime action => LoopSystem.Meets (inOrder state.past) state.current action
  | .resume _ => True

instance (past : List (List AcpParsedSessionEvent)) : ∀ world op,
    Decidable ((inOrder past).advance world op ())
  | world, .offer event =>
    match hsegment : event.segment? with
    | none => isTrue fun segmentEvent h => by
        rw [hsegment] at h
        cases h
    | some segmentEvent =>
      decidable_of_iff (world.owed.head? = some segmentEvent)
        ⟨fun h other hother => by
          cases hsegment.symm.trans hother
          exact h, fun h => h segmentEvent hsegment⟩
  | world, .ensureSegment sessionId => inferInstanceAs (Decidable
      (world.segment.activeItemId = none → ∀ events ∈ past,
        assistantItemId sessionId world.segment.nextSegmentIndex ∉ itemIds events))
  | _, .updateMode _ | _, .closeSegment | _, .getActiveItem _ | _, .modifyToolCalls _
  | _, .sendPrompt _ _ | _, .awaitPrompt _ | _, .completePrompt _ _ => isTrue trivial

instance : ∀ state action, Decidable (ThreadRuntimes.InOrder state action)
  | _, .runtime (.call _) => isTrue trivial
  | state, .runtime (.advance n _) => inferInstanceAs (Decidable (∀ op rest,
      state.current.processes[n]? = some (.ask op rest) →
        (inOrder state.past).advance state.current.view.world op ()))
  | _, .runtime (.external _) => isTrue trivial
  | _, .runtime (.take _) => isTrue trivial
  | _, .runtime (.interrupt _) => isTrue trivial
  | _, .resume _ => isTrue trivial

theorem assistantItemId_index {sessionId otherId : String} {index other : Nat}
    (h : assistantItemId sessionId index = assistantItemId otherId other) : index = other := by
  have hdigits : ∀ (sessionId : String) (index : Nat),
      (assistantItemId sessionId index).toList.reverse.takeWhile (fun c => c ≠ ':') =
        (toString index).toList.reverse := by
    intro sessionId index
    have hlist : (assistantItemId sessionId index).toList.reverse =
        (toString index).toList.reverse ++
          ':' :: ("assistant:" ++ sessionId ++ ":segment").toList.reverse := by
      simp [assistantItemId]
    rw [hlist, List.takeWhile_append_of_pos]
    · simp
    · intro c hc
      have hdigit : c.isDigit = true := by
        rw [List.mem_reverse, Nat.toString_eq_repr, Nat.toList_repr] at hc
        exact Nat.isDigit_of_mem_toDigits (by omega) (by omega) hc
      rw [decide_eq_true_eq]
      rintro rfl
      cases hdigit
  apply toString_injective
  have heq : (toString index).toList.reverse = (toString other).toList.reverse := by
    rw [← hdigits sessionId index, h, hdigits]
  exact String.toList_inj.mp (List.reverse_injective heq)

/-- The events queued and those still owed open, fill and close items in turn, the last of which is
the active one; its numbers are below the next and its ids new to the thread. -/
structure Ordered (past : List (List AcpParsedSessionEvent)) (world : AcpWorld) : Prop where
  brackets : ∃ used, exec Brackets.step Brackets.initial (segmentEvents world.events ++ world.owed) =
      some { active := world.segment.activeItemId, used := used } ∧
    (∀ id ∈ used, ∃ sessionId index, id = assistantItemId sessionId index ∧
      index < world.segment.nextSegmentIndex) ∧
    ∀ id ∈ used, ∀ events ∈ past, id ∉ itemIds events

namespace Ordered

variable {past : List (List AcpParsedSessionEvent)} {world : AcpWorld}

theorem owe {segmentEvent : BracketEvent String} {state : Brackets String} {used : List String}
    (h : exec Brackets.step Brackets.initial (segmentEvents world.events ++ world.owed) =
      some { active := world.segment.activeItemId, used := used })
    (hstep : Brackets.step { active := world.segment.activeItemId, used := used } segmentEvent =
      some state) :
    exec Brackets.step Brackets.initial
      (segmentEvents world.events ++ (world.owed ++ [segmentEvent])) = some state := by
  rw [← List.append_assoc, exec_append, h]
  show (Brackets.step _ segmentEvent).bind _ = some state
  rw [hstep]
  rfl

theorem closeSegment (h : Ordered past world) : Ordered past (world.after .closeSegment) := by
  obtain ⟨used, hexec, hindex, hnew⟩ := h.brackets
  refine ⟨used, ?_, hindex, hnew⟩
  cases hactive : world.segment.activeItemId with
  | none =>
    simp only [AcpWorld.after, hactive, Option.map_none, Option.toList_none, List.append_nil]
    rw [hexec, hactive]
  | some itemId =>
    simp only [AcpWorld.after, hactive, Option.map_some, Option.toList_some]
    exact owe hexec (Brackets.step_closed hactive)

theorem ensureSegment {sessionId : String} (h : Ordered past world)
    (hmeets : world.segment.activeItemId = none → ∀ events ∈ past,
      assistantItemId sessionId world.segment.nextSegmentIndex ∉ itemIds events) :
    Ordered past (world.after (.ensureSegment sessionId)) := by
  obtain ⟨used, hexec, hindex, hnew⟩ := h.brackets
  cases hactive : world.segment.activeItemId with
  | some itemId =>
    simp only [AcpWorld.after, AcpWorld.ensured, hactive]
    refine ⟨used, ?_, hindex, hnew⟩
    have hstep := owe hexec (Brackets.step_within hactive)
    exact hstep
  | none =>
    simp only [AcpWorld.after, AcpWorld.ensured, hactive]
    refine ⟨used ++ [assistantItemId sessionId world.segment.nextSegmentIndex], ?_, ?_, ?_⟩
    · have hunused : assistantItemId sessionId world.segment.nextSegmentIndex ∉ used := by
        intro hmem
        obtain ⟨otherId, other, heq, hlt⟩ := hindex _ hmem
        have hsame := assistantItemId_index heq
        omega
      rw [← List.append_assoc, exec_append, hexec]
      show (Brackets.step _ _).bind _ = _
      rw [Brackets.step_opened hactive hunused]
      show (Brackets.step _ _).bind _ = _
      rw [Brackets.step_within rfl]
      rfl
    · intro id hid
      rcases List.mem_append.mp hid with hid | hid
      · obtain ⟨otherId, other, heq, hlt⟩ := hindex id hid
        exact ⟨otherId, other, heq, Nat.lt_succ_of_lt hlt⟩
      · exact ⟨sessionId, _, List.mem_singleton.mp hid, Nat.lt_succ_self _⟩
    · intro id hid
      rcases List.mem_append.mp hid with hid | hid
      · exact hnew id hid
      · obtain rfl := List.mem_singleton.mp hid
        exact hmeets hactive

theorem offer {event : AcpParsedSessionEvent} (h : Ordered past world)
    (hmeets : ∀ segmentEvent, event.segment? = some segmentEvent →
      world.owed.head? = some segmentEvent) : Ordered past (world.after (.offer event)) := by
  obtain ⟨used, hexec, hindex, hnew⟩ := h.brackets
  refine ⟨used, Eq.trans ?_ hexec, hindex, hnew⟩
  apply congrArg
  cases hsegment : event.segment? with
  | none =>
    simp only [AcpWorld.after, hsegment, segmentEvents, List.filterMap_append, List.filterMap_cons,
      List.filterMap_nil, List.append_nil]
  | some segmentEvent =>
    obtain ⟨rest, howed⟩ := List.head?_eq_some_iff.mp (hmeets segmentEvent hsegment)
    simp only [AcpWorld.after, hsegment, segmentEvents, List.filterMap_append, List.filterMap_cons,
      List.filterMap_nil, howed, List.erase_cons_head, List.append_assoc, List.cons_append,
      List.nil_append]

theorem after {op : AcpOp} (h : Ordered past world) (hmeets : (inOrder past).advance world op ()) :
    Ordered past (world.after op) := by
  cases op with
  | closeSegment => exact h.closeSegment
  | ensureSegment sessionId => exact h.ensureSegment hmeets
  | offer event => exact h.offer hmeets
  | getActiveItem number =>
    simp only [AcpWorld.after]
    split
    · exact ⟨h.brackets⟩
    · exact h
  | updateMode | modifyToolCalls | sendPrompt | completePrompt => exact ⟨h.brackets⟩
  | awaitPrompt number => exact h

theorem bracketed (h : Ordered past world) : Bracketed (segmentEvents world.events) := by
  obtain ⟨used, hexec, -⟩ := h.brackets
  exact Bracketed.of_append ⟨_, hexec⟩

theorem distinct (h : Ordered past world) {events : List AcpParsedSessionEvent}
    (hevents : events ∈ past) {id : String} (hid : id ∈ itemIds world.events) :
    id ∉ itemIds events := by
  obtain ⟨used, hexec, -, hnew⟩ := h.brackets
  apply hnew id _ events hevents
  have hused := Brackets.used_of_exec hexec
  rw [List.filterMap_append] at hused
  rw [show used = [] ++ (itemIds world.events ++ world.owed.filterMap BracketEvent.opened?) from hused]
  exact List.mem_append_right _ (List.mem_append_left _ hid)

end Ordered

/-! ## The fibers -/

-- What a program does next is not looked for in the text of a chunk.
attribute [local irreducible] trim

/-- The read loop handles an update, the delta of whose chunk is still to be queued maybe, or a
response. -/
inductive RuntimeFiber where
  | idle
  | prompting
  | handling (number : Nat) (chunk : Option String)
  | responding (prompt : Nat)

namespace RuntimeFiber

def allowed : RuntimeFiber → AcpOp → Prop
  | .idle, _ => False
  | .prompting, op =>
    match op with
    | .closeSegment | .sendPrompt _ _ | .awaitPrompt _ => True
    | .offer event => ∃ itemId, event = .assistantItemCompleted itemId
    | _ => False
  | .handling number chunk, op =>
    match op with
    | .updateMode _ | .closeSegment | .ensureSegment _ | .modifyToolCalls _ => True
    | .getActiveItem other => other = number ∧ ∃ text, chunk = some text ∧ trim text = ""
    | .offer event => ∀ itemId text, event = .contentDelta itemId text →
        itemId ≠ none ∧ chunk = some text
    | _ => False
  | .responding prompt, op =>
    match op with
    | .completePrompt number _ => number = prompt
    | _ => False

def next : RuntimeFiber → (op : AcpOp) → op.Result → RuntimeFiber
  | .handling number _, .getActiveItem _, none => .handling number none
  | .handling number _, .offer (.contentDelta _ _), _ => .handling number none
  | fiber, _, _ => fiber

def ended : RuntimeFiber → Prop
  | .handling _ chunk => chunk = none
  | _ => True

def ofMessage (number : Nat) : AcpMessage → RuntimeFiber
  | .sessionUpdate notification => .handling number (AcpMessage.sessionUpdate notification).chunk?
  | .promptResponse prompt _ => .responding prompt

end RuntimeFiber

def runtimeFibers : Typestate AcpOp AcpOp.Result RuntimeFiber where
  allowed := RuntimeFiber.allowed
  next := RuntimeFiber.next
  idle := .idle
  ended := RuntimeFiber.ended
  ended_idle := trivial

variable {ε : String → RuntimeFiber → Prop}

theorem closeActiveAssistantSegment_follows (fiber : RuntimeFiber)
    (hfiber : fiber.allowed .closeSegment) :
    runtimeFibers.Follows (fun _ after => after = fiber) ε closeActiveAssistantSegment fiber := by
  cases fiber with
  | idle => cases hfiber
  | responding prompt => cases hfiber
  | prompting =>
    refine ⟨trivial, fun active => ?_⟩
    cases active with
    | some itemId => exact ⟨⟨itemId, rfl⟩, fun _ => rfl⟩
    | none => exact rfl
  | handling number chunk =>
    refine ⟨trivial, fun active => ?_⟩
    cases active with
    | some itemId => exact ⟨nofun, fun _ => rfl⟩
    | none => exact rfl

theorem prompt_follows (sessionId : String) (payload : List Json) :
    runtimeFibers.Follows (fun _ fiber => fiber = .prompting) (fun _ fiber => fiber = .prompting)
      (prompt sessionId payload) .prompting := by
  apply Typestate.Follows.bind (closeActiveAssistantSegment_follows .prompting trivial)
  rintro _ _ rfl
  refine ⟨trivial, fun number => ⟨trivial, fun exit => ?_⟩⟩
  cases exit with
  | error error => exact rfl
  | ok stopReason =>
    apply Typestate.Follows.bind (closeActiveAssistantSegment_follows .prompting trivial)
    rintro _ _ rfl
    exact rfl

theorem promptProgram_runs (sessionId : String) (call : PromptCall) :
    runtimeFibers.Runs (promptProgram sessionId call) .prompting := by
  apply Typestate.Follows.bind ((prompt_follows sessionId call.payload).imp (fun _ _ h => h) ?_)
  · rintro _ _ rfl
    trivial
  · rintro _ _ rfl
    trivial

section Handler

variable {number : Nat} {sessionId text : String}

theorem offerDelta_follows :
    runtimeFibers.Follows (fun _ fiber => fiber = .handling number none) ε
      (offerDelta sessionId text) (.handling number (some text)) := by
  have hdelta : ∀ itemId, runtimeFibers.Follows (fun _ fiber => fiber = .handling number none) ε
      (perform (.offer (.contentDelta (some itemId) text))) (.handling number (some text)) := by
    intro itemId
    refine ⟨fun other otherText heq => ?_, fun _ => rfl⟩
    cases heq
    exact ⟨nofun, rfl⟩
  refine ⟨trivial, fun ensured => ?_⟩
  obtain ⟨itemId, started⟩ := ensured
  cases started with
  | true => exact ⟨nofun, fun _ => hdelta itemId⟩
  | false => exact hdelta itemId

theorem handleChunk_follows :
    runtimeFibers.Follows (fun _ fiber => fiber = .handling number none) ε
      (handleChunk number sessionId text) (.handling number (some text)) := by
  unfold handleChunk
  by_cases hblank : trim text = ""
  · rw [if_pos hblank]
    refine ⟨⟨rfl, text, rfl, hblank⟩, fun active => ?_⟩
    cases active with
    | none => exact rfl
    | some itemId => exact offerDelta_follows
  · rw [if_neg hblank]
    exact offerDelta_follows

theorem offerToolCall_follows (previous : Option AcpToolCallState) (merged : AcpToolCallState) :
    runtimeFibers.Follows (fun _ fiber => fiber = .handling number none) ε
      (offerToolCall previous merged) (.handling number none) := by
  unfold offerToolCall
  cases shouldEmitToolCallUpdate previous merged with
  | true => exact ⟨nofun, fun _ => rfl⟩
  | false => exact rfl

theorem handleToolCall_follows (toolCall : AcpToolCallState) :
    runtimeFibers.Follows (fun _ fiber => fiber = .handling number none) ε
      (handleToolCall toolCall) (.handling number none) := by
  apply Typestate.Follows.bind (closeActiveAssistantSegment_follows (.handling number none) trivial)
  rintro _ _ rfl
  exact ⟨trivial, fun merged => offerToolCall_follows merged.1 merged.2⟩

theorem offerEvents_follows {events : List AcpParsedSessionEvent}
    (h : events = [] ∨ ∃ event, events = [event] ∧ event.delta? = none ∧
      handleEvent number sessionId event = perform (.offer event)) :
    runtimeFibers.Follows (fun _ fiber => fiber = .handling number none) ε
      (Process.forEach events (handleEvent number sessionId)) (.handling number none) := by
  rcases h with rfl | ⟨event, rfl, hdelta, hevent⟩
  · exact rfl
  · have hoffer : runtimeFibers.Follows (fun _ fiber => fiber = .handling number none) ε
        (handleEvent number sessionId event) (.handling number none) := by
      rw [hevent]
      refine ⟨fun itemId text heq => ?_, fun _ => ?_⟩
      · rw [heq] at hdelta
        cases hdelta
      · cases event <;> rfl
    apply Typestate.Follows.bind hoffer
    rintro _ _ rfl
    exact rfl

theorem handleEvents_follows (update : SessionUpdate) :
    runtimeFibers.Follows (fun _ fiber => fiber = .handling number none) ε
      (Process.forEach (parseSessionUpdateEvent update).2 (handleEvent number sessionId))
      (.handling number (AcpMessage.sessionUpdate ⟨sessionId, update⟩).chunk?) := by
  cases update with
  | currentModeUpdate currentModeId =>
    apply offerEvents_follows
    by_cases hblank : trim currentModeId = ""
    · exact Or.inl (if_pos hblank)
    · exact Or.inr ⟨_, if_neg hblank, rfl, rfl⟩
  | plan entries =>
    apply offerEvents_follows
    by_cases hempty : entries = []
    · exact Or.inl (if_pos hempty)
    · exact Or.inr ⟨_, if_neg hempty, rfl, rfl⟩
  | toolCall toolCall =>
    cases toolCall with
    | none => exact rfl
    | some toolCall =>
      apply Typestate.Follows.bind (handleToolCall_follows toolCall)
      rintro _ _ rfl
      exact rfl
  | agentMessageChunk text =>
    simp only [parseSessionUpdateEvent, AcpMessage.chunk?]
    cases text.filter fun text => text ≠ "" with
    | none => exact rfl
    | some text =>
      apply Typestate.Follows.bind handleChunk_follows
      rintro _ _ rfl
      exact rfl
  | other => exact rfl

theorem handleSessionUpdate_runs (notification : SessionNotification) :
    runtimeFibers.Runs (handleSessionUpdate number notification)
      (.ofMessage number (.sessionUpdate notification)) := by
  obtain ⟨sessionId, update⟩ := notification
  have hmode : runtimeFibers.Follows
      (fun _ fiber => fiber = .handling number
        (AcpMessage.sessionUpdate ⟨sessionId, update⟩).chunk?) (fun _ => runtimeFibers.ended)
      (handleMode (parseSessionUpdateEvent update).1)
      (.handling number (AcpMessage.sessionUpdate ⟨sessionId, update⟩).chunk?) := by
    unfold handleMode
    split
    · exact ⟨trivial, fun _ => rfl⟩
    · exact rfl
  apply Typestate.Follows.bind hmode
  rintro _ _ rfl
  apply (handleEvents_follows update).imp
  · rintro _ _ rfl
    exact rfl
  · exact fun _ _ h => h

theorem routeMessage_runs (message : AcpMessage) :
    runtimeFibers.Runs (routeMessage number message) (.ofMessage number message) := by
  cases message with
  | promptResponse prompt exit => exact ⟨rfl, fun _ => trivial⟩
  | sessionUpdate notification => exact handleSessionUpdate_runs notification

end Handler

/-! ## The chunks -/

namespace AcpWorld

variable {world next : AcpWorld}

theorem keptChunks_succ (count : Nat) : world.keptChunks (count + 1) =
    world.keptChunks count ++ (if count ∈ world.skipped then none
      else (world.received[count]?).bind AcpMessage.chunk?).toList := by
  unfold keptChunks
  rw [List.range_succ, List.filterMap_append]
  congr 1

theorem keptChunks_congr {count : Nat}
    (hreceived : ∀ number, number < count → next.received[number]? = world.received[number]?)
    (hskipped : ∀ number, number < count → (number ∈ next.skipped ↔ number ∈ world.skipped)) :
    next.keptChunks count = world.keptChunks count := by
  unfold keptChunks
  apply List.filterMap_congr
  intro number hnumber
  have hlt : number < count := List.mem_range.mp hnumber
  simp only [hreceived number hlt, hskipped number hlt]

end AcpWorld

/-- The read loop, if it is not between two messages, handles the last one taken; the deltas queued
are the chunks of the messages before it, and its own where that was queued or skipped. -/
structure Delivered (world : AcpWorld) (states : Nat → RuntimeFiber) : Prop where
  prompting : ∀ n, n ≠ 0 → states n = .idle ∨ states n = .prompting
  loop : states 0 ≠ .prompting
  handling : ∀ number chunk, states 0 = .handling number chunk → world.taken = number + 1 ∧
    ∀ text, chunk = some text →
      (world.received[number]?).bind AcpMessage.chunk? = some text ∧ number ∉ world.skipped ∧
      world.events.filterMap AcpParsedSessionEvent.delta? = world.keptChunks number
  deltas : (∀ number text, states 0 ≠ .handling number (some text)) →
    world.events.filterMap AcpParsedSessionEvent.delta? = world.keptChunks world.taken
  taken : world.taken ≤ world.received.length
  skipped : ∀ number ∈ world.skipped, number < world.taken
  identified : ∀ text, .contentDelta none text ∉ world.events
  blank : ∀ (number : Nat), number ∈ world.skipped → ∃ message text,
    world.received[number]? = some message ∧ message.chunk? = some text ∧ trim text = ""

namespace Delivered

variable {world next : AcpWorld} {states : Nat → RuntimeFiber}

structure Same (world next : AcpWorld) : Prop where
  received : next.received = world.received
  taken : next.taken = world.taken
  skipped : next.skipped = world.skipped
  deltas : next.events.filterMap AcpParsedSessionEvent.delta? =
    world.events.filterMap AcpParsedSessionEvent.delta?
  identified : (∀ text, .contentDelta none text ∉ world.events) →
    ∀ text, .contentDelta none text ∉ next.events

theorem keptChunks_same (h : Same world next) (count : Nat) :
    next.keptChunks count = world.keptChunks count := by
  apply AcpWorld.keptChunks_congr
  · intro number _
    rw [h.received]
  · intro number _
    rw [h.skipped]

theorem congr (h : Delivered world states) (hsame : Same world next) : Delivered next states where
  prompting := h.prompting
  loop := h.loop
  handling number chunk hstate := by
    obtain ⟨htaken, hchunk⟩ := h.handling number chunk hstate
    rw [hsame.taken]
    refine ⟨htaken, fun text htext => ?_⟩
    rw [hsame.received, hsame.skipped, hsame.deltas, keptChunks_same hsame]
    exact hchunk text htext
  deltas hnone := by
    rw [hsame.deltas, hsame.taken, keptChunks_same hsame]
    exact h.deltas hnone
  taken := by
    rw [hsame.taken, hsame.received]
    exact h.taken
  skipped := by
    rw [hsame.taken, hsame.skipped]
    exact h.skipped
  identified := hsame.identified h.identified
  blank := by
    rw [hsame.received, hsame.skipped]
    exact h.blank

variable {n : Nat} {op : AcpOp}

theorem update_prompt {fiber : RuntimeFiber} (h : Delivered world states) (hn : n ≠ 0)
    (hfiber : fiber = .idle ∨ fiber = .prompting) :
    Delivered world (Function.update states n fiber) := by
  have hzero : Function.update states n fiber 0 = states 0 :=
    Function.update_of_ne (Ne.symm hn) _ _
  refine ⟨?_, ?_, ?_, ?_, h.taken, h.skipped, h.identified, h.blank⟩
  · intro m hm
    by_cases hmn : m = n
    · subst hmn
      rwa [Function.update_self]
    · rw [Function.update_of_ne hmn]
      exact h.prompting m hm
  · rw [hzero]
    exact h.loop
  · rw [hzero]
    exact h.handling
  · rw [hzero]
    exact h.deltas

variable {number : Nat} {text : String}

theorem handled (h : Delivered world states) (hstate : states 0 = .handling number (some text))
    (hreceived : next.received = world.received) (htaken : next.taken = world.taken)
    (hskipped : ∀ other ∈ next.skipped, other ∈ world.skipped ∨ (other = number ∧ trim text = ""))
    (hidentified : ∀ text, .contentDelta none text ∉ next.events)
    (hdeltas : next.events.filterMap AcpParsedSessionEvent.delta? = next.keptChunks (number + 1)) :
    Delivered next (Function.update states 0 (.handling number none)) := by
  obtain ⟨hnumber, hhandling⟩ := h.handling number (some text) hstate
  obtain ⟨hchunk, -, -⟩ := hhandling text rfl
  refine ⟨?_, ?_, ?_, ?_, ?_, ?_, hidentified, ?_⟩
  · intro m hm
    rw [Function.update_of_ne hm]
    exact h.prompting m hm
  · rw [Function.update_self]
    exact nofun
  · intro other chunk hother
    rw [Function.update_self] at hother
    cases hother
    exact ⟨htaken.trans hnumber, nofun⟩
  · intro _
    rw [hdeltas, htaken, hnumber]
  · rw [htaken, hreceived]
    exact h.taken
  · intro other hother
    rw [htaken]
    rcases hskipped other hother with hold | ⟨rfl, -⟩
    · exact h.skipped other hold
    · omega
  · intro other hother
    rw [hreceived]
    rcases hskipped other hother with hold | ⟨rfl, hblank⟩
    · exact h.blank other hold
    · obtain ⟨message, hmessage, htext⟩ := Option.bind_eq_some_iff.mp hchunk
      exact ⟨message, text, hmessage, htext, hblank⟩

theorem same_after (hoffer : ∀ itemId text, op ≠ .offer (.contentDelta itemId text))
    (hactive : ∀ number, op ≠ .getActiveItem number) : Same world (world.after op) := by
  cases op with
  | ensureSegment sessionId =>
    simp only [AcpWorld.after]
    split <;> exact ⟨rfl, rfl, rfl, rfl, id⟩
  | getActiveItem number => exact absurd rfl (hactive number)
  | offer event =>
    refine ⟨rfl, rfl, rfl, ?_, ?_⟩
    · simp only [AcpWorld.after, List.filterMap_append]
      cases event with
      | contentDelta itemId text => exact absurd rfl (hoffer itemId text)
      | _ => exact List.append_nil _
    · intro hnone text hmem
      rcases List.mem_append.mp hmem with hmem | hmem
      · exact hnone text hmem
      · cases List.mem_singleton.mp hmem
        exact hoffer none text rfl
  | _ => exact ⟨rfl, rfl, rfl, rfl, id⟩

theorem offerDelta {itemId : String} (h : Delivered world states)
    (hstate : states 0 = .handling number (some text)) :
    Delivered (world.after (.offer (.contentDelta (some itemId) text)))
      (Function.update states 0 (.handling number none)) := by
  obtain ⟨hchunk, hskipped, hdeltas⟩ := (h.handling number (some text) hstate).2 text rfl
  apply h.handled hstate
  · rfl
  · rfl
  · exact fun other hother => Or.inl hother
  · intro otherText hmem
    rcases List.mem_append.mp hmem with hmem | hmem
    · exact h.identified otherText hmem
    · cases List.mem_singleton.mp hmem
  · rw [AcpWorld.keptChunks_succ]
    show (world.events ++ [_]).filterMap _ = world.keptChunks number ++
      (if number ∈ world.skipped then none else (world.received[number]?).bind _).toList
    rw [List.filterMap_append, hdeltas, if_neg hskipped, hchunk]
    rfl

theorem skip (h : Delivered world states) (hstate : states 0 = .handling number (some text))
    (hblank : trim text = "") : Delivered { world with skipped := number :: world.skipped }
      (Function.update states 0 (.handling number none)) := by
  obtain ⟨-, -, hdeltas⟩ := (h.handling number (some text) hstate).2 text rfl
  apply h.handled hstate
  · rfl
  · rfl
  · intro other hother
    rcases List.mem_cons.mp hother with rfl | hother
    · exact Or.inr ⟨rfl, hblank⟩
    · exact Or.inl hother
  · exact h.identified
  · rw [AcpWorld.keptChunks_succ, if_pos List.mem_cons_self]
    show world.events.filterMap _ = _ ++ []
    rw [List.append_nil, hdeltas]
    symm
    apply AcpWorld.keptChunks_congr
    · exact fun _ _ => rfl
    · intro other hlt
      have hne : other ≠ number := by omega
      simp [hne]

theorem advance {res : op.Result} (h : Delivered world states) (hallowed : (states n).allowed op)
    (hres : world.result op = some res) :
    Delivered (world.after op) (Function.update states n ((states n).next op res)) := by
  by_cases hn : n = 0
  · subst hn
    have hstays : (∀ itemId text, op ≠ .offer (.contentDelta itemId text)) →
        (∀ number, op ≠ .getActiveItem number) → (states 0).next op res = states 0 →
        Delivered (world.after op) (Function.update states 0 ((states 0).next op res)) := by
      intro hoffer hactive hnext
      rw [hnext, Function.update_eq_self]
      exact h.congr (same_after hoffer hactive)
    cases hstate : states 0 with
    | idle =>
      rw [hstate] at hallowed
      cases hallowed
    | prompting => exact absurd hstate h.loop
    | responding prompt =>
      rw [hstate] at hallowed hstays
      cases op with
      | completePrompt number exit =>
        exact hstays nofun nofun rfl
      | _ => cases hallowed
    | handling number chunk =>
      rw [hstate] at hallowed hstays
      cases op with
      | getActiveItem other =>
        obtain ⟨rfl, text, rfl, hblank⟩ := hallowed
        obtain rfl := Option.some.inj hres
        simp only [AcpWorld.after]
        cases hactive : world.segment.activeItemId with
        | none => exact h.skip hstate hblank
        | some itemId =>
          show Delivered world (Function.update states 0 (.handling other (some text)))
          rw [← hstate, Function.update_eq_self]
          exact h
      | offer event =>
        cases event with
        | contentDelta itemId text =>
          obtain ⟨hitem, rfl⟩ := hallowed itemId text rfl
          cases itemId with
          | none => exact absurd rfl hitem
          | some itemId => exact h.offerDelta hstate
        | _ => exact hstays nofun nofun rfl
      | _ => exact hstays nofun nofun rfl
  · rcases h.prompting n hn with hidle | hprompting
    · rw [hidle] at hallowed
      cases hallowed
    · rw [hprompting] at hallowed ⊢
      have hoffer : ∀ itemId text, op ≠ .offer (.contentDelta itemId text) := by
        rintro itemId text rfl
        obtain ⟨other, heq⟩ := hallowed
        cases heq
      have hactive : ∀ number, op ≠ .getActiveItem number := by
        rintro number rfl
        cases hallowed
      have hnext : RuntimeFiber.prompting.next op res = .prompting := by cases op <;> rfl
      rw [hnext]
      exact (h.congr (same_after hoffer hactive)).update_prompt hn (Or.inr rfl)

theorem take {message : AcpMessage} (h : Delivered world states) (hended : (states 0).ended)
    (hmessage : world.received[world.taken]? = some message) :
    Delivered { world with taken := world.taken + 1 }
      (Function.update states 0 (.ofMessage world.taken message)) := by
  have hlt : world.taken < world.received.length := (List.getElem?_eq_some_iff.mp hmessage).1
  have hnew : world.taken ∉ world.skipped := fun hmem => Nat.lt_irrefl _ (h.skipped _ hmem)
  have hdeltas : world.events.filterMap AcpParsedSessionEvent.delta? =
      world.keptChunks world.taken := by
    apply h.deltas
    intro number text hstate
    rw [hstate] at hended
    cases hended
  refine ⟨?_, ?_, ?_, ?_, hlt, ?_, h.identified, h.blank⟩
  · intro m hm
    rw [Function.update_of_ne hm]
    exact h.prompting m hm
  · rw [Function.update_self]
    cases message <;> exact nofun
  · intro number chunk hstate
    rw [Function.update_self] at hstate
    cases message with
    | promptResponse prompt exit => cases hstate
    | sessionUpdate notification =>
      cases hstate
      refine ⟨rfl, fun text htext => ⟨?_, hnew, hdeltas⟩⟩
      show (world.received[world.taken]?).bind _ = _
      rw [hmessage]
      exact htext
  · intro hnone
    have hchunk : message.chunk? = none := by
      cases message with
      | promptResponse prompt exit => rfl
      | sessionUpdate notification =>
        cases hsome : (AcpMessage.sessionUpdate notification).chunk? with
        | none => rfl
        | some text =>
          apply absurd _ (hnone world.taken text)
          rw [Function.update_self, ← hsome]
          rfl
    show world.events.filterMap _ = AcpWorld.keptChunks _ (world.taken + 1)
    rw [AcpWorld.keptChunks_succ]
    show _ = world.keptChunks world.taken ++
      (if world.taken ∈ world.skipped then none else (world.received[world.taken]?).bind _).toList
    rw [if_neg hnew, hmessage]
    show _ = _ ++ (message.chunk?).toList
    rw [hchunk, hdeltas]
    exact (List.append_nil _).symm
  · intro number hmem
    exact Nat.lt_succ_of_lt (h.skipped number hmem)

theorem receive {message : AcpMessage} (h : Delivered world states) :
    Delivered { world with received := world.received ++ [message] } states := by
  have hbelow : ∀ number, number < world.taken →
      (world.received ++ [message])[number]? = world.received[number]? := by
    intro number hlt
    exact List.getElem?_append_left (Nat.lt_of_lt_of_le hlt h.taken)
  have hkept : ∀ count, count ≤ world.taken →
      AcpWorld.keptChunks { world with received := world.received ++ [message] } count =
        world.keptChunks count := by
    intro count hcount
    apply AcpWorld.keptChunks_congr
    · exact fun number hlt => hbelow number (Nat.lt_of_lt_of_le hlt hcount)
    · exact fun _ _ => Iff.rfl
  refine ⟨h.prompting, h.loop, ?_, ?_, ?_, h.skipped, h.identified, ?_⟩
  · intro number chunk hstate
    obtain ⟨htaken, hchunk⟩ := h.handling number chunk hstate
    refine ⟨htaken, fun text htext => ?_⟩
    obtain ⟨hsome, hskipped, hdeltas⟩ := hchunk text htext
    rw [hkept number (by omega)]
    refine ⟨?_, hskipped, hdeltas⟩
    rw [hbelow number (by omega)]
    exact hsome
  · intro hnone
    show world.events.filterMap _ = AcpWorld.keptChunks _ world.taken
    rw [hkept _ (Nat.le_refl _)]
    exact h.deltas hnone
  · have htaken := h.taken
    simp only [List.length_append, List.length_singleton]
    omega
  · intro number hmem
    rw [hbelow number (h.skipped number hmem)]
    exact h.blank number hmem

end Delivered

/-- The two invariants of a runtime whose thread had the given queues before. -/
structure Segmented (past : List (List AcpParsedSessionEvent)) (world : AcpWorld)
    (states : Nat → RuntimeFiber) : Prop where
  ordered : Ordered past world
  delivered : Delivered world states

theorem segmented_initial (past : List (List AcpParsedSessionEvent))
    (modeState : Option AcpSessionModeState) :
    Segmented past (.initial modeState) fun _ => .idle where
  ordered := ⟨⟨[], rfl, nofun, nofun⟩⟩
  delivered :=
    { prompting := fun _ _ => Or.inl rfl
      loop := nofun
      handling := nofun
      deltas := fun _ => rfl
      taken := Nat.le_refl 0
      skipped := nofun
      identified := nofun
      blank := fun _ hmem => by cases hmem }

theorem segmented_keeps (sessionId : String) (past : List (List AcpParsedSessionEvent)) :
    LoopSystem.Keeps (acpRuntime sessionId) runtimeFibers (Segmented past) (inOrder past) where
  start world states n call hcall hn h hidle :=
    ⟨.prompting, promptProgram_runs sessionId call, h.ordered,
      h.delivered.update_prompt (Nat.ne_of_gt hn) (Or.inr rfl)⟩
  advance world states n op _ res next h hallowed hmeets hanswer := by
    obtain ⟨hres, rfl⟩ := AcpWorld.of_answer hanswer
    exact ⟨h.ordered.after hmeets, h.delivered.advance hallowed hres⟩
  external world states event next h _ hexternal := by
    cases event with
    | receive message =>
      simp only [acpRuntime, acpExternal] at hexternal
      split at hexternal
      · cases hexternal
        exact ⟨⟨h.ordered.brackets⟩, h.delivered.receive⟩
      · cases hexternal
  take world states n process next hn h hended htake := by
    obtain ⟨message, hmessage, heq⟩ := Option.map_eq_some_iff.mp htake
    cases heq
    obtain rfl : n = 0 := by
      have hlt : n < 1 := hn
      omega
    exact ⟨_, routeMessage_runs message, ⟨h.ordered.brackets⟩, h.delivered.take hended hmessage⟩
  interrupt world states n op hn h _ hinterrupts _ := by
    cases hinterrupts

theorem Segmented.wellQueued {past : List (List AcpParsedSessionEvent)} {world : AcpWorld}
    {states : Nat → RuntimeFiber} (h : Segmented past world states) : world.WellQueued where
  bracketed := h.ordered.bracketed
  identified := h.delivered.identified
  deltas := by
    by_cases hhandling : ∃ number text, states 0 = .handling number (some text)
    · obtain ⟨number, text, hstate⟩ := hhandling
      obtain ⟨htaken, hchunk⟩ := h.delivered.handling number (some text) hstate
      exact ⟨number, by omega, by omega, (hchunk text rfl).2.2⟩
    · refine ⟨world.taken, Nat.le_refl _, Nat.le_succ _, h.delivered.deltas ?_⟩
      exact fun number text hstate => hhandling ⟨number, text, hstate⟩
  blank := h.delivered.blank

namespace ThreadRuntimes

/-- The runtimes that went before are as they should be, and the one that runs keeps to what they
have left. -/
structure Sound (sessionId : String) (state : ThreadRuntimes) : Prop where
  past : ∀ events ∈ state.past, Bracketed (segmentEvents events)
  distinct : state.past.Pairwise fun earlier later => ∀ id ∈ itemIds later, id ∉ itemIds earlier
  current : ∃ states, LoopSystem.Typed (acpRuntime sessionId) runtimeFibers (Segmented state.past)
    state.current states

variable {sessionId : String} {state next : ThreadRuntimes}

theorem Sound.segmentsKept (h : state.Sound sessionId) : state.SegmentsKept := by
  obtain ⟨states, htyped⟩ := h.current
  have hsegmented : Segmented state.past state.current.view.world states := htyped.inv
  refine ⟨h.past, hsegmented.wellQueued, ?_⟩
  rw [List.pairwise_append]
  refine ⟨h.distinct, List.pairwise_singleton _ _, ?_⟩
  intro earlier hearlier later hlater id hid
  obtain rfl := List.mem_singleton.mp hlater
  exact hsegmented.ordered.distinct hearlier hid

theorem Sound.step {action : ThreadAction} (h : state.Sound sessionId)
    (hmeets : state.InOrder action) (hstep : step sessionId state action = some next) :
    next.Sound sessionId := by
  cases action with
  | runtime action =>
    obtain ⟨current, hcurrent, rfl⟩ := Option.map_eq_some_iff.mp hstep
    obtain ⟨states, htyped⟩ := h.current
    exact ⟨h.past, h.distinct, htyped.step (segmented_keeps sessionId state.past).keepsForks hmeets
      hcurrent⟩
  | resume modeState =>
    obtain rfl := Option.some.inj hstep
    have hkept := h.segmentsKept
    refine ⟨?_, hkept.distinct, _, LoopSystem.typed_initial (segmented_initial _ modeState)⟩
    intro events hevents
    rcases List.mem_append.mp hevents with hevents | hevents
    · exact h.past events hevents
    · obtain rfl := List.mem_singleton.mp hevents
      exact hkept.current.bracketed

end ThreadRuntimes

/-- In the runs in which no event of a segment overtakes that of an earlier change and no runtime
opens a segment an earlier one has opened, the queues have the segments as they should be. -/
theorem segmentsKept_throughout (sessionId : String) (modeState : Option AcpSessionModeState)
    (actions : List ThreadAction)
    (hmeet : StepsMeet (ThreadRuntimes.step sessionId) ThreadRuntimes.InOrder
      (ThreadRuntimes.initial sessionId modeState) actions) :
    Throughout (ThreadRuntimes.step sessionId) ThreadRuntimes.SegmentsKept
      (ThreadRuntimes.initial sessionId modeState) actions := by
  have hinitial : (ThreadRuntimes.initial sessionId modeState).Sound sessionId :=
    ⟨nofun, List.Pairwise.nil, _,
      LoopSystem.typed_initial (segmented_initial [] modeState)⟩
  have hsound : Throughout (ThreadRuntimes.step sessionId) (fun state => state.Sound sessionId)
      (ThreadRuntimes.initial sessionId modeState) actions :=
    throughout_of_stepsMeet (fun _ _ _ h hcondition hstep => h.step hcondition hstep) hinitial hmeet
  exact hsound.imp fun _ h => h.segmentsKept

def writes (text : String) : List ThreadAction :=
  ([.external (.receive (.sessionUpdate
      { sessionId := "session", update := .agentMessageChunk (some text) })),
    .take 0, .advance 0 (), .advance 0 (), .advance 0 ()] : List RuntimeAction).map .runtime

theorem not_segmentsKept_throughout :
    ¬ ∀ (sessionId : String) (modeState : Option AcpSessionModeState) (actions : List ThreadAction),
      Throughout (ThreadRuntimes.step sessionId) ThreadRuntimes.SegmentsKept
        (ThreadRuntimes.initial sessionId modeState) actions := by
  intro h
  have hreached : (exec (ThreadRuntimes.step "session") (ThreadRuntimes.initial "session" none)
      (writes "one" ++ [.resume none] ++ writes "two")).map
      (fun state => (state.past.map itemIds, itemIds state.current.view.world.events)) =
      some ([["assistant:session:segment:0"]], ["assistant:session:segment:0"]) := by
    decide +kernel
  obtain ⟨final, hfinal, hids⟩ := Option.map_eq_some_iff.mp hreached
  obtain ⟨hpast, hcurrent⟩ := Prod.mk.inj hids
  obtain ⟨events, hevents, hfirst⟩ := List.map_eq_singleton_iff.mp hpast
  have hkept := (h _ _ _).final hfinal
  have hdistinct := (List.pairwise_append.mp hkept.distinct).2.2 events
    (hevents ▸ List.mem_singleton_self events) _ (List.mem_singleton_self _)
    "assistant:session:segment:0"
  rw [hcurrent, hfirst] at hdistinct
  exact hdistinct List.mem_cons_self List.mem_cons_self

/-- A chunk, a prompt and another chunk in one runtime; the next one writes nothing. -/
def oneRuntime : List ThreadAction :=
  writes "one" ++
    ([.call ⟨[]⟩, .advance 1 (), .advance 1 (), .advance 1 ()] : List RuntimeAction).map .runtime ++
    writes "two" ++ [.resume none]

theorem segmentsKept_throughout_oneRuntime :
    Throughout (ThreadRuntimes.step "session") ThreadRuntimes.SegmentsKept
      (ThreadRuntimes.initial "session" none) oneRuntime := by
  apply segmentsKept_throughout
  decide +kernel

end GT3Code.Acp
