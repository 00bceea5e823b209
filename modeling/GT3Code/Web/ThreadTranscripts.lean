import GT3Code.Web.CheckpointAgreement
import GT3Code.Web.EventReducer
import GT3Code.Web.RevertAgreement

/-! # Transcripts in the web store

Which messages a thread of the store has is decided by its messages and by its turn diffs
alone. They are its transcript. The reducer is simulated by a reducer of transcripts, on
the stores that keep every entry under its own id: the ones the client starts with and
those its events lead to.
-/

namespace GT3Code.Web

open GT3Code.Base GT3Code.Contracts GT3Code.Orchestration

/-- A thread whose messages and turn diffs are told apart by their ids. -/
structure Thread.Keyed (thread : Thread) : Prop where
  messages : Set.InjOn ChatMessage.id {message | message ∈ thread.messages}
  turnDiffs : Set.InjOn TurnDiffSummary.turnId {summary | summary ∈ thread.turnDiffSummaries}

/-- A store whose threads, messages and turn diffs are under their own ids. -/
structure EnvironmentState.Keyed (state : EnvironmentState) : Prop where
  threads : ∀ {threadId shell}, state.threadShellById threadId = some shell →
    shell.id = threadId
  messages : ∀ {threadId messageById id message}, state.messageByThreadId threadId =
    some messageById → messageById id = some message → message.id = id
  turnDiffs : ∀ {threadId summaryById turnId summary}, state.turnDiffSummaryByThreadId threadId =
    some summaryById → summaryById turnId = some summary → summary.turnId = turnId

theorem keyed_initialEnvironmentState : initialEnvironmentState.Keyed where
  threads h := by cases h
  messages h := by cases h
  turnDiffs h := by cases h

section Reading

variable {state : EnvironmentState} {threadId : ThreadId} {thread : Thread}

theorem injOn_selectSlice {ι α : Type} [DecidableEq ι] {key : α → ι}
    {idsByThreadId : Record ThreadId (List ι)} {byThreadId : Record ThreadId (Record ι α)}
    (hkeyed : ∀ {byId k item}, byThreadId threadId = some byId → byId k = some item →
      key item = k) :
    Set.InjOn key {item | item ∈ selectSlice idsByThreadId byThreadId threadId} := by
  refine Record.injOn_collect (fun {k item} hitem => ?_) _
  cases hbyId : byThreadId threadId with
  | none =>
    rw [hbyId] at hitem
    cases hitem
  | some byId =>
    rw [hbyId] at hitem
    exact hkeyed hbyId hitem

theorem EnvironmentState.Keyed.read (hkeyed : state.Keyed)
    (h : getThreadFromEnvironmentState state threadId = some thread) :
    thread.id = threadId ∧ thread.Keyed := by
  obtain ⟨shell, hshell, rfl⟩ := Option.map_eq_some_iff.mp h
  exact ⟨hkeyed.threads hshell, injOn_selectSlice hkeyed.messages,
    injOn_selectSlice hkeyed.turnDiffs⟩

end Reading

/-! ## Transcripts -/

@[ext] structure SentMessage where
  id : MessageId
  role : OrchestrationMessageRole
  text : Text16
  attachments : Option (List ChatImageAttachment)
  turnId : Option TurnId
  createdAt : IsoDateTime
  streaming : Bool
  deriving DecidableEq

@[ext] structure Transcript where
  environmentId : EnvironmentId
  messages : List SentMessage
  checkpoints : List CheckpointEntry

def ChatMessage.sent (message : ChatMessage) : SentMessage where
  id := message.id
  role := message.role
  text := message.text
  attachments := message.attachments
  turnId := message.turnId
  createdAt := message.createdAt
  streaming := message.streaming

def sentFields : MessageFields SentMessage where
  id := SentMessage.id
  role := SentMessage.role
  turnId := SentMessage.turnId
  createdAt := SentMessage.createdAt

def Thread.transcript (thread : Thread) : Transcript where
  environmentId := thread.environmentId
  messages := thread.messages.map ChatMessage.sent
  checkpoints := thread.turnDiffSummaries.map entryOfSummary

def transcripts (state : EnvironmentState) : Record ThreadId Transcript := fun threadId =>
  (getThreadFromEnvironmentState state threadId).map Thread.transcript

namespace SentMessage

/-- `mergeMessage` on what is read of a message. -/
def mergeInto (message entry : SentMessage) : SentMessage :=
  { entry with
    text :=
      if message.streaming then entry.text ++ message.text
      else if message.text.length > 0 then message.text
      else entry.text
    streaming := message.streaming
    turnId := message.turnId
    attachments := message.attachments.orElse (fun _ => entry.attachments) }

def put (message : SentMessage) (messages : List SentMessage) : List SentMessage :=
  sliceLast MAX_THREAD_MESSAGES
    (if message.id ∈ messages.map id then
      messages.map (fun entry => if entry.id = message.id then message.mergeInto entry else entry)
    else messages ++ [message])

end SentMessage

section Runtime

variable [ClientRuntime]

def sentOfPayload (environmentId : EnvironmentId) (payload : ThreadMessageSentPayload) :
    SentMessage :=
  (mapMessage environmentId (messageOfPayload payload)).sent

namespace Transcript

def send (payload : ThreadMessageSentPayload) (transcript : Transcript) : Transcript :=
  { transcript with
    messages := (sentOfPayload transcript.environmentId payload).put transcript.messages }

theorem messages_send (payload : ThreadMessageSentPayload) (transcript : Transcript) :
    (transcript.send payload).messages =
      (sentOfPayload transcript.environmentId payload).put transcript.messages := by
  simp only [send]

theorem environmentId_send (payload : ThreadMessageSentPayload) (transcript : Transcript) :
    (transcript.send payload).environmentId = transcript.environmentId := by
  simp only [send]

theorem checkpoints_send (payload : ThreadMessageSentPayload) (transcript : Transcript) :
    (transcript.send payload).checkpoints = transcript.checkpoints := by
  simp only [send]

def complete (payload : ThreadTurnDiffCompletedPayload) (transcript : Transcript) : Transcript :=
  { transcript with
    checkpoints := CheckpointEntry.upsert (entryOfSummary (checkpointOfPayload payload))
      transcript.checkpoints }

variable [Collation]

def revert (payload : ThreadRevertedPayload) (transcript : Transcript) : Transcript :=
  let checkpoints := CheckpointEntry.retain payload.turnCount transcript.checkpoints
  { transcript with
    messages := sliceLast MAX_THREAD_MESSAGES (retainMessagesAfterRevert sentFields []
      transcript.messages (checkpoints.map CheckpointEntry.turnId) payload.turnCount)
    checkpoints := checkpoints }

def step (environmentId : EnvironmentId) (record : Record ThreadId Transcript)
    (event : OrchestrationEvent) : Record ThreadId Transcript :=
  match event.payload with
  | .threadCreated payload => record.set payload.threadId ⟨environmentId, [], []⟩
  | .threadDeleted payload => record.remove payload.threadId
  | .threadMessageSent payload => record.modify payload.threadId (send payload)
  | .threadTurnDiffCompleted payload => record.modify payload.threadId (complete payload)
  | .threadReverted payload => record.modify payload.threadId (revert payload)
  | _ => record

end Transcript

end Runtime

variable {state : EnvironmentState}

theorem keyed_writeThreadState (hkeyed : state.Keyed) (nextThread : Thread)
    (previousThread : Option Thread) :
    (writeThreadState state nextThread previousThread).Keyed where
  threads {threadId shell} h := by
    simp only [writeThreadState, setUnless] at h
    by_cases hsame : threadId = nextThread.id
    · subst hsame
      split at h
      · exact hkeyed.threads h
      · rw [Record.set_self] at h
        rw [← Option.some.inj h]
    · split at h
      · exact hkeyed.threads h
      · rw [Record.set_of_ne hsame] at h
        exact hkeyed.threads h
  messages {threadId messageById id message} h := by
    simp only [writeThreadState] at h
    by_cases hsame : threadId = nextThread.id
    · subst hsame
      rw [Record.set_self] at h
      cases h
      exact Record.key_of_fromItems
    · rw [Record.set_of_ne hsame] at h
      exact hkeyed.messages h
  turnDiffs {threadId summaryById turnId summary} h := by
    simp only [writeThreadState] at h
    by_cases hsame : threadId = nextThread.id
    · subst hsame
      rw [Record.set_self] at h
      cases h
      exact Record.key_of_fromItems
    · rw [Record.set_of_ne hsame] at h
      exact hkeyed.turnDiffs h

theorem environmentId_of_threadShellsEqual {left : ThreadShell} {right : ThreadShell}
    (h : threadShellsEqual (some left) right = true) :
    left.environmentId = right.environmentId := by
  simp only [threadShellsEqual, Option.any_some, Bool.and_eq_true, decide_eq_true_eq] at h
  exact h.1.1.1.1.1.1.1.1.1.1.1.1.1.2

theorem shell_writeThreadState (state : EnvironmentState) (nextThread : Thread)
    (previousThread : Option Thread) :
    ((writeThreadState state nextThread previousThread).threadShellById nextThread.id).map
      ThreadShell.environmentId = some nextThread.environmentId := by
  simp only [writeThreadState, setUnless]
  split
  · rename_i hequal
    cases hshell : state.threadShellById nextThread.id with
    | none =>
      rw [hshell] at hequal
      cases hequal
    | some shell =>
      rw [hshell] at hequal
      exact congrArg some (environmentId_of_threadShellsEqual hequal)
  · simp

theorem transcripts_writeThreadState (state : EnvironmentState) {nextThread : Thread}
    (hnext : nextThread.Keyed) (previousThread : Option Thread) :
    transcripts (writeThreadState state nextThread previousThread) =
      (transcripts state).set nextThread.id nextThread.transcript := by
  funext threadId
  by_cases hsame : threadId = nextThread.id
  · subst hsame
    obtain ⟨shell, hshell, henvironment⟩ := Option.map_eq_some_iff.mp
      (shell_writeThreadState state nextThread previousThread)
    have hmessages : selectThreadMessages (writeThreadState state nextThread previousThread)
        nextThread.id = nextThread.messages := by
      simp only [selectThreadMessages, selectSlice, writeThreadState, Record.set_self,
        Option.getD_some]
      exact Record.collect_fromItems_of_injOn hnext.messages
    have hturnDiffs : selectThreadTurnDiffSummaries
        (writeThreadState state nextThread previousThread) nextThread.id =
        nextThread.turnDiffSummaries := by
      simp only [selectThreadTurnDiffSummaries, selectSlice, writeThreadState, Record.set_self,
        Option.getD_some]
      exact Record.collect_fromItems_of_injOn hnext.turnDiffs
    rw [transcripts, getThreadFromEnvironmentState, hshell, Record.set_self]
    simp only [Option.map_some, Thread.transcript, hmessages, hturnDiffs, henvironment]
  · rw [Record.set_of_ne hsame]
    simp only [transcripts, getThreadFromEnvironmentState, selectThreadMessages,
      selectThreadTurnDiffSummaries, selectSlice, writeThreadState, setUnless,
      Record.set_of_ne hsame, apply_ite (fun record : Record ThreadId ThreadShell =>
        record threadId), ite_self, Option.map_map]
    rfl

theorem injOn_transcripts (hkeyed : state.Keyed) {threadId : ThreadId} {transcript : Transcript}
    (h : transcripts state threadId = some transcript) :
    Set.InjOn SentMessage.id {message | message ∈ transcript.messages} := by
  obtain ⟨thread, hthread, rfl⟩ := Option.map_eq_some_iff.mp h
  have hinj := (hkeyed.read hthread).2.messages
  intro a ha b hb hab
  obtain ⟨left, hleft, rfl⟩ := List.mem_map.mp ha
  obtain ⟨right, hright, rfl⟩ := List.mem_map.mp hb
  rw [hinj hleft hright hab]

/-- What an updater does to the transcript of the thread it is given. -/
structure Updates (updater : Thread → Option Thread) (change : Transcript → Transcript) :
    Prop where
  next : ∀ {thread next}, updater thread = some next → thread.Keyed →
    next.id = thread.id ∧ next.Keyed ∧ next.transcript = change thread.transcript
  unchanged : ∀ {thread}, updater thread = none →
    change thread.transcript = thread.transcript

variable {updater : Thread → Option Thread} {next : EnvironmentState}

theorem transcripts_updateThreadState (hkeyed : state.Keyed) (threadId : ThreadId)
    {change : Transcript → Transcript} (h : Updates updater change) :
    transcripts (updateThreadState state threadId updater) =
      (transcripts state).modify threadId change := by
  cases hthread : getThreadFromEnvironmentState state threadId with
  | none =>
    have hnone : transcripts state threadId = none := by rw [transcripts, hthread]; rfl
    rw [Record.modify_of_none hnone]
    simp only [updateThreadState, hthread]
  | some thread =>
    have hsome : transcripts state threadId = some thread.transcript := by
      rw [transcripts, hthread]; rfl
    obtain ⟨hid, hown⟩ := hkeyed.read hthread
    rw [Record.modify_of_some hsome]
    cases hnext : updater thread with
    | none =>
      simp only [updateThreadState, hthread, hnext]
      rw [h.unchanged hnext]
      exact (Function.update_eq_self_iff.mpr hsome.symm).symm
    | some next =>
      obtain ⟨hnextId, hnextKeyed, htranscript⟩ := h.next hnext hown
      simp only [updateThreadState, hthread, hnext]
      rw [transcripts_writeThreadState state hnextKeyed, htranscript, hnextId, hid]

theorem keyed_updateThreadState (hkeyed : state.Keyed) (threadId : ThreadId)
    (updater : Thread → Option Thread) : (updateThreadState state threadId updater).Keyed := by
  unfold updateThreadState
  split
  · exact hkeyed
  · split
    · exact hkeyed
    · exact keyed_writeThreadState hkeyed _ _

theorem Updates.other
    (h : ∀ {thread next}, updater thread = some next → next.id = thread.id ∧
      next.environmentId = thread.environmentId ∧ next.messages = thread.messages ∧
      next.turnDiffSummaries = thread.turnDiffSummaries) :
    Updates updater id where
  next {thread next} hnext hkeyed := by
    obtain ⟨hid, henvironment, hmessages, hturnDiffs⟩ := h hnext
    refine ⟨hid, ⟨?_, ?_⟩, ?_⟩
    · rw [hmessages]
      exact hkeyed.messages
    · rw [hturnDiffs]
      exact hkeyed.turnDiffs
    · simp only [Thread.transcript, henvironment, hmessages, hturnDiffs, id]
  unchanged _ := rfl

theorem injOn_of_subset {ι α : Type} {key : α → ι} {items kept : List α}
    (h : Set.InjOn key {item | item ∈ items}) (hsub : ∀ item ∈ kept, item ∈ items) :
    Set.InjOn key {item | item ∈ kept} :=
  h.mono hsub

theorem injOn_map {ι α : Type} {key : α → ι} {items : List α} {change : α → α}
    (hkey : ∀ item, key (change item) = key item)
    (h : Set.InjOn key {item | item ∈ items}) :
    Set.InjOn key {item | item ∈ items.map change} := by
  intro a ha b hb hab
  obtain ⟨x, hx, rfl⟩ := List.mem_map.mp ha
  obtain ⟨y, hy, rfl⟩ := List.mem_map.mp hb
  rw [hkey, hkey] at hab
  rw [h hx hy hab]

theorem injOn_append_singleton {ι α : Type} {key : α → ι} {items : List α} {added : α}
    (hnew : ∀ item ∈ items, key item ≠ key added) (h : Set.InjOn key {item | item ∈ items}) :
    Set.InjOn key {item | item ∈ items ++ [added]} := by
  intro a ha b hb hab
  rcases List.mem_append.mp ha with ha | ha <;> rcases List.mem_append.mp hb with hb | hb
  · exact h ha hb hab
  · cases List.mem_singleton.mp hb
    exact absurd hab (hnew a ha)
  · cases List.mem_singleton.mp ha
    exact absurd hab.symm (hnew b hb)
  · rw [List.mem_singleton.mp ha, List.mem_singleton.mp hb]

theorem injOn_sortTurnDiffSummaries {summaries : List TurnDiffSummary}
    (h : Set.InjOn TurnDiffSummary.turnId {summary | summary ∈ summaries}) :
    Set.InjOn TurnDiffSummary.turnId {summary | summary ∈ sortTurnDiffSummaries summaries} :=
  injOn_of_subset h (fun _ hmem => mem_toSorted.mp (mem_of_mem_sliceLast hmem))

theorem map_rebindTurnDiffSummaries (summaries : List TurnDiffSummary) (turnId : TurnId)
    (messageId : MessageId) :
    (rebindTurnDiffSummariesForAssistantMessage summaries turnId messageId).map entryOfSummary =
      summaries.map entryOfSummary := by
  rw [rebindTurnDiffSummariesForAssistantMessage, List.map_map]
  refine List.map_congr_left (fun summary _ => ?_)
  simp only [Function.comp_apply]
  split <;> rfl

theorem isSome_find?_id {messages : List ChatMessage} {id : MessageId} :
    (messages.find? (fun entry => entry.id = id)).isSome ↔
      id ∈ (messages.map ChatMessage.sent).map SentMessage.id := by
  rw [List.find?_isSome, List.map_map]
  simp only [decide_eq_true_eq, List.mem_map, Function.comp_apply]
  rfl

theorem map_putMessage (message : ChatMessage) (messages : List ChatMessage) :
    (if (messages.find? (fun entry => entry.id = message.id)).isSome then
        messages.map (fun entry =>
          if entry.id ≠ message.id then entry else mergeMessage message entry)
      else messages ++ [message]).map ChatMessage.sent =
      if message.sent.id ∈ (messages.map ChatMessage.sent).map SentMessage.id then
        (messages.map ChatMessage.sent).map (fun entry =>
          if entry.id = message.sent.id then message.sent.mergeInto entry else entry)
      else messages.map ChatMessage.sent ++ [message.sent] := by
  by_cases hfound : (messages.find? (fun entry => entry.id = message.id)).isSome
  · have hmem : message.sent.id ∈ (messages.map ChatMessage.sent).map SentMessage.id :=
      isSome_find?_id.mp hfound
    rw [if_pos hfound, if_pos hmem, List.map_map, List.map_map]
    refine List.map_congr_left (fun entry _ => ?_)
    simp only [Function.comp_apply, ite_not]
    by_cases hentry : entry.id = message.id
    · rw [if_pos hentry, if_pos (show entry.sent.id = message.sent.id from hentry)]
      rfl
    · rw [if_neg hentry, if_neg (show ¬ entry.sent.id = message.sent.id from hentry)]
  · have hmem : message.sent.id ∉ (messages.map ChatMessage.sent).map SentMessage.id :=
      fun h => hfound (isSome_find?_id.mpr h)
    rw [if_neg hfound, if_neg hmem, List.map_append]
    rfl

theorem updates_sendMessage [ClientRuntime] (payload : ThreadMessageSentPayload)
    (occurredAt : IsoDateTime) :
    Updates (fun thread => some (sendMessage payload occurredAt thread))
      (Transcript.send payload) where
  next {thread next} hnext hkeyed := by
    cases hnext
    refine ⟨rfl, ⟨?_, ?_⟩, ?_⟩
    · simp only [sendMessage]
      refine injOn_of_subset ?_ (fun _ => mem_of_mem_sliceLast)
      split
      · refine injOn_map (fun entry => ?_) hkeyed.messages
        split <;> rfl
      · rename_i hnone
        refine injOn_append_singleton (fun entry hentry heq => hnone ?_) hkeyed.messages
        exact List.find?_isSome.mpr ⟨entry, hentry, decide_eq_true heq⟩
    · simp only [sendMessage]
      split
      · refine injOn_map (fun summary => ?_) hkeyed.turnDiffs
        split <;> rfl
      · exact hkeyed.turnDiffs
    · have hmessages : (sendMessage payload occurredAt thread).messages.map ChatMessage.sent =
          (sentOfPayload thread.environmentId payload).put
            (thread.messages.map ChatMessage.sent) := by
        simp only [sendMessage, SentMessage.put]
        rw [map_sliceLast]
        congr 1
        rw [sentOfPayload]
        generalize mapMessage thread.environmentId (messageOfPayload payload) = message
        exact map_putMessage message thread.messages
      have hturnDiffs : (sendMessage payload occurredAt thread).turnDiffSummaries.map
          entryOfSummary = thread.turnDiffSummaries.map entryOfSummary := by
        simp only [sendMessage]
        split
        · exact map_rebindTurnDiffSummaries _ _ _
        · rfl
      simp only [Thread.transcript, hmessages, hturnDiffs]
      rfl
  unchanged h := by cases h

theorem updates_completeThreadTurnDiff (payload : ThreadTurnDiffCompletedPayload)
    (occurredAt : IsoDateTime) :
    Updates (completeThreadTurnDiff payload occurredAt) (Transcript.complete payload) where
  next {thread next} hnext hkeyed := by
    by_cases hkeeps : keepsExisting thread.turnDiffSummaries (checkpointOfPayload payload) = true
    · rw [completeThreadTurnDiff, if_pos hkeeps] at hnext
      cases hnext
    · have hturnDiffs := turnDiffSummaries_completeThreadTurnDiff hnext
      rw [completeThreadTurnDiff, if_neg hkeeps] at hnext
      have hmessages : next.messages = thread.messages := by rw [← Option.some.inj hnext]
      have henvironment : next.environmentId = thread.environmentId := by
        rw [← Option.some.inj hnext]
      refine ⟨by rw [← Option.some.inj hnext], ⟨?_, ?_⟩, ?_⟩
      · rw [hmessages]
        exact hkeyed.messages
      · rw [hturnDiffs]
        refine injOn_sortTurnDiffSummaries (injOn_append_singleton (fun summary hmem => ?_)
          (injOn_of_subset hkeyed.turnDiffs fun _ h => (List.mem_filter.mp h).1))
        simpa using (List.mem_filter.mp hmem).2
      · rw [keepsExisting_eq] at hkeeps
        simp only [Thread.transcript, Transcript.complete, hmessages, henvironment, hturnDiffs]
        rw [CheckpointEntry.upsert, if_neg hkeeps, map_sortTurnDiffSummaries, List.map_append,
          List.filter_map]
        rfl
  unchanged {thread} h := by
    by_cases hkeeps : keepsExisting thread.turnDiffSummaries (checkpointOfPayload payload) = true
    · rw [keepsExisting_eq] at hkeeps
      simp only [Thread.transcript, Transcript.complete]
      rw [CheckpointEntry.upsert, if_pos hkeeps]
    · rw [completeThreadTurnDiff, if_neg hkeeps] at h
      cases h

section Sorted

variable [Collation]

theorem map_retainThreadMessages (messages : List ChatMessage) (retainedTurnIds : List TurnId)
    (turnCount : Nat) :
    (retainThreadMessagesAfterRevert messages retainedTurnIds turnCount).map ChatMessage.sent =
      retainMessagesAfterRevert sentFields [] (messages.map ChatMessage.sent) retainedTurnIds
        turnCount := by
  have hids : retainedMessageIds sentFields [] (messages.map ChatMessage.sent) retainedTurnIds
      turnCount = retainedMessageIds chatMessageFields [] messages retainedTurnIds turnCount := by
    rw [← retainedMessageIds_map_key sentFields, ← retainedMessageIds_map_key chatMessageFields,
      List.map_map]
    rfl
  unfold retainThreadMessagesAfterRevert retainMessagesAfterRevert
  rw [List.filter_map, hids]
  rfl

theorem updates_revertThread (payload : ThreadRevertedPayload) (occurredAt : IsoDateTime) :
    Updates (fun thread => some (revertThread payload occurredAt thread))
      (Transcript.revert payload) where
  next {thread next} hnext hkeyed := by
    cases hnext
    refine ⟨rfl, ⟨?_, ?_⟩, ?_⟩
    · simp only [revertThread]
      refine injOn_of_subset hkeyed.messages (fun _ h => ?_)
      exact (List.mem_filter.mp (mem_of_mem_sliceLast h)).1
    · simp only [revertThread]
      refine injOn_sortTurnDiffSummaries (injOn_of_subset hkeyed.turnDiffs fun _ h => ?_)
      exact (List.mem_filter.mp h).1
    · simp only [Thread.transcript, Transcript.revert, revertThread, map_sliceLast,
        map_retainThreadMessages, ← map_retainSummaries, List.map_map]
      rfl
  unchanged h := by cases h

end Sorted

theorem transcripts_removeThreadState (state : EnvironmentState) (threadId : ThreadId) :
    transcripts (removeThreadState state threadId) = (transcripts state).remove threadId := by
  unfold removeThreadState
  split
  · rename_i hnone
    have habsent : transcripts state threadId = none := by
      simp only [transcripts, getThreadFromEnvironmentState, hnone, Option.map_none]
    exact (Function.update_eq_self_iff.mpr habsent.symm).symm
  · funext other
    by_cases hsame : other = threadId
    · subst hsame
      simp only [transcripts, getThreadFromEnvironmentState, Record.remove_self, Option.map_none]
    · rw [Record.remove_of_ne hsame]
      simp only [transcripts, getThreadFromEnvironmentState, selectThreadMessages,
        selectThreadTurnDiffSummaries, selectSlice, Record.remove_of_ne hsame, Option.map_map]
      rfl

theorem keyed_removeThreadState (hkeyed : state.Keyed) (threadId : ThreadId) :
    (removeThreadState state threadId).Keyed := by
  have hrest : ∀ {α : Type} {record : Record ThreadId α} {other : ThreadId} {value : α},
      record.remove threadId other = some value → record other = some value := by
    intro α record other value h
    by_cases hsame : other = threadId
    · subst hsame
      rw [Record.remove_self] at h
      cases h
    · rwa [Record.remove_of_ne hsame] at h
  unfold removeThreadState
  split
  · exact hkeyed
  · exact ⟨fun h => hkeyed.threads (hrest h), fun h => hkeyed.messages (hrest h),
      fun h => hkeyed.turnDiffs (hrest h)⟩

theorem EnvironmentState.Keyed.of_projects (hkeyed : state.Keyed)
    (hthreads : next.threadShellById = state.threadShellById)
    (hmessages : next.messageByThreadId = state.messageByThreadId)
    (hturnDiffs : next.turnDiffSummaryByThreadId = state.turnDiffSummaryByThreadId) : next.Keyed :=
  ⟨fun h => hkeyed.threads (hthreads ▸ h), fun h => hkeyed.messages (hmessages ▸ h),
    fun h => hkeyed.turnDiffs (hturnDiffs ▸ h)⟩

theorem projects_changed {environmentId : EnvironmentId}
    (h : (∃ payload, next = createProject payload environmentId state) ∨
      (∃ payload, next = updateProjectMeta payload state) ∨
      ∃ payload, next = deleteProject payload state) :
    ∃ projectById projectIds, next =
      { state with projectById := projectById, projectIds := projectIds } := by
  rcases h with ⟨payload, rfl⟩ | ⟨payload, rfl⟩ | ⟨payload, rfl⟩
  · unfold createProject
    simp only
    split
    · split <;> exact ⟨_, _, rfl⟩
    · exact ⟨_, _, rfl⟩
  · unfold updateProjectMeta
    split <;> exact ⟨_, _, rfl⟩
  · unfold deleteProject
    split <;> exact ⟨_, _, rfl⟩

theorem keyed_threadFromCreated (payload : ThreadCreatedPayload)
    (environmentId : EnvironmentId) :
    (threadFromCreated payload environmentId).Keyed :=
  ⟨nofun, nofun⟩

section Reducer

variable [ClientRuntime] [Collation] {environmentId : EnvironmentId} {event : OrchestrationEvent}

theorem updates_updaterOfEvent {threadId : ThreadId} {updater : Thread → Option Thread}
    (h : updaterOfEvent event = some (threadId, updater)) :
    ∃ change, Updates updater change ∧
      ∀ record, Transcript.step environmentId record event = record.modify threadId change := by
  unfold updaterOfEvent threadUpdater at h
  unfold Transcript.step
  cases hpayload : event.payload <;> simp only [hpayload] at h ⊢
  case threadMessageSent payload =>
    cases h
    exact ⟨_, updates_sendMessage payload event.occurredAt, fun _ => rfl⟩
  case threadTurnDiffCompleted payload =>
    cases h
    exact ⟨_, updates_completeThreadTurnDiff payload event.occurredAt, fun _ => rfl⟩
  case threadReverted payload =>
    cases h
    exact ⟨_, updates_revertThread payload event.occurredAt, fun _ => rfl⟩
  case threadTurnInterruptRequested payload =>
    obtain ⟨turnId, -, hupdater⟩ := Option.map_eq_some_iff.mp h
    cases hupdater
    refine ⟨id, Updates.other (fun {thread next} hnext => ?_), by simp⟩
    unfold interruptTurn at hnext
    split at hnext
    · cases hnext
    · split at hnext
      · cases hnext
      · cases hnext
        exact ⟨rfl, rfl, rfl, rfl⟩
  case threadSessionStopRequested payload =>
    cases h
    refine ⟨id, Updates.other (fun {thread next} hnext => ?_), by simp⟩
    obtain ⟨session, -, rfl⟩ := Option.map_eq_some_iff.mp hnext
    exact ⟨rfl, rfl, rfl, rfl⟩
  all_goals
    first
    | cases h
      refine ⟨id, Updates.other (fun {thread next} hnext => ?_), by simp⟩
      cases hnext
      exact ⟨rfl, rfl, rfl, rfl⟩
    | cases h

theorem step_of_updaterOfEvent_eq_none (h : updaterOfEvent event = none)
    (hcreated : ∀ payload, event.payload ≠ .threadCreated payload)
    (hdeleted : ∀ payload, event.payload ≠ .threadDeleted payload)
    (record : Record ThreadId Transcript) :
    Transcript.step environmentId record event = record := by
  unfold updaterOfEvent threadUpdater at h
  unfold Transcript.step
  cases hpayload : event.payload <;> simp only [hpayload] at h ⊢
  case threadCreated payload => exact absurd hpayload (hcreated payload)
  case threadDeleted payload => exact absurd hpayload (hdeleted payload)
  all_goals cases h

theorem transcripts_applyEnvironmentOrchestrationEvent {state : EnvironmentState}
    (hkeyed : state.Keyed) :
    (applyEnvironmentOrchestrationEvent environmentId state event).Keyed ∧
      transcripts (applyEnvironmentOrchestrationEvent environmentId state event) =
        Transcript.step environmentId (transcripts state) event := by
  have hproject : ∀ {next : EnvironmentState},
      ((∃ payload, next = createProject payload environmentId state) ∨
        (∃ payload, next = updateProjectMeta payload state) ∨
        ∃ payload, next = deleteProject payload state) →
      next.Keyed ∧ transcripts next = transcripts state := by
    intro next h
    obtain ⟨projectById, projectIds, rfl⟩ := projects_changed h
    exact ⟨hkeyed.of_projects rfl rfl rfl, rfl⟩
  unfold applyEnvironmentOrchestrationEvent
  split
  · rename_i payload hpayload
    simpa only [Transcript.step, hpayload] using hproject (Or.inl ⟨payload, rfl⟩)
  · rename_i payload hpayload
    simpa only [Transcript.step, hpayload] using hproject (Or.inr (Or.inl ⟨payload, rfl⟩))
  · rename_i payload hpayload
    simpa only [Transcript.step, hpayload] using hproject (Or.inr (Or.inr ⟨payload, rfl⟩))
  · rename_i payload hpayload
    refine ⟨keyed_writeThreadState hkeyed _ _, ?_⟩
    rw [transcripts_writeThreadState state (keyed_threadFromCreated payload environmentId)]
    simp only [Transcript.step, hpayload]
    rfl
  · rename_i payload hpayload
    refine ⟨keyed_removeThreadState hkeyed _, ?_⟩
    rw [transcripts_removeThreadState]
    simp only [Transcript.step, hpayload]
  · rename_i hcreated hdeleted
    split
    · rename_i threadId updater h
      obtain ⟨change, hupdates, hstep⟩ := updates_updaterOfEvent h
      exact ⟨keyed_updateThreadState hkeyed _ _,
        (transcripts_updateThreadState hkeyed threadId hupdates).trans (hstep _).symm⟩
    · rename_i h
      exact ⟨hkeyed, (step_of_updaterOfEvent_eq_none h hcreated hdeleted _).symm⟩

theorem transcripts_applyOrchestrationEvents (environmentId : EnvironmentId)
    {state : EnvironmentState} (hkeyed : state.Keyed) (events : List OrchestrationEvent) :
    (applyOrchestrationEvents environmentId state events).Keyed ∧
      transcripts (applyOrchestrationEvents environmentId state events) =
        events.foldl (Transcript.step environmentId) (transcripts state) := by
  induction events generalizing state with
  | nil => exact ⟨hkeyed, rfl⟩
  | cons event events ih =>
    obtain ⟨hnext, hstep⟩ :=
      @transcripts_applyEnvironmentOrchestrationEvent _ _ environmentId event _ hkeyed
    obtain ⟨hall, hrest⟩ := ih hnext
    refine ⟨hall, ?_⟩
    rw [List.foldl_cons, ← hstep]
    exact hrest

end Reducer

def sampleEvent (sequence : Nat) (payload : EventPayload) : OrchestrationEvent where
  eventId := "e"
  aggregateKind := .thread
  aggregateId := "t1"
  occurredAt := "2026-01-01"
  commandId := none
  causationEventId := none
  correlationId := none
  metadata := ⟨none⟩
  payload := payload
  sequence := sequence

def sampleCreated : OrchestrationEvent :=
  sampleEvent 1 (.threadCreated ⟨"t1", "p1", "Thread", ⟨"codex", "gpt-5.4", none⟩, .fullAccess,
    .default, none, none, none, "2026-01-01", "2026-01-01"⟩)

def samplePart (sequence : Nat) (text : Text16) (streaming : Bool) : OrchestrationEvent :=
  sampleEvent sequence (.threadMessageSent ⟨"t1", "assistant:m1", .assistant, text, none, none,
    streaming, "2026-01-01", "2026-01-01"⟩)

end GT3Code.Web
