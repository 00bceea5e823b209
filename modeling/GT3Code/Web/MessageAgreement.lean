import GT3Code.Web.ThreadTranscripts

/-! # Message texts of one thread

The text of a message, whether it is still streamed and the turn it belongs to are kept
three times: in the read model, in the message rows and in the web store. Each has its own
rule for a message sent. On a thread with room for another message the rules are one, but
the rows are stored as UTF-8: a text that ends or begins within a surrogate pair stays whole
in the read model and in the web store only.
-/

namespace GT3Code.Web

open GT3Code.Base GT3Code.Contracts GT3Code.Persistence GT3Code.Orchestration

structure MessageEntry where
  id : MessageId
  text : Text16
  streaming : Bool
  turnId : Option TurnId
  deriving DecidableEq

namespace MessageEntry

/-- A streamed text is appended, a final text replaces unless it is empty. -/
def mergeInto (message entry : MessageEntry) : MessageEntry where
  id := entry.id
  text :=
    if message.streaming then entry.text ++ message.text
    else if message.text.length > 0 then message.text
    else entry.text
  streaming := message.streaming
  turnId := message.turnId

/-- A message among the messages, the first of its id and those after it merged. -/
def put (message : MessageEntry) (entries : List MessageEntry) : List MessageEntry :=
  if message.id ∈ entries.map id then
    entries.map (fun entry => if entry.id = message.id then message.mergeInto entry else entry)
  else entries ++ [message]

def find (messageId : MessageId) (entries : List MessageEntry) : Option MessageEntry :=
  entries.find? (fun entry => entry.id = messageId)

theorem find_eq_none_iff {messageId : MessageId} {entries : List MessageEntry} :
    find messageId entries = none ↔ messageId ∉ entries.map id := by
  simp [find, List.find?_eq_none]

theorem find_put (message : MessageEntry) (entries : List MessageEntry)
    (messageId : MessageId) :
    find messageId (message.put entries) =
      if messageId = message.id then
        some (((find messageId entries).map message.mergeInto).getD message)
      else find messageId entries := by
  by_cases hmem : message.id ∈ entries.map id
  · have hids : ((fun entry : MessageEntry => decide (entry.id = messageId)) ∘
        fun entry => if entry.id = message.id then message.mergeInto entry else entry) =
        fun entry => decide (entry.id = messageId) := by
      funext entry
      by_cases hentry : entry.id = message.id <;> simp [hentry, mergeInto]
    rw [put, if_pos hmem, find, List.find?_map, hids]
    by_cases hsame : messageId = message.id
    · rw [if_pos hsame]
      cases hfind : find messageId entries with
      | none => exact absurd (hsame ▸ hmem) (find_eq_none_iff.mp hfind)
      | some entry =>
        have hid : entry.id = message.id := by
          simpa [hsame] using List.find?_some hfind
        rw [show entries.find? (fun entry => entry.id = messageId) = some entry from hfind]
        simp [hid]
    · rw [if_neg hsame]
      cases hfind : find messageId entries with
      | none =>
        rw [show entries.find? (fun entry => entry.id = messageId) = none from hfind]
        rfl
      | some entry =>
        have hid : entry.id = messageId := by simpa using List.find?_some hfind
        rw [show entries.find? (fun entry => entry.id = messageId) = some entry from hfind]
        simp [hid, hsame]
  · rw [put, if_neg hmem, find, List.find?_append]
    by_cases hsame : messageId = message.id
    · subst hsame
      have hnone : entries.find? (fun entry => entry.id = message.id) = none :=
        find_eq_none_iff.mpr hmem
      rw [if_pos rfl, find, hnone]
      simp
    · rw [if_neg hsame]
      simp [find, Ne.symm hsame]

theorem length_put_le (message : MessageEntry) (entries : List MessageEntry) :
    (message.put entries).length ≤ entries.length + 1 := by
  unfold put
  split <;> simp

end MessageEntry

def entryOfMessage (message : OrchestrationMessage) : MessageEntry where
  id := message.id
  text := message.text
  streaming := message.streaming
  turnId := message.turnId

def entryOfSent (message : SentMessage) : MessageEntry where
  id := message.id
  text := message.text
  streaming := message.streaming
  turnId := message.turnId

def entryOfMessageRow (row : ProjectionThreadMessage) : MessageEntry where
  id := row.messageId
  text := units row.text
  streaming := row.isStreaming
  turnId := row.turnId

def entryOfSentPayload (payload : ThreadMessageSentPayload) : MessageEntry where
  id := payload.messageId
  text := payload.text
  streaming := payload.streaming
  turnId := payload.turnId

theorem map_upsertMessage (payload : ThreadMessageSentPayload)
    (messages : List OrchestrationMessage) :
    (upsertMessage (messageFromSent payload) messages).map entryOfMessage =
      (entryOfSentPayload payload).put (messages.map entryOfMessage) := by
  have hmem : (messages.find? (fun entry => entry.id = (messageFromSent payload).id)).isSome ↔
      (entryOfSentPayload payload).id ∈ (messages.map entryOfMessage).map MessageEntry.id := by
    rw [List.find?_isSome, List.map_map]
    simp only [decide_eq_true_eq, List.mem_map, Function.comp_apply]
    rfl
  unfold upsertMessage MessageEntry.put
  by_cases hfound : (messages.find? (fun entry =>
      entry.id = (messageFromSent payload).id)).isSome
  · rw [if_pos hfound, if_pos (hmem.mp hfound), List.map_map, List.map_map]
    refine List.map_congr_left (fun entry _ => ?_)
    simp only [Function.comp_apply, entryOfMessage, entryOfSentPayload, messageFromSent,
      Orchestration.mergeMessage, MessageEntry.mergeInto]
    by_cases hentry : entry.id = payload.messageId <;> simp [hentry]
  · rw [if_neg hfound, if_neg (fun h => hfound (hmem.mpr h)), List.map_append]
    rfl

theorem map_putSent [ClientRuntime] (environmentId : EnvironmentId)
    (payload : ThreadMessageSentPayload) (messages : List SentMessage) :
    ((sentOfPayload environmentId payload).put messages).map entryOfSent =
      sliceLast MAX_THREAD_MESSAGES
        ((entryOfSentPayload payload).put (messages.map entryOfSent)) := by
  have hmem : (sentOfPayload environmentId payload).id ∈ messages.map SentMessage.id ↔
      (entryOfSentPayload payload).id ∈ (messages.map entryOfSent).map MessageEntry.id := by
    rw [List.map_map]
    rfl
  unfold SentMessage.put MessageEntry.put
  rw [map_sliceLast]
  by_cases hfound : (sentOfPayload environmentId payload).id ∈ messages.map SentMessage.id
  · rw [if_pos hfound, if_pos (hmem.mp hfound), List.map_map, List.map_map]
    refine congrArg _ (List.map_congr_left fun entry _ => ?_)
    simp only [Function.comp_apply, entryOfSent, entryOfSentPayload, sentOfPayload,
      messageOfPayload, mapMessage, ChatMessage.sent, SentMessage.mergeInto,
      MessageEntry.mergeInto]
    by_cases hentry : entry.id = payload.messageId <;> simp [hentry]
  · rw [if_neg hfound, if_neg (fun h => hfound (hmem.mpr h)), List.map_append]
    rfl

/-- The new row is the merged message exactly when the text sent is well formed: what was
stored before always is. -/
theorem entryOfMessageRow_messageRow (payload : ThreadMessageSentPayload)
    (previous : Option ProjectionThreadMessage)
    (hid : ∀ row ∈ previous, row.messageId = payload.messageId) :
    entryOfMessageRow (messageRow payload previous) =
        ((previous.map entryOfMessageRow).map (entryOfSentPayload payload).mergeInto).getD
          (entryOfSentPayload payload) ↔
      WellFormed payload.text := by
  cases previous with
  | none =>
    simp only [entryOfMessageRow, messageRow, entryOfSentPayload, Option.map_none,
      Option.getD_none, MessageEntry.mk.injEq, true_and, and_true, WellFormed]
  | some row =>
    simp only [entryOfMessageRow, messageRow, entryOfSentPayload, MessageEntry.mergeInto,
      Option.map_some, Option.getD_some, hid row rfl, MessageEntry.mk.injEq, true_and, and_true]
    by_cases hstreaming : payload.streaming
    · rw [if_pos hstreaming, if_pos hstreaming]
      exact wellFormed_append_iff row.text payload.text
    · rw [if_neg hstreaming, if_neg hstreaming]
      by_cases hempty : payload.text.length = 0
      · rw [if_pos hempty, if_neg (by omega), List.length_eq_zero_iff.mp hempty]
        exact iff_of_true (wellFormed_units row.text) (wellFormed_units "")
      · rw [if_neg hempty, if_pos (Nat.pos_of_ne_zero hempty)]
        exact Iff.rfl

/-! ## The three maps -/

/-- The server's read model and message rows, and the store of a client that receives
every event. -/
structure MessageViews where
  readModel : OrchestrationReadModel
  turns : TurnTable
  messages : MessageTable
  store : EnvironmentState

def memoryEntries (threadId : ThreadId) (readModel : OrchestrationReadModel) :
    List MessageEntry :=
  ((readModel.threads.find? (fun thread => thread.id = threadId)).map
    (fun thread => thread.messages.map entryOfMessage)).getD []

def storeEntries (threadId : ThreadId) (store : EnvironmentState) : List MessageEntry :=
  ((getThreadFromEnvironmentState store threadId).map
    (fun thread => thread.messages.map (fun message => entryOfSent message.sent))).getD []

def rowEntry (threadId : ThreadId) (messages : MessageTable) (messageId : MessageId) :
    Option MessageEntry :=
  ((KeyedTable.lookup messageId messages).filter (fun row => row.threadId = threadId)).map
    entryOfMessageRow

theorem storeEntries_eq (threadId : ThreadId) (store : EnvironmentState) :
    storeEntries threadId store = ((transcripts store threadId).map
      (fun transcript => transcript.messages.map entryOfSent)).getD [] := by
  rw [storeEntries, transcripts, Option.map_map]
  refine congrArg (fun entries => Option.getD entries [])
    (congrFun (congrArg Option.map (funext fun thread => ?_)) _)
  simp only [Function.comp_apply, Thread.transcript, List.map_map]
  rfl

/-- For each id the three maps have the same text, streaming flag and turn. -/
def MessagesAgree (threadId : ThreadId) (views : MessageViews) : Prop :=
  ∀ messageId,
    rowEntry threadId views.messages messageId =
      MessageEntry.find messageId (memoryEntries threadId views.readModel) ∧
    MessageEntry.find messageId (storeEntries threadId views.store) =
      MessageEntry.find messageId (memoryEntries threadId views.readModel)

/-- The thread is in the read model and in the store, which lists its messages as the read
model does. -/
structure MessagesTracked (threadId : ThreadId) (views : MessageViews) : Prop where
  known : (views.readModel.threads.find? (fun thread => thread.id = threadId)).isSome
  keyed : views.store.Keyed
  shown : (getThreadFromEnvironmentState views.store threadId).isSome
  sameInStore : storeEntries threadId views.store = memoryEntries threadId views.readModel

variable {threadId : ThreadId} {views : MessageViews}

theorem messagesAgree_of_empty
    (hmemory : memoryEntries threadId views.readModel = [])
    (hstore : storeEntries threadId views.store = [])
    (hrows : ∀ row ∈ views.messages.rows, row.threadId ≠ threadId) :
    MessagesAgree threadId views := by
  intro messageId
  refine ⟨?_, by rw [hmemory, hstore]⟩
  rw [hmemory, rowEntry]
  cases hlookup : KeyedTable.lookup messageId views.messages with
  | none => rfl
  | some row => simp [hrows row (KeyedTable.mem_of_lookup hlookup).1, MessageEntry.find]

/-- The text of a message sent is well formed. -/
def SendsWellFormed (_ : MessageViews) (event : OrchestrationEvent) : Prop :=
  match event.payload with
  | .threadMessageSent payload => WellFormed payload.text
  | _ => True

section Views

variable [ClientRuntime] [Collation]

/-- A message sent on the thread while it has fewer than 2000 messages, its id no id of a
message of another thread. -/
def MessageViews.step (environmentId : EnvironmentId) (threadId : ThreadId)
    (views : MessageViews) (event : OrchestrationEvent) : Option MessageViews :=
  match event.payload with
  | .threadMessageSent payload =>
    if payload.threadId = threadId ∧
        (memoryEntries threadId views.readModel).length < MAX_THREAD_MESSAGES ∧
        (KeyedTable.lookup payload.messageId views.messages).all
          (fun row => row.threadId = threadId) then
      some
        { readModel := projectEvent views.readModel event
          turns := views.turns
          messages := applyThreadMessagesProjection views.turns views.messages event
          store := applyEnvironmentOrchestrationEvent environmentId views.store event }
    else none
  | _ => none

variable {environmentId : EnvironmentId} {threadId : ThreadId}

omit [ClientRuntime] in
theorem memoryEntries_sent {readModel : OrchestrationReadModel} {event : OrchestrationEvent}
    {payload : ThreadMessageSentPayload} (hevent : event.payload = .threadMessageSent payload)
    (hthread : payload.threadId = threadId)
    (hknown : (readModel.threads.find? (fun thread => thread.id = threadId)).isSome) :
    ((projectEvent readModel event).threads.find? (fun thread => thread.id = threadId)).isSome ∧
      memoryEntries threadId (projectEvent readModel event) =
        sliceLast MAX_THREAD_MESSAGES
          ((entryOfSentPayload payload).put (memoryEntries threadId readModel)) := by
  obtain ⟨thread, hfind⟩ := Option.isSome_iff_exists.mp hknown
  have hfound : (projectEvent readModel event).threads.find?
      (fun thread => thread.id = threadId) =
        some { thread with
          messages := sliceLast Orchestration.MAX_THREAD_MESSAGES
            (upsertMessage (messageFromSent payload) thread.messages)
          updatedAt := event.occurredAt } := by
    simp only [projectEvent, projectThreads, hevent, hthread]
    exact find?_updateFound hfind (fun _ => rfl)
  refine ⟨by rw [hfound]; rfl, ?_⟩
  rw [memoryEntries, memoryEntries, hfound, hfind]
  simp only [Option.map_some, Option.getD_some]
  rw [map_sliceLast, map_upsertMessage]
  rfl

theorem storeEntries_sent {store : EnvironmentState} {event : OrchestrationEvent}
    {payload : ThreadMessageSentPayload} (hevent : event.payload = .threadMessageSent payload)
    (hthread : payload.threadId = threadId) (hkeyed : store.Keyed)
    (hshown : (getThreadFromEnvironmentState store threadId).isSome) :
    (getThreadFromEnvironmentState
        (applyEnvironmentOrchestrationEvent environmentId store event) threadId).isSome ∧
      storeEntries threadId (applyEnvironmentOrchestrationEvent environmentId store event) =
        sliceLast MAX_THREAD_MESSAGES
          ((entryOfSentPayload payload).put (storeEntries threadId store)) := by
  obtain ⟨thread, hget⟩ := Option.isSome_iff_exists.mp hshown
  have hbefore : transcripts store threadId = some thread.transcript := by
    rw [transcripts, hget]
    rfl
  have hafter : transcripts (applyEnvironmentOrchestrationEvent environmentId store event)
      threadId = some (thread.transcript.send payload) := by
    rw [(transcripts_applyEnvironmentOrchestrationEvent hkeyed).2]
    simp only [Transcript.step, hevent, hthread]
    rw [Record.modify_self, hbefore]
    rfl
  constructor
  · rw [← Option.isSome_map, ← transcripts, hafter]
    rfl
  · rw [storeEntries_eq, storeEntries_eq, hafter, hbefore]
    simp only [Option.map_some, Option.getD_some, Transcript.messages_send]
    exact map_putSent _ _ _

omit [ClientRuntime] in
theorem rowEntry_sent {turns : TurnTable} {messages : MessageTable} {event : OrchestrationEvent}
    {payload : ThreadMessageSentPayload} (hevent : event.payload = .threadMessageSent payload)
    (hthread : payload.threadId = threadId) (messageId : MessageId) :
    rowEntry threadId (applyThreadMessagesProjection turns messages event) messageId =
      if messageId = payload.messageId then
        some (entryOfMessageRow
          (messageRow payload (KeyedTable.lookup payload.messageId messages)))
      else rowEntry threadId messages messageId := by
  have hself : ∀ row : ProjectionThreadMessage, row.messageId = payload.messageId →
      KeyedTable.lookup payload.messageId (KeyedTable.put row messages) = some row := by
    intro row hrow
    apply KeyedTable.lookup_put_self
    rw [hrow]
  simp only [applyThreadMessagesProjection, hevent, MessageTable.upsert]
  by_cases hsame : messageId = payload.messageId
  · subst hsame
    rw [if_pos rfl, rowEntry, hself _ rfl]
    simp only [messageRow, hthread, decide_true, Option.filter_some, if_true, Option.map_some]
    rfl
  · rw [if_neg hsame, rowEntry, KeyedTable.lookup_put_of_ne]
    · rfl
    · exact fun heq => hsame (Option.some.inj heq).symm

/-- After a message is sent the store still lists what the read model does. The rows agree
with it exactly when the text is well formed. -/
theorem messagesTracked_step {views next : MessageViews} {event : OrchestrationEvent}
    (h : MessagesTracked threadId views) (hagree : MessagesAgree threadId views)
    (hstep : views.step environmentId threadId event = some next) :
    MessagesTracked threadId next ∧
      (MessagesAgree threadId next ↔ SendsWellFormed views event) := by
  unfold MessageViews.step at hstep
  split at hstep
  · rename_i payload hevent
    split at hstep
    · rename_i hguard
      obtain ⟨hthread, hroom, hown⟩ := hguard
      cases hstep
      obtain ⟨hknown, hmemory⟩ := memoryEntries_sent hevent hthread h.known
      obtain ⟨hshown, hstore⟩ :=
        @storeEntries_sent _ _ environmentId _ _ _ _ hevent hthread h.keyed h.shown
      have hfits : ((entryOfSentPayload payload).put
          (memoryEntries threadId views.readModel)).length ≤ MAX_THREAD_MESSAGES :=
        (MessageEntry.length_put_le _ _).trans hroom
      rw [sliceLast_of_length_le hfits] at hmemory
      rw [h.sameInStore, sliceLast_of_length_le hfits] at hstore
      refine ⟨⟨hknown, (transcripts_applyEnvironmentOrchestrationEvent h.keyed).1, hshown,
        hstore.trans hmemory.symm⟩, ?_⟩
      have hbefore : (KeyedTable.lookup payload.messageId views.messages).map entryOfMessageRow =
          MessageEntry.find payload.messageId (memoryEntries threadId views.readModel) := by
        rw [← (hagree payload.messageId).1, rowEntry]
        cases hlookup : KeyedTable.lookup payload.messageId views.messages with
        | none => rfl
        | some row =>
          rw [hlookup, Option.all_some, decide_eq_true_eq] at hown
          simp [hown]
      have hmerged := entryOfMessageRow_messageRow payload
        (KeyedTable.lookup payload.messageId views.messages)
        (fun row hrow => Option.some.inj (KeyedTable.mem_of_lookup hrow).2)
      rw [hbefore] at hmerged
      have hfind : ∀ messageId,
          MessageEntry.find messageId
              ((entryOfSentPayload payload).put (memoryEntries threadId views.readModel)) =
            if messageId = payload.messageId then
              some (((MessageEntry.find messageId (memoryEntries threadId views.readModel)).map
                (entryOfSentPayload payload).mergeInto).getD (entryOfSentPayload payload))
            else MessageEntry.find messageId (memoryEntries threadId views.readModel) :=
        MessageEntry.find_put (entryOfSentPayload payload) _
      rw [SendsWellFormed, hevent]
      constructor
      · intro hnext
        have hrow := (hnext payload.messageId).1
        rw [rowEntry_sent hevent hthread, if_pos rfl, hmemory, hfind, if_pos rfl] at hrow
        exact hmerged.mp (Option.some.inj hrow)
      · intro htext messageId
        refine ⟨?_, by rw [hstore, hmemory]⟩
        rw [rowEntry_sent hevent hthread, hmemory, hfind]
        by_cases hsame : messageId = payload.messageId
        · rw [if_pos hsame, if_pos hsame, hmerged.mpr htext, hsame]
        · rw [if_neg hsame, if_neg hsame]
          exact (hagree messageId).1
    · cases hstep
  · cases hstep

/-- In a run of messages sent on a thread with fewer than 2000 messages the three maps stay
the same exactly when no text sent holds a surrogate without its partner. -/
theorem message_texts_agree_iff {start : MessageViews} (hstart : MessagesTracked threadId start)
    (hagree : MessagesAgree threadId start) (events : List OrchestrationEvent) :
    Throughout (MessageViews.step environmentId threadId) (MessagesAgree threadId) start
        events ↔
      StepsMeet (MessageViews.step environmentId threadId) SendsWellFormed start events := by
  refine throughout_iff_stepsMeet_while (I := MessagesTracked threadId) ?_ ?_ hstart hagree
    events
  · intro views event next htracked hbefore _ hstep
    exact (messagesTracked_step htracked hbefore hstep).1
  · intro views event next htracked hbefore hstep
    exact (messagesTracked_step htracked hbefore hstep).2

end Views

section Samples

attribute [local instance] relativeClientRuntime codePointCollation

/-- Thread `t1` as created, without rows. -/
def createdMessageViews : MessageViews where
  readModel := projectEvent (createEmptyReadModel "2026-01-01") sampleCreated
  turns := .empty _
  messages := .empty _
  store := applyEnvironmentOrchestrationEvent "env" initialEnvironmentState sampleCreated

theorem createdMessageViews_tracked : MessagesTracked "t1" createdMessageViews where
  known := rfl
  keyed := show (applyEnvironmentOrchestrationEvent "env" initialEnvironmentState
      sampleCreated).Keyed from
    (transcripts_applyEnvironmentOrchestrationEvent keyed_initialEnvironmentState).1
  shown := rfl
  sameInStore := rfl

theorem createdMessageViews_agree : MessagesAgree "t1" createdMessageViews :=
  messagesAgree_of_empty rfl rfl (fun _ hrow => absurd hrow List.not_mem_nil)

/-- A message streamed, completed, replaced and streamed on. -/
def streamedParts : List OrchestrationEvent :=
  [samplePart 2 "a" true, samplePart 3 "😀" true, samplePart 4 "" false,
    samplePart 5 "c" false, samplePart 6 "d" true]

theorem message_texts_agree_streamed :
    Throughout (MessageViews.step "env" "t1") (MessagesAgree "t1") createdMessageViews
        streamedParts ∧
      (exec (MessageViews.step "env" "t1") createdMessageViews streamedParts).map
          (fun views => rowEntry "t1" views.messages "assistant:m1") =
        some (some ⟨"assistant:m1", "cd", true, none⟩) := by
  refine ⟨(message_texts_agree_iff createdMessageViews_tracked createdMessageViews_agree
    streamedParts).mpr ?_, by decide +kernel⟩
  intro _ _
  refine ⟨wellFormed_units "a", fun _ _ => ⟨wellFormed_units "😀", fun _ _ => ?_⟩⟩
  exact ⟨wellFormed_units "", fun _ _ => ⟨wellFormed_units "c", fun _ _ =>
    ⟨wellFormed_units "d", trivial⟩⟩⟩

/-- An emoji streamed in two parts, one surrogate each. -/
def splitEmoji : List OrchestrationEvent :=
  [samplePart 2 [0xD83D] true, samplePart 3 [0xDE00] true]

/-- The read model puts the emoji together, and the row keeps two replacement characters. -/
theorem split_emoji_rows_differ :
    (exec (MessageViews.step "env" "t1") createdMessageViews splitEmoji).map
        (fun views => (rowEntry "t1" views.messages "assistant:m1").map MessageEntry.text) =
      some (some [0xFFFD, 0xFFFD]) ∧
    (exec (MessageViews.step "env" "t1") createdMessageViews splitEmoji).map
        (fun views => (MessageEntry.find "assistant:m1"
          (memoryEntries "t1" views.readModel)).map MessageEntry.text) =
      some (some (units "😀")) ∧
    ¬ Throughout (MessageViews.step "env" "t1") (MessagesAgree "t1") createdMessageViews
      splitEmoji := by
  have hrow : (exec (MessageViews.step "env" "t1") createdMessageViews splitEmoji).map
      (fun views => (rowEntry "t1" views.messages "assistant:m1").map MessageEntry.text) =
      some (some [0xFFFD, 0xFFFD]) := by
    decide +kernel
  have hmemory : (exec (MessageViews.step "env" "t1") createdMessageViews splitEmoji).map
      (fun views => (MessageEntry.find "assistant:m1"
        (memoryEntries "t1" views.readModel)).map MessageEntry.text) =
      some (some (units "😀")) := by
    decide +kernel
  refine ⟨hrow, hmemory, fun hagree => ?_⟩
  obtain ⟨views, hrun, hviews⟩ := Option.map_eq_some_iff.mp hrow
  rw [hrun, Option.map_some, ← ((hagree.final hrun) "assistant:m1").1, hviews] at hmemory
  exact absurd (Option.some.inj (Option.some.inj hmemory)) (by decide +kernel)

end Samples

end GT3Code.Web
