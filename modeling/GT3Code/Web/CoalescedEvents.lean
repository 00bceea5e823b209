import GT3Code.Web.ThreadTranscripts

/-! # Coalesced events

Consecutive events on one message are taken over as one event. Whether the one says what
the many say depends on the text and the attachments the store has of the message, and on
what the earlier ones of them brought.
-/

namespace GT3Code.Web

open GT3Code.Base GT3Code.Contracts GT3Code.Orchestration

/-- The payload of `thread.message-sent`. -/
def sentPayload (event : OrchestrationEvent) : Option ThreadMessageSentPayload :=
  match event.payload with
  | .threadMessageSent payload => some payload
  | _ => none

def SameMessage (previous payload : ThreadMessageSentPayload) : Prop :=
  previous.threadId = payload.threadId ∧ previous.messageId = payload.messageId

instance (previous payload : ThreadMessageSentPayload) : Decidable (SameMessage previous payload) :=
  inferInstanceAs (Decidable (_ ∧ _))

/-- The payload of an event taken over together with the one before it. -/
def coalescePayload (previous payload : ThreadMessageSentPayload) : ThreadMessageSentPayload :=
  { payload with
    attachments := payload.attachments.orElse (fun _ => previous.attachments)
    createdAt := previous.createdAt
    text :=
      if payload.streaming = false ∧ payload.text.length > 0 then payload.text
      else previous.text ++ payload.text }

def coalesceStep (coalesced : List OrchestrationEvent) (event : OrchestrationEvent) :
    List OrchestrationEvent :=
  match coalesced.getLast?.bind sentPayload, sentPayload event with
  | some previous, some payload =>
    if SameMessage previous payload then
      coalesced.dropLast ++
        [{ event with payload := .threadMessageSent (coalescePayload previous payload) }]
    else coalesced ++ [event]
  | _, _ => coalesced ++ [event]

def coalesceOrchestrationUiEvents (events : List OrchestrationEvent) : List OrchestrationEvent :=
  if events.length < 2 then events else events.foldl coalesceStep []

structure ShownMessage where
  id : MessageId
  text : Text16
  streaming : Bool
  turnId : Option TurnId
  attachments : Option (List ChatImageAttachment)
  deriving DecidableEq

def ChatMessage.shown (message : ChatMessage) : ShownMessage where
  id := message.id
  text := message.text
  streaming := message.streaming
  turnId := message.turnId
  attachments := message.attachments

def SentMessage.shown (message : SentMessage) : ShownMessage where
  id := message.id
  text := message.text
  streaming := message.streaming
  turnId := message.turnId
  attachments := message.attachments

/-- The messages of a thread, nothing where the store does not have the thread. -/
def shownMessages (state : EnvironmentState) (threadId : ThreadId) : Option (List ShownMessage) :=
  (getThreadFromEnvironmentState state threadId).map
    (fun thread => thread.messages.map ChatMessage.shown)

def SameMessages (left right : EnvironmentState) : Prop :=
  ∀ threadId, shownMessages left threadId = shownMessages right threadId

theorem shownMessages_eq (state : EnvironmentState) (threadId : ThreadId) :
    shownMessages state threadId =
      (transcripts state threadId).map
        (fun transcript => transcript.messages.map SentMessage.shown) := by
  rw [shownMessages, transcripts, Option.map_map]
  refine congrFun (congrArg Option.map (funext fun thread => ?_)) _
  simp only [Function.comp_apply, Thread.transcript, List.map_map]
  rfl

namespace Transcript

def find (transcript : Transcript) (messageId : MessageId) : Option SentMessage :=
  transcript.messages.find? (fun entry => entry.id = messageId)

def textOf (transcript : Transcript) (messageId : MessageId) : Text16 :=
  ((transcript.find messageId).map SentMessage.text).getD []

def attachmentsOf (transcript : Transcript) (messageId : MessageId) :
    Option (List ChatImageAttachment) :=
  (transcript.find messageId).bind SentMessage.attachments

end Transcript

/-- The events `run` send `sent`, earlier parts of the message of `payload`, and no part
comes before them. -/
structure SendsParts (base run : List OrchestrationEvent) (sent : List ThreadMessageSentPayload)
    (payload : ThreadMessageSentPayload) : Prop where
  parts : run.map sentPayload = sent.map some
  same : ∀ part ∈ sent, SameMessage part payload
  start : ∀ part, base.getLast?.bind sentPayload = some part → ¬ SameMessage part payload

section Condition

variable [ClientRuntime]

/-- Whether `payload` after the parts `sent` is what it is together with them. -/
structure PartFits (transcript : Transcript) (sent : List ThreadMessageSentPayload)
    (payload : ThreadMessageSentPayload) : Prop where
  kept : sent ≠ [] → payload.messageId ∈ transcript.messages.map SentMessage.id →
    payload.messageId ∈ (sliceLast MAX_THREAD_MESSAGES transcript.messages).map SentMessage.id
  text : transcript.textOf payload.messageId = [] ∨ (∀ part ∈ sent, part.text = []) ∨
    sent.getLast?.map ThreadMessageSentPayload.streaming = some payload.streaming ∨
    (payload.streaming = false ∧ payload.text ≠ [])
  attachments : payload.attachments = some [] →
    ∀ given, (sent.filterMap ThreadMessageSentPayload.attachments).getLast? = some given →
      given ≠ [] → transcript.attachmentsOf payload.messageId =
        some (given.map (mapAttachment transcript.environmentId))

variable [Collation]

/-- In every store the events lead to, each part of a message fits the parts before it. -/
def PartsFit (environmentId : EnvironmentId) (state : EnvironmentState)
    (events : List OrchestrationEvent) : Prop :=
  ∀ base run event later sent payload, events = base ++ run ++ event :: later →
    sentPayload event = some payload → SendsParts base run sent payload →
    ∀ transcript, transcripts (applyOrchestrationEvents environmentId state base)
      payload.threadId = some transcript → PartFits transcript sent payload

/-- The parts of a message the store does not have are of one role. -/
def PartsKeepRole (environmentId : EnvironmentId) (state : EnvironmentState)
    (events : List OrchestrationEvent) : Prop :=
  ∀ base run event later sent payload, events = base ++ run ++ event :: later →
    sentPayload event = some payload → SendsParts base run sent payload →
    ∀ transcript, transcripts (applyOrchestrationEvents environmentId state base)
      payload.threadId = some transcript →
      payload.messageId ∉ transcript.messages.map SentMessage.id →
      ∀ part ∈ sent.getLast?, part.role = payload.role

end Condition

inductive Joins : List ThreadMessageSentPayload → ThreadMessageSentPayload → Prop
  | one (payload : ThreadMessageSentPayload) : Joins [payload] payload
  | next {sent : List ThreadMessageSentPayload} {joined : ThreadMessageSentPayload}
      (h : Joins sent joined) (payload : ThreadMessageSentPayload) :
      Joins (sent ++ [payload]) (coalescePayload joined payload)

section Joined

variable {sent : List ThreadMessageSentPayload} {joined payload : ThreadMessageSentPayload}

theorem SameMessage.trans {a b c : ThreadMessageSentPayload} (hab : SameMessage a b)
    (hbc : SameMessage b c) : SameMessage a c :=
  ⟨hab.1.trans hbc.1, hab.2.trans hbc.2⟩

theorem Joins.same (h : Joins sent joined) (hsame : ∀ part ∈ sent, SameMessage part payload) :
    SameMessage joined payload := by
  cases h with
  | one joined => exact hsame joined (List.mem_singleton_self _)
  | next h part => exact hsame part (by simp)

theorem Joins.streaming (h : Joins sent joined) :
    sent.getLast?.map ThreadMessageSentPayload.streaming = some joined.streaming := by
  cases h <;> simp [coalescePayload]

theorem Joins.role (h : Joins sent joined) :
    sent.getLast?.map ThreadMessageSentPayload.role = some joined.role := by
  cases h <;> simp [coalescePayload]

theorem Joins.attachments (h : Joins sent joined) :
    (sent.filterMap ThreadMessageSentPayload.attachments).getLast? = joined.attachments := by
  induction h with
  | one payload => cases hgiven : payload.attachments <;> simp [hgiven]
  | @next sent joined h payload ih =>
    rw [List.filterMap_append, List.getLast?_append, ih]
    cases hgiven : payload.attachments <;> simp [coalescePayload, hgiven]

theorem text_coalescePayload_eq_empty (previous payload : ThreadMessageSentPayload) :
    (coalescePayload previous payload).text = [] ↔ previous.text = [] ∧ payload.text = [] := by
  simp only [coalescePayload]
  split
  · rename_i hreplaces
    have hne : payload.text ≠ [] := fun h => by simp [h] at hreplaces
    simp [hne]
  · simp

theorem Joins.text (h : Joins sent joined) :
    joined.text = [] ↔ ∀ part ∈ sent, part.text = [] := by
  induction h with
  | one payload => simp
  | @next sent joined h payload ih =>
    rw [text_coalescePayload_eq_empty, ih]
    simp [or_imp, forall_and]

end Joined

section Coalesced

variable {base run : List OrchestrationEvent} {sent : List ThreadMessageSentPayload}
  {payload : ThreadMessageSentPayload}

theorem coalesceOrchestrationUiEvents_eq (events : List OrchestrationEvent) :
    coalesceOrchestrationUiEvents events = events.foldl coalesceStep [] := by
  unfold coalesceOrchestrationUiEvents
  split
  · rename_i hshort
    cases events with
    | nil => rfl
    | cons event rest =>
      have hrest : rest = [] := by
        rw [List.length_cons] at hshort
        exact List.length_eq_zero_iff.mp (by omega)
      simp [hrest, coalesceStep]
  · rfl

variable {coalesced : List OrchestrationEvent} {event : OrchestrationEvent}
  {previous : ThreadMessageSentPayload}

theorem coalesceStep_of_same {last : OrchestrationEvent}
    (hlast : sentPayload last = some previous) (hevent : sentPayload event = some payload)
    (hsame : SameMessage previous payload) :
    coalesceStep (coalesced ++ [last]) event = coalesced ++
      [{ event with payload := .threadMessageSent (coalescePayload previous payload) }] := by
  simp [coalesceStep, hlast, hevent, hsame]

theorem coalesceStep_of_not_same
    (h : ∀ previous payload, coalesced.getLast?.bind sentPayload = some previous →
      sentPayload event = some payload → ¬ SameMessage previous payload) :
    coalesceStep coalesced event = coalesced ++ [event] := by
  unfold coalesceStep
  split
  · rename_i previous payload hprevious hpayload
    rw [if_neg (h previous payload hprevious hpayload)]
  · rfl

theorem getLast?_foldl_coalesceStep (events : List OrchestrationEvent)
    (h : (events.foldl coalesceStep []).getLast?.bind sentPayload = some previous) :
    ∃ part, events.getLast?.bind sentPayload = some part ∧ SameMessage part previous := by
  induction events using List.reverseRecOn with
  | nil => cases h
  | append_singleton events event _ =>
    rw [List.foldl_append, List.foldl_cons, List.foldl_nil] at h
    rw [List.getLast?_concat, Option.bind_some]
    unfold coalesceStep at h
    split at h
    · rename_i joined payload _ hpayload
      refine ⟨payload, hpayload, ?_⟩
      split at h
      · rw [List.getLast?_concat, Option.bind_some] at h
        cases h
        exact ⟨rfl, rfl⟩
      · rw [List.getLast?_concat, Option.bind_some, hpayload] at h
        cases h
        exact ⟨rfl, rfl⟩
    · rw [List.getLast?_concat, Option.bind_some] at h
      exact ⟨previous, h, rfl, rfl⟩

theorem foldl_coalesceStep_run (hparts : run.map sentPayload = sent.map some)
    (hne : sent ≠ []) (hsame : ∀ part ∈ sent, SameMessage part payload)
    (hstart : ∀ part, base.getLast?.bind sentPayload = some part → ¬ SameMessage part payload) :
    ∃ event joined, (base ++ run).foldl coalesceStep [] = base.foldl coalesceStep [] ++ [event] ∧
      sentPayload event = some joined ∧ Joins sent joined := by
  induction sent using List.reverseRecOn generalizing run with
  | nil => exact absurd rfl hne
  | append_singleton sent part ih =>
    rw [List.map_append] at hparts
    obtain ⟨run, last, rfl, hrun, hlast⟩ := List.map_eq_append_iff.mp hparts
    obtain ⟨event, rfl, hevent⟩ : ∃ event, last = [event] ∧ sentPayload event = some part := by
      obtain ⟨event, rest, rfl, hevent, hrest⟩ := List.map_eq_cons_iff.mp hlast
      exact ⟨event, by rw [List.map_eq_nil_iff.mp hrest], hevent⟩
    have hpart : SameMessage part payload := hsame part (by simp)
    rw [← List.append_assoc, List.foldl_append, List.foldl_cons, List.foldl_nil]
    by_cases hfirst : sent = []
    · subst hfirst
      rw [List.map_eq_nil_iff.mp hrun, List.append_nil]
      refine ⟨event, part, coalesceStep_of_not_same ?_, hevent, .one part⟩
      intro previous _ hprevious hpayload hprevious_same
      cases hevent.symm.trans hpayload
      obtain ⟨start, hbase, hstart_same⟩ := getLast?_foldl_coalesceStep base hprevious
      exact hstart start hbase ((hstart_same.trans hprevious_same).trans hpart)
    · obtain ⟨before, joined, hfold, hbefore, hjoins⟩ :=
        ih hrun hfirst (fun p hp => hsame p (List.mem_append_left _ hp))
      have hjoined : SameMessage joined part :=
        (hjoins.same (fun p hp => hsame p (List.mem_append_left _ hp))).trans
          ⟨hpart.1.symm, hpart.2.symm⟩
      rw [hfold, coalesceStep_of_same hbefore hevent hjoined]
      exact ⟨_, _, rfl, rfl, hjoins.next part⟩

end Coalesced

section Merging

variable [ClientRuntime]

/-- Whether a payload, joined with the payload before it, does to an entry of this text and
these attachments what the two do one after the other. -/
def JoinFits (environmentId : EnvironmentId) (text : Text16)
    (attachments : Option (List ChatImageAttachment))
    (previous payload : ThreadMessageSentPayload) : Prop :=
  (text = [] ∨ previous.text = [] ∨ previous.streaming = payload.streaming ∨
      (payload.streaming = false ∧ payload.text ≠ [])) ∧
    (payload.attachments = some [] → ∀ given, previous.attachments = some given → given ≠ [] →
      attachments = some (given.map (mapAttachment environmentId)))

theorem text_mergeInto_iff (environmentId : EnvironmentId)
    (previous payload : ThreadMessageSentPayload) (entry : SentMessage) :
    ((sentOfPayload environmentId (coalescePayload previous payload)).mergeInto entry).text =
        ((sentOfPayload environmentId payload).mergeInto
          ((sentOfPayload environmentId previous).mergeInto entry)).text ↔
      (entry.text = [] ∨ previous.text = [] ∨ previous.streaming = payload.streaming ∨
        (payload.streaming = false ∧ payload.text ≠ [])) := by
  have hlength : ∀ text : Text16, text.length > 0 ↔ text ≠ [] := by
    intro text
    rw [gt_iff_lt, Nat.pos_iff_ne_zero, ne_eq, List.length_eq_zero_iff]
  simp only [SentMessage.mergeInto, sentOfPayload, mapMessage, messageOfPayload, ChatMessage.sent,
    coalescePayload, hlength]
  by_cases htext : payload.text = []
  · cases hstreaming : payload.streaming <;> cases hprevious : previous.streaming <;>
      by_cases hempty : previous.text = [] <;>
      simp [htext, hempty, eq_comm (a := previous.text)]
  · cases hstreaming : payload.streaming <;> cases hprevious : previous.streaming <;>
      by_cases hempty : previous.text = [] <;>
      simp [htext, hempty, List.append_assoc]

theorem attachments_mergeInto_iff (environmentId : EnvironmentId)
    (previous payload : ThreadMessageSentPayload) (entry : SentMessage) :
    ((sentOfPayload environmentId (coalescePayload previous payload)).mergeInto entry).attachments =
        ((sentOfPayload environmentId payload).mergeInto
          ((sentOfPayload environmentId previous).mergeInto entry)).attachments ↔
      (payload.attachments = some [] → ∀ given, previous.attachments = some given → given ≠ [] →
        entry.attachments = some (given.map (mapAttachment environmentId))) := by
  simp only [SentMessage.mergeInto, sentOfPayload, mapMessage, messageOfPayload, ChatMessage.sent,
    coalescePayload]
  cases hpayload : payload.attachments with
  | none => simp
  | some attachments =>
    cases attachments with
    | cons attachment attachments => simp [Option.filter_some]
    | nil =>
      cases hprevious : previous.attachments with
      | none => simp [Option.filter_some]
      | some given => cases given <;> simp [Option.filter_some]

theorem mergeInto_iff (environmentId : EnvironmentId)
    (previous payload : ThreadMessageSentPayload) (entry : SentMessage) :
    (sentOfPayload environmentId (coalescePayload previous payload)).mergeInto entry =
        (sentOfPayload environmentId payload).mergeInto
          ((sentOfPayload environmentId previous).mergeInto entry) ↔
      JoinFits environmentId entry.text entry.attachments previous payload := by
  rw [JoinFits, ← text_mergeInto_iff environmentId, ← attachments_mergeInto_iff environmentId]
  constructor
  · intro h
    rw [h]
    exact ⟨rfl, rfl⟩
  · rintro ⟨htext, hattachments⟩
    exact SentMessage.ext rfl rfl htext hattachments rfl rfl rfl

omit [ClientRuntime] in
theorem shown_eq_iff {left right : SentMessage} (hrole : left.role = right.role)
    (hcreatedAt : left.createdAt = right.createdAt) : left.shown = right.shown ↔ left = right := by
  constructor
  · intro h
    simp only [SentMessage.shown, ShownMessage.mk.injEq] at h
    obtain ⟨hid, htext, hstreaming, hturnId, hattachments⟩ := h
    exact SentMessage.ext hid hrole htext hattachments hturnId hcreatedAt hstreaming
  · exact congrArg SentMessage.shown

omit [ClientRuntime] in
theorem mergeInto_of_blank {entry : SentMessage} (htext : entry.text = [])
    (hattachments : entry.attachments = none) (message : SentMessage) :
    message.mergeInto entry =
      { message with id := entry.id, role := entry.role, createdAt := entry.createdAt } := by
  refine SentMessage.ext rfl rfl ?_ ?_ rfl rfl rfl
  · by_cases hempty : message.text = []
    · simp [SentMessage.mergeInto, htext, hempty]
    · have hpositive : 0 < message.text.length :=
        Nat.pos_of_ne_zero (fun h => hempty (List.length_eq_zero_iff.mp h))
      simp [SentMessage.mergeInto, htext, hpositive]
  · simp [SentMessage.mergeInto, hattachments]

end Merging

/-! ## Parts put into a list -/

section Putting

variable {messages : List SentMessage} {first second joined : SentMessage}

/-- `message` merged into the entry of its id. -/
def mergeEntry (message entry : SentMessage) : SentMessage :=
  if entry.id = message.id then message.mergeInto entry else entry

variable {message : SentMessage}

variable {entry : SentMessage}

theorem mergeEntry_of_eq (h : entry.id = message.id) :
    mergeEntry message entry = message.mergeInto entry :=
  if_pos h

theorem mergeEntry_of_ne (h : entry.id ≠ message.id) : mergeEntry message entry = entry :=
  if_neg h

theorem id_mergeEntry (message entry : SentMessage) : (mergeEntry message entry).id = entry.id := by
  unfold mergeEntry
  split <;> rfl

theorem map_mergeEntry_of_not_mem (h : message.id ∉ messages.map SentMessage.id) :
    messages.map (mergeEntry message) = messages := by
  refine (List.map_congr_left fun entry hentry => ?_).trans (List.map_id messages)
  exact mergeEntry_of_ne (fun heq => h (heq ▸ List.mem_map_of_mem hentry))

theorem map_id_mergeEntry (message : SentMessage) (messages : List SentMessage) :
    (messages.map (mergeEntry message)).map SentMessage.id = messages.map SentMessage.id := by
  rw [List.map_map]
  exact List.map_congr_left (fun entry _ => id_mergeEntry message entry)

theorem put_of_mem (h : message.id ∈ messages.map SentMessage.id) :
    message.put messages =
      (sliceLast MAX_THREAD_MESSAGES messages).map (mergeEntry message) := by
  rw [SentMessage.put, if_pos h, map_sliceLast]
  rfl

theorem put_of_not_mem (h : message.id ∉ messages.map SentMessage.id) :
    message.put messages = sliceLast MAX_THREAD_MESSAGES (messages ++ [message]) := by
  rw [SentMessage.put, if_neg h]

theorem sliceLast_append_singleton {α : Type} {count : Nat} (hcount : 0 < count)
    (items : List α) (item : α) :
    sliceLast count (items ++ [item]) = sliceLast (count - 1) items ++ [item] := by
  unfold sliceLast
  rw [List.length_append, List.length_singleton, List.drop_append_of_le_length (by omega)]
  congr 2
  omega

theorem max_pos : 0 < MAX_THREAD_MESSAGES := by decide

theorem put_put_of_not_mem (h : first.id ∉ messages.map SentMessage.id)
    (hid : second.id = first.id) :
    second.put (first.put messages) =
      sliceLast (MAX_THREAD_MESSAGES - 1) messages ++ [second.mergeInto first] := by
  have hsliced : first.id ∉
      (sliceLast (MAX_THREAD_MESSAGES - 1) messages).map SentMessage.id := by
    rw [map_sliceLast]
    exact fun hmem => h (mem_of_mem_sliceLast hmem)
  have hlength : (sliceLast (MAX_THREAD_MESSAGES - 1) messages ++ [first]).length ≤
      MAX_THREAD_MESSAGES := by
    have hmax := max_pos
    simp only [sliceLast, List.length_append, List.length_drop, List.length_singleton]
    omega
  have hmem : second.id ∈ (sliceLast (MAX_THREAD_MESSAGES - 1) messages ++ [first]).map
      SentMessage.id := by
    simp [hid]
  have hkept := map_mergeEntry_of_not_mem (hid ▸ hsliced)
  rw [put_of_not_mem h, sliceLast_append_singleton max_pos, put_of_mem hmem,
    sliceLast_of_length_le hlength, List.map_append, hkept, List.map_singleton,
    mergeEntry_of_eq hid.symm]

theorem put_put_of_mem
    (h : first.id ∈ (sliceLast MAX_THREAD_MESSAGES messages).map SentMessage.id)
    (hid : second.id = first.id) :
    second.put (first.put messages) = (sliceLast MAX_THREAD_MESSAGES messages).map
      (fun entry => mergeEntry second (mergeEntry first entry)) := by
  have hmem : first.id ∈ messages.map SentMessage.id := by
    rw [map_sliceLast] at h
    exact mem_of_mem_sliceLast h
  have hlength : ((sliceLast MAX_THREAD_MESSAGES messages).map (mergeEntry first)).length ≤
      MAX_THREAD_MESSAGES := by
    simp only [sliceLast, List.length_map, List.length_drop]
    omega
  have hsecond : second.id ∈
      ((sliceLast MAX_THREAD_MESSAGES messages).map (mergeEntry first)).map SentMessage.id := by
    rw [map_id_mergeEntry, hid]
    exact h
  rw [put_of_mem hmem, put_of_mem hsecond, sliceLast_of_length_le hlength, List.map_map]
  rfl

theorem mem_put_self (message : SentMessage) {messages : List SentMessage}
    (h : message.id ∉ messages.map SentMessage.id) :
    message.id ∈ (message.put messages).map SentMessage.id := by
  rw [put_of_not_mem h, sliceLast_append_singleton max_pos]
  simp

end Putting

variable {transcript : Transcript} {messageId : MessageId}

theorem Transcript.find_eq_none (h : messageId ∉ transcript.messages.map SentMessage.id) :
    transcript.find messageId = none := by
  refine List.find?_eq_none.mpr (fun entry hentry hid => h ?_)
  rw [← of_decide_eq_true hid]
  exact List.mem_map_of_mem hentry

theorem Transcript.find_eq_some
    (hinj : Set.InjOn SentMessage.id {entry | entry ∈ transcript.messages}) {entry : SentMessage}
    (hentry : entry ∈ transcript.messages) (hid : entry.id = messageId) :
    transcript.find messageId = some entry := by
  cases hfind : transcript.find messageId with
  | none => exact absurd (decide_eq_true hid) (List.find?_eq_none.mp hfind entry hentry)
  | some found =>
    have hfound : found.id = messageId := by
      simpa using List.find?_some hfind
    rw [hinj (List.mem_of_find?_eq_some hfind) hentry (hfound.trans hid.symm)]

section Sending

variable [ClientRuntime] {previous payload : ThreadMessageSentPayload}

variable {messages : List SentMessage}

theorem put_put_new_iff (environmentId : EnvironmentId) (hsame : SameMessage previous payload)
    (h : previous.messageId ∉ messages.map SentMessage.id) :
    ((((sentOfPayload environmentId payload).put
        ((sentOfPayload environmentId previous).put messages)).map SentMessage.shown =
      ((sentOfPayload environmentId (coalescePayload previous payload)).put messages).map
        SentMessage.shown) ↔ JoinFits environmentId [] none previous payload) ∧
      (JoinFits environmentId [] none previous payload → previous.role = payload.role →
        (sentOfPayload environmentId payload).put
          ((sentOfPayload environmentId previous).put messages) =
            (sentOfPayload environmentId (coalescePayload previous payload)).put messages) := by
  let blank : SentMessage :=
    { sentOfPayload environmentId previous with text := [], attachments := none }
  have hfirst : (sentOfPayload environmentId previous).mergeInto blank =
      sentOfPayload environmentId previous := mergeInto_of_blank rfl rfl _
  have hjoined : ((sentOfPayload environmentId (coalescePayload previous payload)).mergeInto
      blank).shown = (sentOfPayload environmentId (coalescePayload previous payload)).shown := by
    rw [mergeInto_of_blank rfl rfl]
    exact congrArg (fun id => { (sentOfPayload environmentId
      (coalescePayload previous payload)).shown with id := id }) hsame.2
  have hmerge := mergeInto_iff environmentId previous payload blank
  have hnew : payload.messageId ∉ messages.map SentMessage.id := hsame.2 ▸ h
  have htwo : (sentOfPayload environmentId payload).put
      ((sentOfPayload environmentId previous).put messages) =
        sliceLast (MAX_THREAD_MESSAGES - 1) messages ++
          [(sentOfPayload environmentId payload).mergeInto
            (sentOfPayload environmentId previous)] :=
    put_put_of_not_mem h hsame.2.symm
  have hone : (sentOfPayload environmentId (coalescePayload previous payload)).put messages =
      sliceLast (MAX_THREAD_MESSAGES - 1) messages ++
        [sentOfPayload environmentId (coalescePayload previous payload)] := by
    rw [put_of_not_mem hnew, sliceLast_append_singleton max_pos]
  constructor
  · rw [htwo, hone, List.map_append, List.map_append, List.append_cancel_left_eq,
      List.map_singleton, List.map_singleton, List.singleton_inj, ← hjoined, ← hmerge, eq_comm]
    rw [hfirst]
    exact shown_eq_iff rfl rfl
  · intro hfits hrole
    have hsecond : (sentOfPayload environmentId payload).mergeInto
        (sentOfPayload environmentId previous) =
          sentOfPayload environmentId (coalescePayload previous payload) := by
      calc (sentOfPayload environmentId payload).mergeInto (sentOfPayload environmentId previous)
          = (sentOfPayload environmentId payload).mergeInto
              ((sentOfPayload environmentId previous).mergeInto blank) := by rw [hfirst]
        _ = (sentOfPayload environmentId (coalescePayload previous payload)).mergeInto blank :=
            (hmerge.mpr hfits).symm
        _ = _ := by
            rw [mergeInto_of_blank rfl rfl]
            exact SentMessage.ext hsame.2 hrole rfl rfl rfl rfl rfl
    rw [htwo, hone, hsecond]

theorem put_put_known_iff (environmentId : EnvironmentId) (hsame : SameMessage previous payload)
    {stored : SentMessage} (hinj : Set.InjOn SentMessage.id {entry | entry ∈ messages})
    (hstored : stored ∈ sliceLast MAX_THREAD_MESSAGES messages)
    (hid : stored.id = payload.messageId) :
    ((((sentOfPayload environmentId payload).put
        ((sentOfPayload environmentId previous).put messages)).map SentMessage.shown =
      ((sentOfPayload environmentId (coalescePayload previous payload)).put messages).map
        SentMessage.shown) ↔
          JoinFits environmentId stored.text stored.attachments previous payload) ∧
      (JoinFits environmentId stored.text stored.attachments previous payload →
        (sentOfPayload environmentId payload).put
          ((sentOfPayload environmentId previous).put messages) =
            (sentOfPayload environmentId (coalescePayload previous payload)).put messages) := by
  have hfirstId : stored.id = (sentOfPayload environmentId previous).id :=
    hid.trans hsame.2.symm
  have hfirst : (sentOfPayload environmentId previous).id ∈
      (sliceLast MAX_THREAD_MESSAGES messages).map SentMessage.id :=
    hfirstId ▸ List.mem_map_of_mem hstored
  have hmem : (sentOfPayload environmentId (coalescePayload previous payload)).id ∈
      messages.map SentMessage.id :=
    List.mem_map.mpr ⟨stored, mem_of_mem_sliceLast hstored, hid⟩
  have htwo : (sentOfPayload environmentId payload).put
      ((sentOfPayload environmentId previous).put messages) =
        (sliceLast MAX_THREAD_MESSAGES messages).map (fun entry =>
          mergeEntry (sentOfPayload environmentId payload)
            (mergeEntry (sentOfPayload environmentId previous) entry)) :=
    put_put_of_mem hfirst hsame.2.symm
  have hone := put_of_mem hmem
  have hmerge := mergeInto_iff environmentId previous payload stored
  -- Entries of other ids are merged with neither part.
  have hentry : ∀ entry ∈ sliceLast MAX_THREAD_MESSAGES messages, entry.id ≠ stored.id →
      mergeEntry (sentOfPayload environmentId payload)
        (mergeEntry (sentOfPayload environmentId previous) entry) =
      mergeEntry (sentOfPayload environmentId (coalescePayload previous payload)) entry := by
    intro entry _ hne
    have hprevious : entry.id ≠ (sentOfPayload environmentId previous).id :=
      fun h => hne (h.trans hfirstId.symm)
    have hpayload : entry.id ≠ (sentOfPayload environmentId payload).id :=
      fun h => hne (h.trans hid.symm)
    have hjoined :
        entry.id ≠ (sentOfPayload environmentId (coalescePayload previous payload)).id := hpayload
    rw [mergeEntry_of_ne hprevious, mergeEntry_of_ne hpayload, mergeEntry_of_ne hjoined]
  have hstoredTwo : mergeEntry (sentOfPayload environmentId payload)
      (mergeEntry (sentOfPayload environmentId previous) stored) =
      (sentOfPayload environmentId payload).mergeInto
        ((sentOfPayload environmentId previous).mergeInto stored) := by
    rw [mergeEntry_of_eq hfirstId]
    exact mergeEntry_of_eq hid
  have hstoredOne : mergeEntry (sentOfPayload environmentId (coalescePayload previous payload))
      stored = (sentOfPayload environmentId (coalescePayload previous payload)).mergeInto stored :=
    mergeEntry_of_eq hid
  have hall : JoinFits environmentId stored.text stored.attachments previous payload →
      (sentOfPayload environmentId payload).put
        ((sentOfPayload environmentId previous).put messages) =
          (sentOfPayload environmentId (coalescePayload previous payload)).put messages := by
    intro hfits
    rw [htwo, hone]
    refine List.map_congr_left (fun entry hmementry => ?_)
    by_cases heq : entry.id = stored.id
    · rw [hinj (mem_of_mem_sliceLast hmementry) (mem_of_mem_sliceLast hstored) heq, hstoredTwo,
        hstoredOne]
      exact (hmerge.mpr hfits).symm
    · exact hentry entry hmementry heq
  refine ⟨⟨fun h => ?_, fun hfits => by rw [hall hfits]⟩, hall⟩
  rw [htwo, hone, List.map_map, List.map_map] at h
  have hshown := List.map_inj_left.mp h stored hstored
  simp only [Function.comp_apply, hstoredTwo, hstoredOne] at hshown
  have hsameEntry : (sentOfPayload environmentId payload).mergeInto
      ((sentOfPayload environmentId previous).mergeInto stored) =
        (sentOfPayload environmentId (coalescePayload previous payload)).mergeInto stored := by
    refine (shown_eq_iff ?_ ?_).mp hshown <;> rfl
  exact hmerge.mp hsameEntry.symm

theorem put_put_cut (environmentId : EnvironmentId) (hsame : SameMessage previous payload)
    (hmem : payload.messageId ∈ messages.map SentMessage.id)
    (hcut : payload.messageId ∉
      (sliceLast MAX_THREAD_MESSAGES messages).map SentMessage.id) :
    ((sentOfPayload environmentId payload).put
        ((sentOfPayload environmentId previous).put messages)).map SentMessage.shown ≠
      ((sentOfPayload environmentId (coalescePayload previous payload)).put messages).map
        SentMessage.shown := by
  intro h
  have hids := congrArg (List.map ShownMessage.id) h
  rw [List.map_map, List.map_map] at hids
  have hidsEq : ((sentOfPayload environmentId payload).put
      ((sentOfPayload environmentId previous).put messages)).map SentMessage.id =
        ((sentOfPayload environmentId (coalescePayload previous payload)).put messages).map
          SentMessage.id := hids
  have hid : (sentOfPayload environmentId previous).id = payload.messageId := hsame.2
  have hprevious : (sentOfPayload environmentId previous).id ∈ messages.map SentMessage.id := by
    rw [hid]
    exact hmem
  have hjoined : (sentOfPayload environmentId (coalescePayload previous payload)).id ∈
      messages.map SentMessage.id := hmem
  have hnew : (sentOfPayload environmentId payload).id ∉
      ((sentOfPayload environmentId previous).put messages).map SentMessage.id := by
    rw [put_of_mem hprevious, map_id_mergeEntry]
    exact hcut
  have hback := mem_put_self _ hnew
  rw [hidsEq, put_of_mem hjoined, map_id_mergeEntry] at hback
  exact hcut hback

variable {transcript : Transcript} {sent : List ThreadMessageSentPayload}

theorem partFits_iff (hjoins : Joins sent previous) :
    PartFits transcript sent payload ↔
      (payload.messageId ∈ transcript.messages.map SentMessage.id →
        payload.messageId ∈
          (sliceLast MAX_THREAD_MESSAGES transcript.messages).map SentMessage.id) ∧
      JoinFits transcript.environmentId (transcript.textOf payload.messageId)
        (transcript.attachmentsOf payload.messageId) previous payload := by
  have hne : sent ≠ [] := by cases hjoins <;> simp
  have hstreaming : sent.getLast?.map ThreadMessageSentPayload.streaming =
      some payload.streaming ↔ previous.streaming = payload.streaming := by
    rw [hjoins.streaming, Option.some.injEq]
  constructor
  · rintro ⟨hkept, htext, hattachments⟩
    rw [← hjoins.text, hstreaming] at htext
    rw [hjoins.attachments] at hattachments
    exact ⟨hkept hne, htext, hattachments⟩
  · rintro ⟨hkept, htext, hattachments⟩
    rw [← hjoins.attachments] at hattachments
    rw [← hstreaming, hjoins.text] at htext
    exact ⟨fun _ => hkept, htext, hattachments⟩

theorem send_send_iff
    (hinj : Set.InjOn SentMessage.id {entry | entry ∈ transcript.messages})
    (hsame : SameMessage previous payload) (hjoins : Joins sent previous) :
    (((transcript.send previous).send payload).messages.map SentMessage.shown =
      (transcript.send (coalescePayload previous payload)).messages.map SentMessage.shown ↔
        PartFits transcript sent payload) ∧
      (PartFits transcript sent payload →
        (payload.messageId ∉ transcript.messages.map SentMessage.id →
          previous.role = payload.role) →
        (transcript.send previous).send payload =
          transcript.send (coalescePayload previous payload)) := by
  simp only [partFits_iff hjoins, Transcript.ext_iff, Transcript.messages_send,
    Transcript.environmentId_send, Transcript.checkpoints_send, true_and, and_true]
  by_cases hmem : payload.messageId ∈ transcript.messages.map SentMessage.id
  · by_cases hkept : payload.messageId ∈
        (sliceLast MAX_THREAD_MESSAGES transcript.messages).map SentMessage.id
    · obtain ⟨stored, hstored, hid⟩ := List.mem_map.mp hkept
      have hfind := Transcript.find_eq_some hinj (mem_of_mem_sliceLast hstored) hid
      obtain ⟨hiff, hall⟩ := put_put_known_iff transcript.environmentId hsame hinj hstored hid
      simp only [Transcript.textOf, Transcript.attachmentsOf, hfind, Option.map_some,
        Option.getD_some, Option.bind_some, hkept, implies_true, true_and]
      exact ⟨hiff, fun hfits _ => hall hfits⟩
    · refine ⟨iff_of_false (put_put_cut _ hsame hmem hkept) (fun h => hkept (h.1 hmem)), ?_⟩
      exact fun h => absurd (h.1 hmem) hkept
  · have hnew : previous.messageId ∉ transcript.messages.map SentMessage.id := hsame.2 ▸ hmem
    obtain ⟨hiff, hall⟩ := put_put_new_iff transcript.environmentId hsame hnew
    simp only [Transcript.textOf, Transcript.attachmentsOf, Transcript.find_eq_none hmem,
      Option.map_none, Option.getD_none, Option.bind_none, hmem, false_implies, true_and]
    exact ⟨hiff, fun hfits hrole => hall hfits (hrole not_false)⟩

theorem foldl_send_of_fits {joined : ThreadMessageSentPayload}
    (hinj : Set.InjOn SentMessage.id {entry | entry ∈ transcript.messages})
    (hjoins : Joins sent joined) (hsame : ∀ part ∈ sent, SameMessage part payload)
    (hfits : ∀ before part, before ++ [part] <+: sent → PartFits transcript before part)
    (hroles : ∀ before part, before ++ [part] <+: sent →
      part.messageId ∉ transcript.messages.map SentMessage.id →
      ∀ last ∈ before.getLast?, last.role = part.role) :
    sent.foldl (fun transcript part => transcript.send part) transcript = transcript.send joined := by
  induction hjoins with
  | one payload => rfl
  | @next sent joined hjoins part ih =>
    have hbefore := ih (fun p hp => hsame p (List.mem_append_left _ hp))
      (fun before p h => hfits before p (h.trans (List.prefix_append _ _)))
      (fun before p h => hroles before p (h.trans (List.prefix_append _ _)))
    rw [List.foldl_append, hbefore]
    have hpart : SameMessage part payload := hsame part (by simp)
    have hjoined : SameMessage joined part :=
      (hjoins.same (fun p hp => hsame p (List.mem_append_left _ hp))).trans
        ⟨hpart.1.symm, hpart.2.symm⟩
    refine (send_send_iff hinj hjoined hjoins).2 (hfits sent part (List.prefix_refl _)) ?_
    intro hnew
    have hrole := hjoins.role
    cases hlast : sent.getLast? with
    | none =>
      rw [hlast] at hrole
      cases hrole
    | some last =>
      rw [hlast] at hrole
      rw [← Option.some.inj hrole]
      exact hroles sent part (List.prefix_refl _) hnew last hlast

end Sending

/-! ## Whole lists of events -/

theorem exists_sendsParts (earlier : List OrchestrationEvent)
    (payload : ThreadMessageSentPayload) :
    ∃ base run sent, earlier = base ++ run ∧ SendsParts base run sent payload := by
  induction earlier using List.reverseRecOn with
  | nil => exact ⟨[], [], [], rfl, rfl, by simp, by simp⟩
  | append_singleton earlier event ih =>
    by_cases hpart : ∃ part, sentPayload event = some part ∧ SameMessage part payload
    · obtain ⟨part, hevent, hsame⟩ := hpart
      obtain ⟨base, run, sent, rfl, hsends⟩ := ih
      refine ⟨base, run ++ [event], sent ++ [part], List.append_assoc .., ?_, ?_, hsends.start⟩
      · rw [List.map_append, List.map_append, hsends.parts, List.map_singleton,
          List.map_singleton, hevent]
      · intro p hp
        rcases List.mem_append.mp hp with hp | hp
        · exact hsends.same p hp
        · rw [List.mem_singleton.mp hp]
          exact hsame
    · refine ⟨earlier ++ [event], [], [], by simp, rfl, by simp, fun part hlast hsame => ?_⟩
      rw [List.getLast?_concat, Option.bind_some] at hlast
      exact hpart ⟨part, hlast, hsame⟩

theorem split_run {run : List OrchestrationEvent} {sent before : List ThreadMessageSentPayload}
    {part : ThreadMessageSentPayload} (hparts : run.map sentPayload = sent.map some)
    (hpre : before ++ [part] <+: sent) :
    ∃ first event rest, run = first ++ event :: rest ∧ first.map sentPayload = before.map some ∧
      sentPayload event = some part := by
  obtain ⟨after, rfl⟩ := hpre
  rw [List.append_assoc, List.map_append] at hparts
  obtain ⟨first, others, rfl, hfirst, hothers⟩ := List.map_eq_append_iff.mp hparts
  obtain ⟨event, rest, rfl, hevent, -⟩ := List.map_eq_cons_iff.mp hothers
  exact ⟨first, event, rest, rfl, hfirst, hevent⟩

section Lists

variable [ClientRuntime] [Collation] {environmentId : EnvironmentId}

variable {payload : ThreadMessageSentPayload} {run events : List OrchestrationEvent}
  {sent : List ThreadMessageSentPayload}

variable {event : OrchestrationEvent} {later base : List OrchestrationEvent}

theorem step_of_sentPayload (h : sentPayload event = some payload)
    (record : Record ThreadId Transcript) :
    Transcript.step environmentId record event =
      record.modify payload.threadId (Transcript.send payload) := by
  unfold sentPayload at h
  unfold Transcript.step
  cases hpayload : event.payload <;> simp only [hpayload] at h ⊢ <;> cases h
  rfl

theorem foldl_step_run {threadId : ThreadId} (hparts : run.map sentPayload = sent.map some)
    (hthread : ∀ part ∈ sent, part.threadId = threadId) (record : Record ThreadId Transcript) :
    run.foldl (Transcript.step environmentId) record = record.modify threadId
      (fun transcript => sent.foldl (fun transcript part => transcript.send part) transcript) := by
  induction sent generalizing run record with
  | nil =>
    rw [List.map_eq_nil_iff.mp hparts]
    exact (Record.modify_id threadId record).symm
  | cons part sent ih =>
    obtain ⟨event, run, rfl, hevent, hrun⟩ := List.map_eq_cons_iff.mp hparts
    rw [List.foldl_cons, step_of_sentPayload hevent,
      ih hrun (fun p hp => hthread p (List.mem_cons_of_mem _ hp)),
      hthread part List.mem_cons_self, Record.modify_modify]
    rfl

variable {state : EnvironmentState}

theorem PartsFit.of_append (h : PartsFit environmentId state (events ++ later)) :
    PartsFit environmentId state events := by
  intro base run event rest sent payload hevents
  exact h base run event (rest ++ later) sent payload (by rw [hevents]; simp)

theorem PartsKeepRole.of_append (h : PartsKeepRole environmentId state (events ++ later)) :
    PartsKeepRole environmentId state events := by
  intro base run event rest sent payload hevents
  exact h base run event (rest ++ later) sent payload (by rw [hevents]; simp)

theorem foldl_run_of_fits {joined : ThreadMessageSentPayload} (hkeyed : state.Keyed)
    (hfits : PartsFit environmentId state (base ++ run))
    (hroles : PartsKeepRole environmentId state (base ++ run))
    (hsends : SendsParts base run sent payload) (hjoins : Joins sent joined) :
    (base ++ run).foldl (Transcript.step environmentId) (transcripts state) =
      (base.foldl (Transcript.step environmentId) (transcripts state)).modify payload.threadId
        (Transcript.send joined) := by
  obtain ⟨hbaseKeyed, hbase⟩ := transcripts_applyOrchestrationEvents environmentId hkeyed
    base
  rw [List.foldl_append, foldl_step_run hsends.parts (fun part hp => (hsends.same part hp).1)]
  refine Record.modify_congr (fun transcript htranscript => ?_)
  rw [← hbase] at htranscript
  have hat : ∀ before part, before ++ [part] <+: sent →
      ∃ first event rest, base ++ run = base ++ first ++ event :: rest ∧
        sentPayload event = some part ∧ SendsParts base first before part ∧
        part.threadId = payload.threadId := by
    intro before part hpre
    obtain ⟨first, event, rest, rfl, hfirst, hevent⟩ := split_run hsends.parts hpre
    have hmem : ∀ p ∈ before ++ [part], p ∈ sent := fun p hp => hpre.subset hp
    have hpart := hsends.same part (hmem part (by simp))
    refine ⟨first, event, rest, (List.append_assoc ..).symm, hevent, ⟨hfirst, ?_, ?_⟩, hpart.1⟩
    · intro p hp
      exact (hsends.same p (hmem p (List.mem_append_left _ hp))).trans
        ⟨hpart.1.symm, hpart.2.symm⟩
    · intro p hp hsame
      exact hsends.start p hp (hsame.trans hpart)
  refine foldl_send_of_fits (injOn_transcripts hbaseKeyed htranscript) hjoins hsends.same ?_ ?_
  · intro before part hpre
    obtain ⟨first, event, rest, hevents, hevent, hparts, hthread⟩ := hat before part hpre
    exact hfits base first event rest before part hevents hevent hparts transcript
      (hthread ▸ htranscript)
  · intro before part hpre
    obtain ⟨first, event, rest, hevents, hevent, hparts, hthread⟩ := hat before part hpre
    exact hroles base first event rest before part hevents hevent hparts transcript
      (hthread ▸ htranscript)

theorem foldl_coalesced_of_fits (hkeyed : state.Keyed)
    (hfits : PartsFit environmentId state events)
    (hroles : PartsKeepRole environmentId state events) :
    (events.foldl coalesceStep []).foldl (Transcript.step environmentId) (transcripts state) =
      events.foldl (Transcript.step environmentId) (transcripts state) := by
  induction hlength : events.length using Nat.strong_induction_on generalizing events with
  | _ length ih =>
    rcases List.eq_nil_or_concat events with rfl | ⟨earlier, event, rfl⟩
    · rfl
    have hshorter : ∀ base run, earlier = base ++ run →
        (base.foldl coalesceStep []).foldl (Transcript.step environmentId) (transcripts state) =
          base.foldl (Transcript.step environmentId) (transcripts state) := by
      intro base run hearlier
      rw [hearlier, List.concat_eq_append, List.append_assoc] at hfits hroles
      refine ih base.length ?_ hfits.of_append hroles.of_append rfl
      rw [← hlength, hearlier, List.concat_eq_append]
      simp only [List.length_append, List.length_singleton]
      omega
    rw [List.concat_eq_append] at hfits hroles ⊢
    cases hpayload : sentPayload event with
    | none =>
      rw [List.foldl_append, List.foldl_cons, List.foldl_nil,
        coalesceStep_of_not_same (fun _ payload _ h => by rw [hpayload] at h; cases h),
        List.foldl_append, List.foldl_append, hshorter earlier [] (by simp)]
    | some payload =>
      obtain ⟨base, run, sent, rfl, hsends⟩ := exists_sendsParts earlier payload
      have hparts : (run ++ [event]).map sentPayload = (sent ++ [payload]).map some := by
        rw [List.map_append, List.map_append, hsends.parts, List.map_singleton,
          List.map_singleton, hpayload]
      have hsame : ∀ part ∈ sent ++ [payload], SameMessage part payload := by
        intro part hpart
        rcases List.mem_append.mp hpart with hpart | hpart
        · exact hsends.same part hpart
        · rw [List.mem_singleton.mp hpart]
          exact ⟨rfl, rfl⟩
      obtain ⟨whole, joined, hcoalesced, hwhole, hjoins⟩ :=
        foldl_coalesceStep_run hparts (by simp) hsame hsends.start
      rw [List.append_assoc] at hfits hroles ⊢
      rw [foldl_run_of_fits hkeyed hfits hroles ⟨hparts, hsame, hsends.start⟩ hjoins,
        hcoalesced, List.foldl_append, List.foldl_cons, List.foldl_nil,
        step_of_sentPayload hwhole, hshorter base run rfl, (hjoins.same hsame).1]

theorem coalesced_part (hkeyed : state.Keyed) (hfits : PartsFit environmentId state (base ++ run))
    (hroles : PartsKeepRole environmentId state (base ++ run))
    (hpayload : sentPayload event = some payload) (hsends : SendsParts base run sent payload)
    (hne : sent ≠ []) {transcript : Transcript}
    (htranscript : transcripts (applyOrchestrationEvents environmentId state base)
      payload.threadId = some transcript) :
    ∃ joined, Joins sent joined ∧
      ((base ++ run ++ [event]).foldl coalesceStep []).foldl (Transcript.step environmentId)
          (transcripts state) payload.threadId =
        some (transcript.send (coalescePayload joined payload)) ∧
      (base ++ run ++ [event]).foldl (Transcript.step environmentId) (transcripts state)
          payload.threadId = some ((transcript.send joined).send payload) := by
  obtain ⟨whole, joined, hcoalesced, hwhole, hjoins⟩ :=
    foldl_coalesceStep_run hsends.parts hne hsends.same hsends.start
  have hsame := hjoins.same hsends.same
  have hbase := (transcripts_applyOrchestrationEvents environmentId hkeyed base).2
  have hrun := foldl_run_of_fits hkeyed hfits hroles hsends hjoins
  rw [← hbase] at hrun
  refine ⟨joined, hjoins, ?_, ?_⟩
  · rw [List.foldl_append, hcoalesced, List.foldl_cons, List.foldl_nil,
      coalesceStep_of_same hwhole hpayload hsame, List.foldl_append, List.foldl_cons,
      List.foldl_nil, foldl_coalesced_of_fits hkeyed hfits.of_append hroles.of_append,
      step_of_sentPayload rfl, ← hbase]
    exact (Record.modify_self _ _).trans (congrArg (Option.map _) htranscript)
  · rw [List.foldl_append, hrun, List.foldl_cons, List.foldl_nil, step_of_sentPayload hpayload,
      Record.modify_modify, Record.modify_self, htranscript]
    rfl

/-- Taken over coalesced, a list of events shows at each of its ends what it shows taken over
one by one, exactly if each part of a message fits the parts before it. -/
theorem coalesced_events_agree_iff (hkeyed : state.Keyed) {events : List OrchestrationEvent}
    (hroles : PartsKeepRole environmentId state events) :
    (∀ earlier, earlier <+: events → SameMessages
      (applyOrchestrationEvents environmentId state (coalesceOrchestrationUiEvents earlier))
      (applyOrchestrationEvents environmentId state earlier)) ↔
        PartsFit environmentId state events := by
  have hread : ∀ events, transcripts (applyOrchestrationEvents environmentId state events) =
      events.foldl (Transcript.step environmentId) (transcripts state) :=
    fun events => (transcripts_applyOrchestrationEvents environmentId hkeyed events).2
  constructor
  · intro hsame
    induction events using List.reverseRecOn with
    | nil =>
      intro base run event later sent payload hevents
      simp at hevents
    | append_singleton earlier last ih =>
      have hearlier := ih hroles.of_append
        (fun part hpart => hsame part (hpart.trans (List.prefix_append _ _)))
      intro base run event later sent payload hevents hpayload hsends transcript htranscript
      rcases List.eq_nil_or_concat later with rfl | ⟨later, other, rfl⟩
      · have hsplit := List.append_inj' hevents rfl
        cases hsplit.2
        by_cases hne : sent = []
        · subst hne
          exact ⟨fun h => absurd rfl h, Or.inr (Or.inl (by simp)), by simp⟩
        rw [hsplit.1] at hearlier hroles hsame
        obtain ⟨joined, hjoins, hcoalesced, hplain⟩ := coalesced_part hkeyed hearlier
          hroles.of_append hpayload hsends hne htranscript
        have hshown := hsame _ (List.prefix_refl _) payload.threadId
        rw [shownMessages_eq, shownMessages_eq, hread, hread,
          coalesceOrchestrationUiEvents_eq, hcoalesced, hplain, Option.map_some,
          Option.map_some, Option.some.injEq] at hshown
        have hinj := injOn_transcripts
          (transcripts_applyOrchestrationEvents environmentId hkeyed base).1 htranscript
        exact (send_send_iff hinj (hjoins.same hsends.same) hjoins).1.mp hshown.symm
      · refine hearlier base run event later sent payload ?_ hpayload hsends transcript
          htranscript
        rw [List.concat_eq_append, ← List.cons_append, ← List.append_assoc] at hevents
        exact (List.append_inj' hevents rfl).1
  · rintro hfits earlier ⟨later, rfl⟩ threadId
    rw [shownMessages_eq, shownMessages_eq, hread, hread, coalesceOrchestrationUiEvents_eq,
      foldl_coalesced_of_fits hkeyed hfits.of_append hroles.of_append]

theorem partsKeepRole_of_one {role : OrchestrationMessageRole}
    (h : ∀ payload ∈ events.filterMap sentPayload, payload.role = role) :
    PartsKeepRole environmentId state events := by
  intro base run event later sent payload hevents hpayload hsends _ _ _ part hpart
  have hrole : ∀ payload, some payload ∈ events.map sentPayload → payload.role = role :=
    fun payload hmem => h payload (List.mem_filterMap.mpr (List.mem_map.mp hmem))
  have hsent : some part ∈ events.map sentPayload := by
    rw [hevents, List.map_append, List.map_append, hsends.parts]
    simp [List.mem_of_getLast? hpart]
  have hlast : some payload ∈ events.map sentPayload := by
    rw [hevents]
    simp [hpayload]
  rw [hrole part hsent, hrole payload hlast]

end Lists

section Samples

attribute [local instance] relativeClientRuntime codePointCollation

def sampleStream : List OrchestrationEvent :=
  [sampleCreated, samplePart 2 "a" true, samplePart 3 "b" true, samplePart 4 "" false]

theorem partsFit_sampleStream : PartsFit "env" initialEnvironmentState sampleStream := by
  intro base run event later sent payload hevents hpayload hsends transcript htranscript
  have hall : ∀ part, some part ∈ sampleStream.map sentPayload →
      part.threadId = "t1" ∧ part.messageId = "assistant:m1" ∧ part.attachments = none := by
    simp [sampleStream, sampleCreated, samplePart, sampleEvent, sentPayload]
  obtain ⟨hthread, hmessage, hattachments⟩ := hall payload (by rw [hevents]; simp [hpayload])
  have hsame : ∀ part, some part ∈ sampleStream.map sentPayload → SameMessage part payload :=
    fun part hpart => ⟨(hall part hpart).1.trans hthread.symm,
      (hall part hpart).2.1.trans hmessage.symm⟩
  have hbase : base = sampleStream.take base.length := by
    rw [hevents, List.append_assoc, List.take_left]
  have hlength : base.length < 4 := by
    have hcount := congrArg List.length hevents
    simp only [sampleStream, List.length_append, List.length_cons, List.length_nil] at hcount
    omega
  have hnot : ∀ index, base.length = index → ∀ part,
      (sampleStream.take index).getLast?.bind sentPayload ≠ some part := by
    intro index hindex part hlast
    rw [← hindex, ← hbase] at hlast
    refine hsends.start part hlast (hsame part ?_)
    rw [hevents, List.append_assoc, List.map_append]
    obtain ⟨last, hgetLast, hpart⟩ := Option.bind_eq_some_iff.mp hlast
    exact List.mem_append_left _ (List.mem_map.mpr ⟨last, List.mem_of_getLast? hgetLast, hpart⟩)
  rw [(transcripts_applyOrchestrationEvents "env" keyed_initialEnvironmentState base).2, hbase]
    at htranscript
  obtain hindex | hindex | hindex | hindex : base.length = 0 ∨ base.length = 1 ∨
      base.length = 2 ∨ base.length = 3 := by omega
  · rw [hindex] at htranscript
    cases htranscript
  · rw [hindex] at htranscript
    have hempty : transcript = ⟨"env", [], []⟩ := by
      have hset : (Record.set "t1" (⟨"env", [], []⟩ : Transcript)
          (transcripts initialEnvironmentState)) payload.threadId = some transcript := htranscript
      rw [hthread, Record.set_self] at hset
      exact (Option.some.inj hset).symm
    rw [hempty]
    exact { kept := by simp, text := Or.inl rfl, attachments := by simp [hattachments] }
  · exact absurd rfl (hnot 2 hindex _)
  · exact absurd rfl (hnot 3 hindex _)

/-- A message streamed and completed after the thread was created. -/
theorem coalesced_events_agree_streamed :
    shownMessages (applyOrchestrationEvents "env" initialEnvironmentState
      (coalesceOrchestrationUiEvents sampleStream)) "t1" =
      some [⟨"assistant:m1", "ab", false, none, none⟩] := by
  have hrole : ∀ payload ∈ sampleStream.filterMap sentPayload, payload.role = .assistant := by
    decide
  have h := (coalesced_events_agree_iff keyed_initialEnvironmentState
    (partsKeepRole_of_one hrole)).mpr partsFit_sampleStream _ (List.prefix_refl _) "t1"
  rw [h]
  decide +kernel

/-- A part and the completion of a message the store has a text of replace the text. -/
theorem not_coalesced_events_agree :
    ¬ ∀ (state : EnvironmentState), state.Keyed → ∀ (events : List OrchestrationEvent),
      SameMessages
        (applyOrchestrationEvents "env" state (coalesceOrchestrationUiEvents events))
        (applyOrchestrationEvents "env" state events) := by
  intro h
  have hkeyed := (transcripts_applyOrchestrationEvents "env" keyed_initialEnvironmentState
    [sampleCreated, samplePart 2 "old" true]).1
  have hsame := h _ hkeyed [samplePart 3 "a" true, samplePart 4 "" false] "t1"
  have hcoalesced : shownMessages (applyOrchestrationEvents "env"
      (applyOrchestrationEvents "env" initialEnvironmentState
        [sampleCreated, samplePart 2 "old" true])
      (coalesceOrchestrationUiEvents [samplePart 3 "a" true, samplePart 4 "" false])) "t1" =
        some [⟨"assistant:m1", "a", false, none, none⟩] := by
    decide +kernel
  have hplain : shownMessages (applyOrchestrationEvents "env"
      (applyOrchestrationEvents "env" initialEnvironmentState
        [sampleCreated, samplePart 2 "old" true])
      [samplePart 3 "a" true, samplePart 4 "" false]) "t1" =
        some [⟨"assistant:m1", "olda", false, none, none⟩] := by
    decide +kernel
  rw [hcoalesced, hplain] at hsame
  exact absurd hsame (by decide)

end Samples

end GT3Code.Web
