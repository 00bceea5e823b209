import GT3Code.Orchestration.AttachmentSideEffects
import GT3Code.Orchestration.LiveProjection

/-! # Attachments in use

A file is in use while a projected message of a thread that is not deleted shows it, or
its upload is still on its way. Removal goes by the segment in the file's name, so a
thread's removal leaves the files in use alone as long as no other thread's file in use
has its segment, and a revert also as long as no upload of the thread is on its way.
-/

namespace GT3Code.Orchestration

open GT3Code.Base GT3Code.Contracts GT3Code.Persistence GT3Code.Server

section Files

variable [TextRuntime] [MimeRuntime]

def HasSegmentOf (threadId : ThreadId) (attachment : ChatAttachment) : Prop :=
  ∃ threadSegment, toSafeThreadAttachmentSegment threadId = some threadSegment ∧
    parseThreadSegmentFromAttachmentId attachment.id = some threadSegment

variable {attachment : ChatAttachment} {threadId : ThreadId}

theorem parse_of_belongsToThread (h : WellNamed attachment.id) {threadSegment : List Char}
    (hbelongs : belongsToThread threadSegment (attachmentRelativePath attachment) = true) :
    parseThreadSegmentFromAttachmentId attachment.id = some threadSegment := by
  simpa [belongsToThread, h.parseAttachmentId] using And.right (Bool.and_eq_true_iff.mp hbelongs)

variable {files : AttachmentFiles}

theorem get_deleteThreadAttachments (h : WellNamed attachment.id)
    (hsegment : ¬HasSegmentOf threadId attachment) :
    KeyedMap.get (attachmentRelativePath attachment) (deleteThreadAttachments files threadId) =
      KeyedMap.get (attachmentRelativePath attachment) files := by
  unfold deleteThreadAttachments
  cases hsafe : toSafeThreadAttachmentSegment threadId with
  | none => rfl
  | some threadSegment =>
    generalize files.rows.map Prod.fst = entries
    simp only
    induction entries generalizing files with
    | nil => rfl
    | cons entry rest ih =>
      rw [List.foldl_cons, ih]
      simp only [removeDeletedThreadAttachmentEntry]
      split
      · rename_i hbelongs
        refine KeyedMap.get_delete_of_ne ?_ _
        intro hpath
        rw [← hpath] at hbelongs
        exact hsegment ⟨threadSegment, hsafe, parse_of_belongsToThread h hbelongs⟩
      · rfl

theorem get_pruneThreadAttachments {keptPaths : List String} (h : WellNamed attachment.id)
    (hkept : HasSegmentOf threadId attachment → attachmentRelativePath attachment ∈ keptPaths) :
    KeyedMap.get (attachmentRelativePath attachment)
        (pruneThreadAttachments [] files (threadId, keptPaths)) =
      KeyedMap.get (attachmentRelativePath attachment) files := by
  simp only [pruneThreadAttachments, List.not_mem_nil, if_false]
  cases hsafe : toSafeThreadAttachmentSegment threadId with
  | none => rfl
  | some threadSegment =>
    generalize files.rows.map Prod.fst = entries
    simp only
    induction entries generalizing files with
    | nil => rfl
    | cons entry rest ih =>
      rw [List.foldl_cons, ih]
      simp only [pruneThreadAttachmentEntry]
      split
      · rename_i hbelongs
        split
        · rename_i hremoved
          refine KeyedMap.get_delete_of_ne ?_ _
          intro hpath
          rw [← hpath] at hbelongs hremoved
          have hmem := hkept ⟨threadSegment, hsafe, parse_of_belongsToThread h hbelongs⟩
          simp [hmem] at hremoved
        · rfl
      · rfl

theorem mem_collectThreadAttachmentRelativePaths {messages : List ProjectionThreadMessage}
    {message : ProjectionThreadMessage} (hmessage : message ∈ messages)
    (hattachment : attachment ∈ message.attachments.getD [])
    (hsegment : HasSegmentOf threadId attachment) :
    attachmentRelativePath attachment ∈ collectThreadAttachmentRelativePaths threadId messages := by
  obtain ⟨threadSegment, hsafe, hparse⟩ := hsegment
  simp only [collectThreadAttachmentRelativePaths, hsafe]
  refine List.mem_map_of_mem (List.mem_filter.mpr ⟨?_, by simp [hparse]⟩)
  exact List.mem_flatMap.mpr ⟨message, hmessage, hattachment⟩

namespace AttachmentState

def Shown (state : AttachmentState) (owner : ThreadId) (attachment : ChatAttachment) : Prop :=
  ∃ row ∈ state.pipeline.tables.messages.rows, row.threadId = owner ∧
    attachment ∈ row.attachments.getD []

def OnItsWay (state : AttachmentState) (owner : ThreadId) (attachment : ChatAttachment) : Prop :=
  ∃ upload ∈ state.pending, upload.threadId = owner ∧ upload.attachment = attachment

def InUse (state : AttachmentState) (owner : ThreadId) (attachment : ChatAttachment) : Prop :=
  owner ∉ state.deletedThreads ∧ (state.Shown owner attachment ∨ state.OnItsWay owner attachment)

/-- No other thread uses an attachment with the segment of this one. -/
def OwnsSegment (state : AttachmentState) (threadId : ThreadId) : Prop :=
  ∀ owner attachment, state.InUse owner attachment → HasSegmentOf threadId attachment →
    owner = threadId

/-- Uploads have ids made for their thread, and those on their way were written. -/
structure WellFormed (state : AttachmentState) : Prop where
  created : ∀ upload ∈ state.written,
    createAttachmentId upload.threadId upload.randomUUID = some upload.attachment.id
  pending : ∀ upload ∈ state.pending, upload ∈ state.written

def Intact (state : AttachmentState) : Prop :=
  ∀ owner attachment, state.InUse owner attachment → state.Stored attachment

variable {state next : AttachmentState}

theorem Intact.attachmentsStored (h : state.Intact) : state.AttachmentsStored := by
  intro row hrow hthread attachment hattachment
  exact h row.threadId attachment ⟨hthread, Or.inl ⟨row, hrow, rfl, hattachment⟩⟩

variable {threadId : ThreadId} {randomUUID : Uuid} {attachment : ChatAttachment}

theorem persistAttachment_eq_some {files after : AttachmentFiles} {name mimeType : String}
    {bytes : List Base64Url.Byte} {upload : Upload}
    (h : persistAttachment files threadId name mimeType bytes randomUUID = some (upload, after)) :
    createAttachmentId threadId randomUUID = some upload.attachment.id ∧
      upload.threadId = threadId ∧ upload.randomUUID = randomUUID ∧
      after = KeyedMap.set (attachmentRelativePath upload.attachment) upload.bytes files := by
  simp only [persistAttachment] at h
  split at h
  · cases h
  · split at h
    · cases h
    · simp only [Option.bind_eq_bind, Option.bind_eq_some_iff, Option.pure_def,
        Option.some.injEq, Prod.mk.injEq] at h
      obtain ⟨attachmentId, hid, path, hpath, rfl, rfl⟩ := h
      have hnamed : WellNamed attachmentId := wellNamed_createAttachmentId hid
      rw [resolveAttachmentPath, WellNamed.normalize_path hnamed, Option.filter_eq_some_iff] at hpath
      cases hpath.1
      exact ⟨hid, rfl, rfl, rfl⟩

theorem relativePath_ne {upload : Upload}
    (h : createAttachmentId upload.threadId upload.randomUUID =
      some upload.attachment.id)
    (hid : createAttachmentId threadId randomUUID = some attachment.id)
    (hne : upload.randomUUID ≠ randomUUID) :
    attachmentRelativePath upload.attachment ≠ attachmentRelativePath attachment := by
  intro hpath
  have hparse := (wellNamed_createAttachmentId h).parseAttachmentId
  rw [hpath, (wellNamed_createAttachmentId hid).parseAttachmentId] at hparse
  have hsame : attachment.id = upload.attachment.id := Option.some.inj hparse
  rw [hsame] at hid
  exact hne (uuid_of_createAttachmentId h hid)

theorem WellFormed.named (hwf : state.WellFormed) (h : state.Stored attachment) :
    WellNamed attachment.id := by
  obtain ⟨upload, hupload, rfl, -⟩ := h
  exact wellNamed_createAttachmentId (hwf.created upload hupload)

end AttachmentState

end Files

theorem prunedRows_eq_some [Collation] {tables : ProjectionTables} {payload : ThreadRevertedPayload}
    {keptRows : List ProjectionThreadMessage} (h : prunedRows tables payload = some keptRows) :
    keptRows = (MessageTable.listByThreadId tables.messages payload.threadId).filter
      (keepsMessage (MessageTable.listByThreadId tables.messages payload.threadId)
        (TurnTable.listByThreadId tables.turns payload.threadId) payload.turnCount) := by
  simp only [prunedRows, Option.ite_none_left_eq_some, Option.some.injEq] at h
  rw [← h.2, retainProjectionMessages_eq]

section Projection

variable [TextRuntime] [MimeRuntime] [Collation]

variable {pipeline : PipelineState} {files : AttachmentFiles} {event : OrchestrationEvent}

theorem files_project_deleted {payload : ThreadDeletedPayload}
    (h : event.payload = .threadDeleted payload) :
    (projectEventWithSideEffects (pipeline, files) event).2 =
      deleteThreadAttachments files payload.threadId := by
  simp [projectEventWithSideEffects, projectors, runProjectorWithSideEffects,
    ProjectorName.sideEffects, h, runAttachmentSideEffects, AttachmentSideEffects.none]

theorem files_project_reverted {payload : ThreadRevertedPayload}
    (h : event.payload = .threadReverted payload) :
    (projectEventWithSideEffects (pipeline, files) event).2 =
      match prunedRows pipeline.tables payload with
      | none => files
      | some keptRows =>
        pruneThreadAttachments [] files (payload.threadId,
          collectThreadAttachmentRelativePaths payload.threadId keptRows) := by
  have hrows : prunedRows (runProjectorForEvent .projects pipeline event).tables payload =
      prunedRows pipeline.tables payload := rfl
  simp only [projectEventWithSideEffects, projectors, runProjectorWithSideEffects,
    ProjectorName.sideEffects, h, List.foldl_cons, List.foldl_nil, hrows]
  cases prunedRows pipeline.tables payload <;>
    simp [runAttachmentSideEffects, AttachmentSideEffects.none]

theorem files_project_other (hdeleted : ∀ payload, event.payload ≠ .threadDeleted payload)
    (hreverted : ∀ payload, event.payload ≠ .threadReverted payload) :
    (projectEventWithSideEffects (pipeline, files) event).2 = files := by
  cases hpayload : event.payload with
  | threadDeleted payload => exact absurd hpayload (hdeleted payload)
  | threadReverted payload => exact absurd hpayload (hreverted payload)
  | _ =>
    simp [projectEventWithSideEffects, projectors, runProjectorWithSideEffects,
      ProjectorName.sideEffects, hpayload, runAttachmentSideEffects, AttachmentSideEffects.none]

namespace AttachmentState

variable {state next : AttachmentState}

/-- A thread is deleted, or reverted by dropping messages, only while no other thread uses an
attachment with its segment; reverted also only while none of its own uploads is on its way. A
message keeps the attachments of one of a deleted thread only in a deleted thread. -/
def LeavesFiles (state : AttachmentState) : AttachmentAction → Prop
  | .project event =>
    match event.payload with
    | .threadDeleted payload => state.OwnsSegment payload.threadId
    | .threadReverted payload =>
      (prunedRows state.pipeline.tables payload).isSome → state.OwnsSegment payload.threadId ∧
        ∀ attachment, payload.threadId ∉ state.deletedThreads →
          state.OnItsWay payload.threadId attachment →
            ¬HasSegmentOf payload.threadId attachment
    | .threadMessageSent payload =>
      payload.attachments = none → ∀ row,
        KeyedTable.lookup payload.messageId state.pipeline.tables.messages = some row →
        row.threadId ∈ state.deletedThreads → row.attachments.getD [] ≠ [] →
          payload.threadId ∈ state.deletedThreads
    | _ => True
  | _ => True

variable {threadId : ThreadId} {name mimeType : String} {bytes : List Base64Url.Byte}
  {randomUUID : Uuid} {event : OrchestrationEvent}

theorem upload_eq_some
    (h : state.step (.upload threadId name mimeType bytes randomUUID) = some next) :
    ∃ upload, randomUUID ∉ state.written.map Upload.randomUUID ∧
      createAttachmentId upload.threadId randomUUID = some upload.attachment.id ∧
      upload.randomUUID = randomUUID ∧
      next = { state with
        files := KeyedMap.set (attachmentRelativePath upload.attachment) upload.bytes state.files
        written := upload :: state.written
        pending := upload :: state.pending } := by
  simp only [step] at h
  split at h
  · cases h
  · rename_i hfresh
    obtain ⟨⟨upload, files⟩, hpersist, rfl⟩ := Option.map_eq_some_iff.mp h
    obtain ⟨hid, hthread, huuid, rfl⟩ := persistAttachment_eq_some hpersist
    rw [← hthread] at hid
    exact ⟨upload, hfresh, hid, huuid, rfl⟩

theorem WellFormed.upload (hwf : state.WellFormed)
    (h : state.step (.upload threadId name mimeType bytes randomUUID) = some next) :
    next.WellFormed := by
  obtain ⟨upload, -, hid, huuid, rfl⟩ := upload_eq_some h
  constructor
  · intro other hother
    rcases List.mem_cons.mp hother with rfl | hother
    · rw [huuid]
      exact hid
    · exact hwf.created other hother
  · intro other hother
    rcases List.mem_cons.mp hother with rfl | hother
    · exact List.mem_cons_self
    · exact List.mem_cons_of_mem _ (hwf.pending other hother)

theorem Intact.upload (h : state.Intact) (hwf : state.WellFormed)
    (hstep : state.step (.upload threadId name mimeType bytes randomUUID) = some next) :
    next.Intact := by
  obtain ⟨upload, hfresh, hid, huuid, rfl⟩ := upload_eq_some hstep
  have hkept : ∀ attachment, state.Stored attachment → Stored { state with
      files := KeyedMap.set (attachmentRelativePath upload.attachment) upload.bytes state.files
      written := upload :: state.written
      pending := upload :: state.pending } attachment := by
    rintro attachment ⟨other, hother, rfl, hfile⟩
    have hne : other.randomUUID ≠ randomUUID := by
      intro hsame
      exact hfresh (hsame ▸ List.mem_map_of_mem hother)
    refine ⟨other, List.mem_cons_of_mem _ hother, rfl, ?_⟩
    have hpath := relativePath_ne (hwf.created other hother) hid hne
    show KeyedMap.get _ (KeyedMap.set _ _ _) = _
    rw [KeyedMap.get_set_of_ne hpath]
    exact hfile
  rintro owner attachment ⟨howner, hshown | ⟨other, hother, hthread, hattachment⟩⟩
  · exact hkept attachment (h owner attachment ⟨howner, Or.inl hshown⟩)
  · rcases List.mem_cons.mp hother with rfl | hother
    · subst hattachment
      exact ⟨other, List.mem_cons_self, rfl, KeyedMap.get_set_self ..⟩
    · exact hkept attachment
        (h owner attachment ⟨howner, Or.inr ⟨other, hother, hthread, hattachment⟩⟩)

/-! ## Projected events -/

def projected (state : AttachmentState) (event : OrchestrationEvent) : AttachmentState :=
  { state with
    pipeline := ProjectionPipeline.projectEvent state.pipeline event
    files := (projectEventWithSideEffects (state.pipeline, state.files) event).2
    pending := state.pending.filter (fun upload =>
      (upload.threadId, upload.attachment) ∉ sentAttachments event) }

theorem project_eq_some (h : state.step (.project event) = some next) :
    (∀ entry ∈ sentAttachments event, state.OnItsWay entry.1 entry.2) ∧
      next = state.projected event := by
  simp only [step, Option.ite_none_right_eq_some, Option.some.injEq] at h
  obtain ⟨hsent, rfl⟩ := h
  refine ⟨fun entry hentry => ?_, rfl⟩
  obtain ⟨upload, hupload, rfl⟩ := List.mem_map.mp (hsent entry hentry)
  exact ⟨upload, hupload, rfl, rfl⟩

theorem messages_projected (state : AttachmentState) (event : OrchestrationEvent) :
    (state.projected event).pipeline.tables.messages =
      applyThreadMessagesProjection state.pipeline.tables.turns state.pipeline.tables.messages
        event := by
  rw [projected, tables_projectEvent, projectTables_eq]

theorem deletedThreads_projected (state : AttachmentState) (event : OrchestrationEvent) :
    (state.projected event).deletedThreads = state.deletedThreads ++
      (match event.payload with
        | .threadDeleted payload => [payload.threadId]
        | _ => []) := by
  have happlied : (state.projected event).pipeline.applied .threads =
      state.pipeline.applied .threads ++ [event] := rfl
  rw [deletedThreads, happlied, List.filterMap_append]
  congr 1
  cases hpayload : event.payload <;> simp [hpayload]

variable {owner : ThreadId} {attachment : ChatAttachment} {action : AttachmentAction}

theorem not_deleted_of_projected (h : owner ∉ (state.projected event).deletedThreads) :
    owner ∉ state.deletedThreads := by
  intro hmem
  refine h ?_
  rw [deletedThreads_projected]
  exact List.mem_append_left _ hmem

theorem OnItsWay.of_projected (h : (state.projected event).OnItsWay owner attachment) :
    state.OnItsWay owner attachment := by
  obtain ⟨upload, hupload, huse⟩ := h
  exact ⟨upload, List.mem_of_mem_filter hupload, huse⟩

theorem Stored.projected (h : state.Stored attachment)
    (hfiles : KeyedMap.get (attachmentRelativePath attachment) (state.projected event).files =
      KeyedMap.get (attachmentRelativePath attachment) state.files) :
    (state.projected event).Stored attachment := by
  obtain ⟨upload, hupload, hattachment, hfile⟩ := h
  exact ⟨upload, hupload, hattachment, hfiles.trans hfile⟩

theorem Intact.project_of_files (h : state.Intact)
    (hfiles : (state.projected event).files = state.files)
    (hshown : ∀ owner attachment, owner ∉ (state.projected event).deletedThreads →
      (state.projected event).Shown owner attachment → ∃ user, state.InUse user attachment) :
    (state.projected event).Intact := by
  rintro owner attachment ⟨howner, huse⟩
  have hbefore : ∃ user, state.InUse user attachment := by
    rcases huse with huse | huse
    · exact hshown owner attachment howner huse
    · exact ⟨owner, not_deleted_of_projected howner, Or.inr huse.of_projected⟩
  obtain ⟨user, huser⟩ := hbefore
  exact (h user attachment huser).projected (by rw [hfiles])

theorem Intact.messageSent (h : state.Intact) {payload : ThreadMessageSentPayload}
    (hpayload : event.payload = .threadMessageSent payload)
    (hsent : ∀ entry ∈ sentAttachments event, state.OnItsWay entry.1 entry.2)
    (hkeeps : payload.attachments = none → ∀ row,
      KeyedTable.lookup payload.messageId state.pipeline.tables.messages = some row →
      row.threadId ∈ state.deletedThreads → row.attachments.getD [] ≠ [] →
        payload.threadId ∈ state.deletedThreads) :
    (state.projected event).Intact := by
  have hfiles : (state.projected event).files = state.files :=
    files_project_other (by simp [hpayload]) (by simp [hpayload])
  refine h.project_of_files hfiles ?_
  rintro owner attachment howner ⟨row, hrow, rfl, hattachment⟩
  have hnotDeleted := not_deleted_of_projected howner
  simp only [messages_projected, applyThreadMessagesProjection, hpayload, MessageTable.upsert]
    at hrow
  rcases KeyedTable.mem_of_mem_putRow hrow with rfl | hrow
  · cases hattachments : payload.attachments with
    | some attachments =>
      have hmem : (payload.threadId, attachment) ∈ sentAttachments event := by
        simp only [sentAttachments, hpayload, hattachments, Option.getD_some]
        simp only [messageRow, hattachments, Option.orElse_some, Option.getD_some] at hattachment
        exact List.mem_map_of_mem hattachment
      exact ⟨payload.threadId, hnotDeleted, Or.inr (hsent _ hmem)⟩
    | none =>
      simp only [messageRow, hattachments] at hattachment
      cases hlookup : KeyedTable.lookup payload.messageId state.pipeline.tables.messages with
      | none => simp [hlookup] at hattachment
      | some previous =>
        have hmem : attachment ∈ previous.attachments.getD [] := by
          cases hprevious : previous.attachments with
          | none => simp [hlookup, hprevious] at hattachment
          | some attachments => simpa [hlookup, hprevious] using hattachment
        have hprevious : previous.threadId ∉ state.deletedThreads := by
          intro hdeleted
          exact hnotDeleted (hkeeps hattachments previous hlookup hdeleted
            (List.ne_nil_of_mem hmem))
        exact ⟨previous.threadId, hprevious,
          Or.inl ⟨previous, (KeyedTable.mem_of_lookup hlookup).1, rfl, hmem⟩⟩
  · exact ⟨row.threadId, hnotDeleted, Or.inl ⟨row, hrow, rfl, hattachment⟩⟩

theorem Intact.threadDeleted (h : state.Intact) (hwf : state.WellFormed)
    {payload : ThreadDeletedPayload} (hpayload : event.payload = .threadDeleted payload)
    (howns : state.OwnsSegment payload.threadId) : (state.projected event).Intact := by
  rintro owner attachment ⟨howner, huse⟩
  have hother : owner ≠ payload.threadId := by
    rintro rfl
    refine howner ?_
    rw [deletedThreads_projected, hpayload]
    exact List.mem_append_right _ List.mem_cons_self
  have hbefore : state.InUse owner attachment := by
    refine ⟨not_deleted_of_projected howner, ?_⟩
    rcases huse with ⟨row, hrow, hshown⟩ | huse
    · rw [messages_projected, applyThreadMessagesProjection, hpayload] at hrow
      exact Or.inl ⟨row, hrow, hshown⟩
    · exact Or.inr huse.of_projected
  have hstored := h owner attachment hbefore
  refine hstored.projected ?_
  show KeyedMap.get _ (projectEventWithSideEffects (state.pipeline, state.files) event).2 = _
  rw [files_project_deleted hpayload]
  exact get_deleteThreadAttachments (hwf.named hstored)
    (fun hsegment => hother (howns owner attachment hbefore hsegment))

theorem Intact.threadReverted (h : state.Intact) (hwf : state.WellFormed)
    {payload : ThreadRevertedPayload} (hpayload : event.payload = .threadReverted payload)
    (hleaves : (prunedRows state.pipeline.tables payload).isSome →
      state.OwnsSegment payload.threadId ∧
        ∀ attachment, payload.threadId ∉ state.deletedThreads →
          state.OnItsWay payload.threadId attachment →
            ¬HasSegmentOf payload.threadId attachment) :
    (state.projected event).Intact := by
  have hrows : ∀ row ∈ (state.projected event).pipeline.tables.messages.rows,
      row ∈ state.pipeline.tables.messages.rows ∧ (row.threadId = payload.threadId →
        keepsMessage
          (MessageTable.listByThreadId state.pipeline.tables.messages payload.threadId)
          (TurnTable.listByThreadId state.pipeline.tables.turns payload.threadId)
          payload.turnCount row = true) := by
    intro row hrow
    rw [messages_projected, applyThreadMessagesProjection, hpayload] at hrow
    exact mem_revertMessages.mp hrow
  cases hpruned : prunedRows state.pipeline.tables payload with
  | none =>
    refine h.project_of_files ?_ ?_
    · show (projectEventWithSideEffects (state.pipeline, state.files) event).2 = _
      rw [files_project_reverted hpayload, hpruned]
    · rintro owner attachment howner ⟨row, hrow, hshown⟩
      exact ⟨owner, not_deleted_of_projected howner, Or.inl ⟨row, (hrows row hrow).1, hshown⟩⟩
  | some keptRows =>
    obtain ⟨howns, hway⟩ := hleaves (by rw [hpruned]; rfl)
    rintro owner attachment ⟨howner, huse⟩
    have hnotDeleted := not_deleted_of_projected howner
    have hbefore : state.InUse owner attachment := by
      refine ⟨hnotDeleted, ?_⟩
      rcases huse with ⟨row, hrow, hshown⟩ | huse
      · exact Or.inl ⟨row, (hrows row hrow).1, hshown⟩
      · exact Or.inr huse.of_projected
    have hstored := h owner attachment hbefore
    refine hstored.projected ?_
    show KeyedMap.get _ (projectEventWithSideEffects (state.pipeline, state.files) event).2 = _
    rw [files_project_reverted hpayload, hpruned]
    refine get_pruneThreadAttachments (hwf.named hstored) (fun hsegment => ?_)
    -- the attachment is one of the thread's own, and a kept message shows it
    have hthread := howns owner attachment hbefore hsegment
    subst hthread
    rcases huse with ⟨row, hrow, hthread, hattachment⟩ | huse
    · obtain ⟨hmem, hkept⟩ := hrows row hrow
      have hkeptRow : row ∈ keptRows := by
        rw [prunedRows_eq_some hpruned]
        exact List.mem_filter.mpr ⟨mem_listByThread.mpr ⟨hmem, hthread⟩, hkept hthread⟩
      exact mem_collectThreadAttachmentRelativePaths hkeptRow hattachment hsegment
    · exact absurd hsegment (hway attachment hnotDeleted huse.of_projected)

theorem WellFormed.step (hwf : state.WellFormed) (hstep : state.step action = some next) :
    next.WellFormed := by
  cases action with
  | upload threadId name mimeType bytes randomUUID => exact hwf.upload hstep
  | reject randomUUID =>
    cases hstep
    exact ⟨hwf.created, fun upload hupload => hwf.pending upload (List.mem_of_mem_filter hupload)⟩
  | project event =>
    obtain ⟨-, rfl⟩ := project_eq_some hstep
    exact ⟨hwf.created, fun upload hupload => hwf.pending upload (List.mem_of_mem_filter hupload)⟩

theorem Intact.step (h : state.Intact) (hwf : state.WellFormed)
    (hleaves : state.LeavesFiles action) (hstep : state.step action = some next) : next.Intact := by
  cases action with
  | upload threadId name mimeType bytes randomUUID => exact h.upload hwf hstep
  | reject randomUUID =>
    cases hstep
    rintro owner attachment ⟨howner, hshown | ⟨upload, hupload, huse⟩⟩
    · exact h owner attachment ⟨howner, Or.inl hshown⟩
    · exact h owner attachment
        ⟨howner, Or.inr ⟨upload, List.mem_of_mem_filter hupload, huse⟩⟩
  | project event =>
    obtain ⟨hsent, rfl⟩ := project_eq_some hstep
    simp only [LeavesFiles] at hleaves
    cases hpayload : event.payload with
    | threadDeleted payload =>
      rw [hpayload] at hleaves
      exact h.threadDeleted hwf hpayload hleaves
    | threadReverted payload =>
      rw [hpayload] at hleaves
      exact h.threadReverted hwf hpayload hleaves
    | threadMessageSent payload =>
      rw [hpayload] at hleaves
      exact h.messageSent hpayload hsent hleaves
    | _ =>
      refine h.project_of_files (files_project_other (by simp [hpayload]) (by simp [hpayload])) ?_
      rintro owner attachment howner ⟨row, hrow, hshown⟩
      rw [messages_projected, applyThreadMessagesProjection, hpayload] at hrow
      exact ⟨owner, not_deleted_of_projected howner, Or.inl ⟨row, hrow, hshown⟩⟩

/-- In a run that leaves the files in use, every attachment of a projected message whose thread
is not deleted has its file in every state. -/
theorem attachmentsStored_throughout (actions : List AttachmentAction)
    (h : StepsMeet AttachmentState.step LeavesFiles initial actions) :
    Throughout AttachmentState.step AttachmentsStored initial actions := by
  have hstart : initial.WellFormed ∧ initial.Intact := by
    refine ⟨⟨?_, ?_⟩, ?_⟩
    · exact nofun
    · exact nofun
    · rintro owner attachment ⟨-, ⟨row, hrow, -⟩ | ⟨upload, hupload, -⟩⟩
      · cases hrow
      · cases hupload
  have hkept : ∀ (state : AttachmentState) action next, state.WellFormed ∧ state.Intact →
      state.LeavesFiles action → state.step action = some next →
        next.WellFormed ∧ next.Intact := by
    intro state action next hinv hleaves hstep
    exact ⟨hinv.1.step hstep, hinv.2.step hinv.1 hleaves hstep⟩
  have hrun := throughout_of_stepsMeet hkept hstart h
  exact hrun.imp (fun state hinv => hinv.2.attachmentsStored)

end AttachmentState

end Projection

namespace AttachmentState

/-- No MIME type has another extension than those of the source's own table. -/
@[reducible] def plainMimeRuntime : MimeRuntime where
  getExtension _ := none

def firstUuid : Uuid := ⟨"00000000-0000-4000-8000-000000000001".toList, by decide +kernel⟩

/-- The image the normalizer writes for a message of the thread `a b`. -/
def screenshot : ChatAttachment where
  id := "a-b-00000000-0000-4000-8000-000000000001"
  name := "screenshot.png"
  mimeType := "image/png"
  sizeBytes := 1

def recorded (sequence : Nat) (payload : EventPayload) : OrchestrationEvent where
  sequence := sequence
  eventId := "event"
  aggregateKind := .thread
  aggregateId := "a b"
  occurredAt := "2026-01-01T00:00:00.000Z"
  commandId := none
  causationEventId := none
  correlationId := none
  metadata := ⟨none⟩
  payload := payload

def uploadAndSend : List AttachmentAction :=
  [.upload "a b" "screenshot.png" "image/png" [0] firstUuid,
    .project (recorded 1 (.threadMessageSent {
      threadId := "a b"
      messageId := "m1"
      role := .user
      text := "look"
      attachments := some [screenshot]
      turnId := none
      streaming := false
      createdAt := "2026-01-01T00:00:00.000Z"
      updatedAt := "2026-01-01T00:00:00.000Z" }))]

def deleteThread (threadId : ThreadId) : AttachmentAction :=
  .project (recorded 2 (.threadDeleted
    { threadId, deletedAt := "2026-01-01T00:00:00.000Z" }))

/-- Deleting the thread `a-b` removes the file of a message of the thread `a b`. -/
theorem deletion_removes_other_threads_file :
    ¬ ∀ [TextRuntime] [MimeRuntime] [Collation],
      Throughout step AttachmentsStored initial (uploadAndSend ++ [deleteThread "a-b"]) := by
  intro h
  let _ := asciiTextRuntime
  let _ := plainMimeRuntime
  let _ := codePointCollation
  have hrun : (exec step initial (uploadAndSend ++ [deleteThread "a-b"])).map (fun state =>
      (state.pipeline.tables.messages.rows.map (fun row => (row.threadId, row.attachments)),
        state.deletedThreads,
        KeyedMap.get (attachmentRelativePath screenshot) state.files)) =
      some ([("a b", some [screenshot])], ["a-b"], none) := by
    decide +kernel
  obtain ⟨final, hfinal, hfacts⟩ := Option.map_eq_some_iff.mp hrun
  simp only [Prod.mk.injEq] at hfacts
  obtain ⟨hrows, hdeleted, hfile⟩ := hfacts
  have hmem : ("a b", some [screenshot]) ∈ final.pipeline.tables.messages.rows.map
      (fun row => (row.threadId, row.attachments)) := by
    rw [hrows]
    exact List.mem_cons_self
  obtain ⟨row, hrow, hentry⟩ := List.mem_map.mp hmem
  obtain ⟨hthread, hattachments⟩ := Prod.mk.inj hentry
  have hnotDeleted : row.threadId ∉ final.deletedThreads := by
    rw [hthread, hdeleted]
    decide
  have hattachment : screenshot ∈ row.attachments.getD [] := by
    rw [hattachments]
    exact List.mem_cons_self
  obtain ⟨upload, -, -, hstored⟩ := h.final hfinal row hrow hnotDeleted screenshot hattachment
  rw [hfile] at hstored
  cases hstored

/-- Deleting the thread of the message itself leaves no file in use without its contents. -/
theorem deletion_of_own_thread :
    letI := asciiTextRuntime
    letI := plainMimeRuntime
    letI := codePointCollation
    Throughout step AttachmentsStored initial (uploadAndSend ++ [deleteThread "a b"]) := by
  let _ := asciiTextRuntime
  let _ := plainMimeRuntime
  let _ := codePointCollation
  have hrun : (exec step initial uploadAndSend).map (fun state =>
      (state.pipeline.tables.messages.rows.map ProjectionThreadMessage.threadId,
        state.pending.map Upload.threadId)) = some (["a b"], []) := by
    decide +kernel
  refine attachmentsStored_throughout _ ?_
  intro uploaded hupload
  refine ⟨trivial, ?_⟩
  intro sent hsent
  refine ⟨?_, ?_⟩
  · exact nofun
  · intro deleted hdeleted
    refine ⟨?_, trivial⟩
    have hexec : exec step initial uploadAndSend = some sent := by
      simp [uploadAndSend, hupload, hsent]
    rw [hexec, Option.map_some, Option.some_inj, Prod.mk.injEq] at hrun
    rintro owner attachment ⟨-, ⟨row, hrow, hthread, -⟩ | ⟨upload, hpending, -⟩⟩ -
    · have howner : owner ∈ sent.pipeline.tables.messages.rows.map
          ProjectionThreadMessage.threadId := hthread ▸ List.mem_map_of_mem hrow
      rw [hrun.1] at howner
      exact List.mem_singleton.mp howner
    · have hmem := List.mem_map_of_mem (f := Upload.threadId) hpending
      rw [hrun.2] at hmem
      cases hmem

end AttachmentState

end GT3Code.Orchestration
