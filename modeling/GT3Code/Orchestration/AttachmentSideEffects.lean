import GT3Code.Orchestration.ProjectionPipeline
import GT3Code.Server.AttachmentStore

/-! # Attachment side effects

The normalizer writes the file of an attachment before the command that names it is
dispatched. A projector that deletes a thread removes the files with the thread's
segment, and one that reverts a thread removes those of them no kept message names.
-/

namespace GT3Code.Orchestration

open GT3Code.Base GT3Code.Contracts GT3Code.Persistence GT3Code.Server

abbrev AttachmentFiles := KeyedMap String (List Base64Url.Byte)

section SideEffects

variable [TextRuntime] [MimeRuntime]

/-! ## Removal -/

def normalizeEntry (entry : String) : String :=
  String.ofList (forwardSlashes (entry.toList.dropWhile isSlash))

/-- The file has the name of an attachment with this thread segment. -/
def belongsToThread (threadSegment : List Char) (relativePath : String) : Bool :=
  relativePath.length > 0 && '/' ∉ relativePath.toList &&
    ((parseAttachmentIdFromRelativePath relativePath).bind parseThreadSegmentFromAttachmentId =
      some threadSegment)

def removeDeletedThreadAttachmentEntry (threadSegment : List Char) (files : AttachmentFiles)
    (entry : String) : AttachmentFiles :=
  let normalizedEntry := normalizeEntry entry
  if belongsToThread threadSegment normalizedEntry then KeyedMap.delete normalizedEntry files
  else files

def deleteThreadAttachments (files : AttachmentFiles) (threadId : ThreadId) : AttachmentFiles :=
  match toSafeThreadAttachmentSegment threadId with
  | none => files
  | some threadSegment =>
    (files.rows.map Prod.fst).foldl (removeDeletedThreadAttachmentEntry threadSegment) files

def pruneThreadAttachmentEntry (threadSegment : List Char) (keptThreadRelativePaths : List String)
    (files : AttachmentFiles) (entry : String) : AttachmentFiles :=
  let relativePath := normalizeEntry entry
  if belongsToThread threadSegment relativePath then
    if (KeyedMap.get relativePath files).isSome &&
        !keptThreadRelativePaths.contains relativePath then
      KeyedMap.delete relativePath files
    else files
  else files

/-- What an event leaves to do: threads whose files go, and threads whose files are compared with
the paths kept. -/
structure AttachmentSideEffects where
  deletedThreadIds : List ThreadId
  prunedThreadRelativePaths : List (ThreadId × List String)

def AttachmentSideEffects.none : AttachmentSideEffects := ⟨[], []⟩

def pruneThreadAttachments (deletedThreadIds : List ThreadId) (files : AttachmentFiles)
    (pruned : ThreadId × List String) : AttachmentFiles :=
  if pruned.1 ∈ deletedThreadIds then files
  else
    match toSafeThreadAttachmentSegment pruned.1 with
    | .none => files
    | some threadSegment =>
      (files.rows.map Prod.fst).foldl
        (pruneThreadAttachmentEntry threadSegment pruned.2) files

def runAttachmentSideEffects (sideEffects : AttachmentSideEffects) (files : AttachmentFiles) :
    AttachmentFiles :=
  sideEffects.prunedThreadRelativePaths.foldl
    (pruneThreadAttachments sideEffects.deletedThreadIds)
    (sideEffects.deletedThreadIds.foldl deleteThreadAttachments files)

def collectThreadAttachmentRelativePaths (threadId : ThreadId)
    (messages : List ProjectionThreadMessage) : List String :=
  match toSafeThreadAttachmentSegment threadId with
  | none => []
  | some threadSegment =>
    ((messages.flatMap (fun message => message.attachments.getD [])).filter
      (fun attachment => parseThreadSegmentFromAttachmentId attachment.id = some threadSegment)).map
        attachmentRelativePath

variable [Collation]

def prunedRows (tables : ProjectionTables) (payload : ThreadRevertedPayload) :
    Option (List ProjectionThreadMessage) :=
  let existingRows := MessageTable.listByThreadId tables.messages payload.threadId
  let existingTurns := TurnTable.listByThreadId tables.turns payload.threadId
  let keptRows := retainProjectionMessagesAfterRevert existingRows existingTurns payload.turnCount
  if existingRows.length = 0 ∨ keptRows.length = existingRows.length then none else some keptRows

/-- The side effects a projector records, from the tables it reads. -/
def ProjectorName.sideEffects (projector : ProjectorName) (tables : ProjectionTables)
    (event : OrchestrationEvent) : AttachmentSideEffects :=
  match projector, event.payload with
  | .threads, .threadDeleted payload => ⟨[payload.threadId], []⟩
  | .threadMessages, .threadReverted payload =>
    match prunedRows tables payload with
    | none => .none
    | some keptRows =>
      ⟨[], [(payload.threadId,
        collectThreadAttachmentRelativePaths payload.threadId keptRows)]⟩
  | _, _ => .none

def runProjectorWithSideEffects (event : OrchestrationEvent)
    (state : PipelineState × AttachmentFiles) (projector : ProjectorName) :
    PipelineState × AttachmentFiles :=
  (runProjectorForEvent projector state.1 event,
    runAttachmentSideEffects (projector.sideEffects state.1.tables event) state.2)

def projectEventWithSideEffects (state : PipelineState × AttachmentFiles)
    (event : OrchestrationEvent) : PipelineState × AttachmentFiles :=
  projectors.foldl (runProjectorWithSideEffects event) state

def PROVIDER_SEND_TURN_MAX_IMAGE_BYTES : Nat := 10 * 1024 * 1024

/-- An attachment the normalizer has written for a command of the thread. -/
structure Upload where
  threadId : ThreadId
  randomUUID : Uuid
  attachment : ChatAttachment
  bytes : List Base64Url.Byte

/-- Write one decoded image of a `thread.turn.start` command. -/
def persistAttachment (files : AttachmentFiles) (threadId : ThreadId) (name mimeType : String)
    (bytes : List Base64Url.Byte) (randomUUID : Uuid) : Option (Upload × AttachmentFiles) :=
  if ¬("image/".toList <+: mimeType.toList) then none
  else if bytes.length = 0 ∨ bytes.length > PROVIDER_SEND_TURN_MAX_IMAGE_BYTES then none
  else do
    let attachmentId ← createAttachmentId threadId randomUUID
    let persistedAttachment : ChatAttachment := {
      id := attachmentId
      name
      mimeType := TextRuntime.toLowerCase mimeType
      sizeBytes := bytes.length }
    let attachmentPath ← resolveAttachmentPath persistedAttachment
    return ({ threadId, randomUUID, attachment := persistedAttachment, bytes },
      KeyedMap.set attachmentPath bytes files)

/-- `written` are all uploads, and `pending` those whose command was neither projected nor
rejected yet. -/
structure AttachmentState where
  pipeline : PipelineState
  files : AttachmentFiles
  written : List Upload
  pending : List Upload

def AttachmentState.initial : AttachmentState where
  pipeline := .empty
  files := KeyedTable.empty _
  written := []
  pending := []

inductive AttachmentAction where
  | upload (threadId : ThreadId) (name mimeType : String) (bytes : List Base64Url.Byte)
      (randomUUID : Uuid)
  | reject (randomUUID : Uuid)
  | project (event : OrchestrationEvent)

def sentAttachments (event : OrchestrationEvent) : List (ThreadId × ChatAttachment) :=
  match event.payload with
  | .threadMessageSent payload =>
    (payload.attachments.getD []).map (fun attachment => (payload.threadId, attachment))
  | _ => []

instance lawfulBEqSent : LawfulBEq (ThreadId × ChatAttachment) := inferInstance

namespace AttachmentState

/-- Random ids are never given twice, and a message has the attachments written for its command. -/
def step (state : AttachmentState) : AttachmentAction → Option AttachmentState
  | .upload threadId name mimeType bytes randomUUID =>
    if randomUUID ∈ state.written.map Upload.randomUUID then none
    else (persistAttachment state.files threadId name mimeType bytes randomUUID).map
      (fun (upload, files) =>
        { state with
          files
          written := upload :: state.written
          pending := upload :: state.pending })
  | .reject randomUUID =>
    some { state with
      pending := state.pending.filter (fun upload => upload.randomUUID ≠ randomUUID) }
  | .project event =>
    let sent := sentAttachments event
    if ∀ entry ∈ sent,
        entry ∈ state.pending.map (fun upload => (upload.threadId, upload.attachment)) then
      let (pipeline, files) := projectEventWithSideEffects (state.pipeline, state.files) event
      some { state with
        pipeline
        files
        pending := state.pending.filter (fun upload =>
          (upload.threadId, upload.attachment) ∉ sent) }
    else none

def deletedThreads (state : AttachmentState) : List ThreadId :=
  (state.pipeline.applied .threads).filterMap (fun event =>
    match event.payload with
    | .threadDeleted payload => some payload.threadId
    | _ => none)

def Stored (state : AttachmentState) (attachment : ChatAttachment) : Prop :=
  ∃ upload ∈ state.written, upload.attachment = attachment ∧
    KeyedMap.get (attachmentRelativePath attachment) state.files = some upload.bytes

/-- Every attachment of a projected message whose thread is not deleted has its file. -/
def AttachmentsStored (state : AttachmentState) : Prop :=
  ∀ row ∈ state.pipeline.tables.messages.rows, row.threadId ∉ state.deletedThreads →
    ∀ attachment ∈ row.attachments.getD [], state.Stored attachment

end AttachmentState

end SideEffects

end GT3Code.Orchestration
