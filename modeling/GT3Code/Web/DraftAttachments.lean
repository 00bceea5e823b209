import GT3Code.Base.FreshNames
import GT3Code.Contracts.Keybindings

/-! # Attachments of a draft

The images of a draft, and the attachments that the browser's storage keeps of them. A
synchronization stages its attachments and schedules a verification, which writes the storage, reads
it back and says which images it holds. Only the entry of one draft is kept here.
-/

namespace GT3Code.Web

open GT3Code.Base GT3Code.Base.Json GT3Code.Contracts

structure PersistedComposerImageAttachment where
  id : Text
  name : Text
  mimeType : Text
  sizeBytes : Nat
  dataUrl : Text
  deriving DecidableEq

structure ComposerImageAttachment where
  id : Text
  name : Text
  mimeType : Text
  sizeBytes : Nat

structure ComposerThreadDraftState (Context Selection : Type) where
  prompt : Text
  images : List ComposerImageAttachment
  nonPersistedImageIds : List Text
  persistedAttachments : List PersistedComposerImageAttachment
  terminalContexts : List Context
  modelSelectionByProvider : List (Text × Selection)
  activeProvider : Option Text
  runtimeMode : Option RuntimeMode
  interactionMode : Option ProviderInteractionMode

structure PersistedComposerThreadDraftState where
  attachments : List PersistedComposerImageAttachment

section Drafts

variable {Context Selection : Type}

def createEmptyThreadDraft : ComposerThreadDraftState Context Selection where
  prompt := []
  images := []
  nonPersistedImageIds := []
  persistedAttachments := []
  terminalContexts := []
  modelSelectionByProvider := []
  activeProvider := none
  runtimeMode := none
  interactionMode := none

def composerImageDedupKey (image : ComposerImageAttachment) : Text :=
  image.mimeType ++ [0] ++ decimal image.sizeBytes ++ [0] ++ image.name

def shouldRemoveDraft (draft : ComposerThreadDraftState Context Selection) : Bool :=
  draft.prompt.length = 0 ∧ draft.images.length = 0 ∧ draft.persistedAttachments.length = 0 ∧
    draft.terminalContexts.length = 0 ∧ draft.modelSelectionByProvider.length = 0 ∧
    draft.activeProvider.isNone ∧ draft.runtimeMode.isNone ∧ draft.interactionMode.isNone

/-- The draft as it is written; there is no entry for one without anything to keep. -/
def partializeDraft (draft : ComposerThreadDraftState Context Selection) :
    Option PersistedComposerThreadDraftState :=
  let hasModelData := draft.modelSelectionByProvider.length > 0 ∨ draft.activeProvider.isSome
  if draft.prompt.length = 0 ∧ draft.persistedAttachments.length = 0 ∧
      draft.terminalContexts.length = 0 ∧ ¬ hasModelData ∧ draft.runtimeMode.isNone ∧
      draft.interactionMode.isNone then none
  else some ⟨draft.persistedAttachments⟩

/-- The images that are added: none whose id or key is there already. -/
def acceptImages : List ComposerImageAttachment → List ComposerImageAttachment →
    List ComposerImageAttachment
  | _, [] => []
  | existing, image :: rest =>
    if image.id ∈ existing.map ComposerImageAttachment.id ∨
        composerImageDedupKey image ∈ existing.map composerImageDedupKey then
      acceptImages existing rest
    else image :: acceptImages (existing ++ [image]) rest

/-- The draft, what waits to be written, what is stored, and the scheduled verifications. -/
structure DraftStore (Context Selection : Type) where
  draft : Option (ComposerThreadDraftState Context Selection)
  pending : Option (Option PersistedComposerThreadDraftState)
  stored : Option PersistedComposerThreadDraftState
  waiting : List (List PersistedComposerImageAttachment)

/-- `set`, after which the state is written with a delay. -/
def setDraft (store : DraftStore Context Selection)
    (draft : Option (ComposerThreadDraftState Context Selection)) : DraftStore Context Selection :=
  { store with draft, pending := some (draft.bind partializeDraft) }

/-- `flush`, also when the delay is over. -/
def flush (store : DraftStore Context Selection) : DraftStore Context Selection :=
  match store.pending with
  | none => store
  | some value => { store with pending := none, stored := value }

def readPersistedAttachmentIdsFromStorage (store : DraftStore Context Selection) : List Text :=
  ((store.stored.map PersistedComposerThreadDraftState.attachments).getD []).map
    PersistedComposerImageAttachment.id

def keptDraft (draft : ComposerThreadDraftState Context Selection) :
    Option (ComposerThreadDraftState Context Selection) :=
  if shouldRemoveDraft draft then none else some draft

def addImages (store : DraftStore Context Selection) (images : List ComposerImageAttachment) :
    DraftStore Context Selection :=
  if images.length = 0 then store
  else
    let existing := store.draft.getD createEmptyThreadDraft
    let dedupedIncoming := acceptImages existing.images images
    if dedupedIncoming.length = 0 then setDraft store store.draft
    else setDraft store (some { existing with images := existing.images ++ dedupedIncoming })

def removeImage (store : DraftStore Context Selection) (imageId : Text) :
    DraftStore Context Selection :=
  match store.draft with
  | none => store
  | some current =>
    setDraft store (keptDraft
      { current with
        images := current.images.filter (fun image => image.id ≠ imageId)
        nonPersistedImageIds := current.nonPersistedImageIds.filter (fun id => id ≠ imageId)
        persistedAttachments :=
          current.persistedAttachments.filter (fun attachment => attachment.id ≠ imageId) })

def syncPersistedAttachments (store : DraftStore Context Selection)
    (attachments : List PersistedComposerImageAttachment) : DraftStore Context Selection :=
  let staged :=
    match store.draft with
    | none => setDraft store none
    | some current =>
      setDraft store (keptDraft
        { current with
          persistedAttachments := attachments
          nonPersistedImageIds := current.nonPersistedImageIds.filter
            (fun id => id ∉ attachments.map PersistedComposerImageAttachment.id) })
  { staged with waiting := store.waiting ++ [attachments] }

def verifyPersistedAttachments (store : DraftStore Context Selection)
    (attachments : List PersistedComposerImageAttachment) : DraftStore Context Selection :=
  let flushed := flush store
  let persistedIds := readPersistedAttachmentIdsFromStorage flushed
  match flushed.draft with
  | none => setDraft flushed none
  | some current =>
    let imageIds := current.images.map ComposerImageAttachment.id
    setDraft flushed (keptDraft
      { current with
        persistedAttachments := attachments.filter
          (fun attachment => attachment.id ∈ imageIds ∧ attachment.id ∈ persistedIds)
        nonPersistedImageIds := imageIds.filter (fun imageId => imageId ∉ persistedIds) })

inductive AttachmentStep where
  | addImages (images : List ComposerImageAttachment)
  | removeImage (imageId : Text)
  | verify
  | flush

/-- A verification runs where one is scheduled, the earliest first. -/
def attachmentStep (store : DraftStore Context Selection) :
    AttachmentStep → Option (DraftStore Context Selection)
  | .addImages images => some (addImages store images)
  | .removeImage imageId => some (removeImage store imageId)
  | .verify =>
    match store.waiting with
    | [] => none
    | attachments :: rest =>
      some (verifyPersistedAttachments { store with waiting := rest } attachments)
  | .flush => some (flush store)

namespace DraftStore

def current (store : DraftStore Context Selection) : ComposerThreadDraftState Context Selection :=
  store.draft.getD createEmptyThreadDraft

def imageIds (store : DraftStore Context Selection) : List Text :=
  store.current.images.map ComposerImageAttachment.id

def persistedAttachments (store : DraftStore Context Selection) :
    List PersistedComposerImageAttachment := store.current.persistedAttachments

def persistedIds (store : DraftStore Context Selection) : List Text :=
  store.persistedAttachments.map PersistedComposerImageAttachment.id

def nonPersistedImageIds (store : DraftStore Context Selection) : List Text :=
  store.current.nonPersistedImageIds

def storedAttachments (store : DraftStore Context Selection) :
    List PersistedComposerImageAttachment :=
  ((flush store).stored.map PersistedComposerThreadDraftState.attachments).getD []

def InStorage (store : DraftStore Context Selection) : Prop :=
  (flush store).stored = store.draft.bind partializeDraft

end DraftStore

end Drafts

end GT3Code.Web
