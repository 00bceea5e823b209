import GT3Code.Web.DraftAttachments

/-! # The last synchronization

Which attachments of a synchronization are left once its verification and those before it have run,
and which images no verification has seen.
-/

namespace GT3Code.Web

open GT3Code.Base GT3Code.Base.Json

variable {Context Selection : Type} {store next : DraftStore Context Selection}

/-! ## What each step leaves -/

@[simp] theorem flush_draft (store : DraftStore Context Selection) :
    (flush store).draft = store.draft := by
  unfold flush
  split <;> rfl

@[simp] theorem flush_waiting (store : DraftStore Context Selection) :
    (flush store).waiting = store.waiting := by
  unfold flush
  split <;> rfl

theorem flush_current (store : DraftStore Context Selection) :
    (flush store).current = store.current := by
  rw [DraftStore.current, flush_draft, DraftStore.current]

theorem inStorage_setDraft (store : DraftStore Context Selection)
    (draft : Option (ComposerThreadDraftState Context Selection)) :
    (setDraft store draft).InStorage := rfl

theorem flush_flush (store : DraftStore Context Selection) : flush (flush store) = flush store := by
  obtain ⟨draft, pending, stored, waiting⟩ := store
  cases pending <;> rfl

theorem inStorage_flush (h : store.InStorage) : (flush store).InStorage := by
  unfold DraftStore.InStorage at h ⊢
  rw [flush_draft, flush_flush, h]

theorem partializeDraft_attachments (draft : ComposerThreadDraftState Context Selection) :
    ((partializeDraft draft).map PersistedComposerThreadDraftState.attachments).getD [] =
      draft.persistedAttachments := by
  unfold partializeDraft
  dsimp only
  split
  · rename_i hnothing
    exact (List.eq_nil_of_length_eq_zero hnothing.2.1).symm
  · rfl

theorem storedAttachments_eq (h : store.InStorage) :
    store.storedAttachments = store.persistedAttachments := by
  rw [DraftStore.storedAttachments, h, DraftStore.persistedAttachments, DraftStore.current]
  cases store.draft with
  | none => rfl
  | some draft => exact partializeDraft_attachments draft

theorem readPersistedAttachmentIds_flush (h : store.InStorage) :
    readPersistedAttachmentIdsFromStorage (flush store) = store.persistedIds := by
  rw [DraftStore.persistedIds, ← storedAttachments_eq h]
  rfl

theorem keptDraft_getD {draft : ComposerThreadDraftState Context Selection}
    (h : ∀ id ∈ draft.nonPersistedImageIds, id ∈ draft.images.map ComposerImageAttachment.id) :
    (keptDraft draft).getD createEmptyThreadDraft = draft := by
  unfold keptDraft
  split
  · rename_i hremove
    obtain ⟨prompt, images, nonPersisted, persisted, contexts, selections, provider, mode,
      interaction⟩ := draft
    simp only [shouldRemoveDraft, decide_eq_true_eq, List.length_eq_zero_iff,
      Option.isNone_iff_eq_none] at hremove
    obtain ⟨rfl, rfl, rfl, rfl, rfl, rfl, rfl, rfl⟩ := hremove
    have hnone : nonPersisted = [] :=
      List.eq_nil_iff_forall_not_mem.mpr (fun id hid => List.not_mem_nil (h id hid))
    rw [hnone]
    rfl
  · rfl

theorem keptDraft_getD_lists (draft : ComposerThreadDraftState Context Selection) :
    ((keptDraft draft).getD createEmptyThreadDraft).images = draft.images ∧
      ((keptDraft draft).getD createEmptyThreadDraft).persistedAttachments =
        draft.persistedAttachments := by
  have hclean := @keptDraft_getD _ _ { draft with nonPersistedImageIds := [] }
    (fun id hid => absurd hid List.not_mem_nil)
  have himages := congrArg ComposerThreadDraftState.images hclean
  have hpersisted := congrArg ComposerThreadDraftState.persistedAttachments hclean
  cases hremove : shouldRemoveDraft draft with
  | true =>
    have hempty : keptDraft draft = none := if_pos hremove
    have hempty' : keptDraft { draft with nonPersistedImageIds := [] } = none := if_pos hremove
    rw [hempty'] at himages hpersisted
    rw [hempty]
    exact ⟨himages, hpersisted⟩
  | false =>
    have hkept : keptDraft draft = some draft := if_neg (by simp [hremove])
    rw [hkept]
    exact ⟨rfl, rfl⟩

theorem addImages_current (store : DraftStore Context Selection)
    (images : List ComposerImageAttachment) :
    (addImages store images).current =
      { store.current with
        images := store.current.images ++ acceptImages store.current.images images } := by
  unfold addImages
  split
  · rename_i hnone
    rw [List.eq_nil_of_length_eq_zero hnone, acceptImages, List.append_nil]
  · dsimp only
    split
    · rename_i hnone
      have haccepted : acceptImages store.current.images images = [] :=
        List.eq_nil_of_length_eq_zero hnone
      rw [haccepted, List.append_nil]
      rfl
    · rfl

theorem addImages_waiting (store : DraftStore Context Selection)
    (images : List ComposerImageAttachment) :
    (addImages store images).waiting = store.waiting := by
  unfold addImages
  split
  · rfl
  · dsimp only
    split <;> rfl

theorem inStorage_addImages (h : store.InStorage) (images : List ComposerImageAttachment) :
    (addImages store images).InStorage := by
  unfold addImages
  split
  · exact h
  · dsimp only
    split <;> exact inStorage_setDraft _ _

theorem acceptImages_fresh {existing images : List ComposerImageAttachment} {id : Text}
    (h : id ∈ (acceptImages existing images).map ComposerImageAttachment.id) :
    id ∉ existing.map ComposerImageAttachment.id := by
  induction images generalizing existing with
  | nil => exact absurd h List.not_mem_nil
  | cons image rest ih =>
    unfold acceptImages at h
    split at h
    · exact ih h
    · rename_i hnew
      rcases List.mem_cons.mp h with rfl | hrest
      · exact fun hmem => hnew (Or.inl hmem)
      · have hlater := ih hrest
        rw [List.map_append, List.mem_append, not_or] at hlater
        exact hlater.1

theorem removeImage_waiting (store : DraftStore Context Selection) (imageId : Text) :
    (removeImage store imageId).waiting = store.waiting := by
  unfold removeImage
  split <;> rfl

theorem inStorage_removeImage (h : store.InStorage) (imageId : Text) :
    (removeImage store imageId).InStorage := by
  unfold removeImage
  split
  · exact h
  · exact inStorage_setDraft _ _

abbrev without (imageId : Text) (ids : List Text) : List Text := ids.filter (fun id => id ≠ imageId)

theorem map_filter_ne {Item : Type} (id : Item → Text) (imageId : Text) (items : List Item) :
    (items.filter (fun item => id item ≠ imageId)).map id = without imageId (items.map id) := by
  rw [without, List.filter_map]
  rfl

theorem removeImage_imageIds (store : DraftStore Context Selection) (imageId : Text) :
    (removeImage store imageId).imageIds = without imageId store.imageIds := by
  obtain ⟨draft, pending, stored, waiting⟩ := store
  cases draft with
  | none => rfl
  | some current =>
    have hlists := (keptDraft_getD_lists
      { current with
        images := current.images.filter (fun image => image.id ≠ imageId)
        nonPersistedImageIds := current.nonPersistedImageIds.filter (fun id => id ≠ imageId)
        persistedAttachments :=
          current.persistedAttachments.filter (fun attachment => attachment.id ≠ imageId) }).1
    exact (congrArg (List.map ComposerImageAttachment.id) hlists).trans (map_filter_ne _ _ _)

theorem removeImage_persistedAttachments (store : DraftStore Context Selection) (imageId : Text) :
    (removeImage store imageId).persistedAttachments =
      store.persistedAttachments.filter (fun attachment => attachment.id ≠ imageId) := by
  obtain ⟨draft, pending, stored, waiting⟩ := store
  cases draft with
  | none => rfl
  | some current => exact (keptDraft_getD_lists _).2

theorem removeImage_nonPersistedImageIds
    (h : ∀ id ∈ store.nonPersistedImageIds, id ∈ store.imageIds) (imageId : Text) :
    (removeImage store imageId).nonPersistedImageIds =
      without imageId store.nonPersistedImageIds := by
  obtain ⟨draft, pending, stored, waiting⟩ := store
  cases draft with
  | none => rfl
  | some current =>
    refine congrArg ComposerThreadDraftState.nonPersistedImageIds
      (keptDraft_getD (fun id hid => ?_))
    obtain ⟨hlisted, hother⟩ := List.mem_filter.mp hid
    dsimp only
    rw [map_filter_ne]
    exact List.mem_filter.mpr ⟨h id hlisted, hother⟩

theorem verify_waiting (store : DraftStore Context Selection)
    (attachments : List PersistedComposerImageAttachment) :
    (verifyPersistedAttachments store attachments).waiting = store.waiting := by
  unfold verifyPersistedAttachments
  dsimp only
  split <;> exact flush_waiting store

theorem inStorage_verify (store : DraftStore Context Selection)
    (attachments : List PersistedComposerImageAttachment) :
    (verifyPersistedAttachments store attachments).InStorage := by
  unfold verifyPersistedAttachments
  dsimp only
  split <;> exact inStorage_setDraft _ _

theorem verify_current (h : store.InStorage)
    (attachments : List PersistedComposerImageAttachment) :
    (verifyPersistedAttachments store attachments).current =
      { store.current with
        persistedAttachments := attachments.filter
          (fun attachment => attachment.id ∈ store.imageIds ∧ attachment.id ∈ store.persistedIds)
        nonPersistedImageIds :=
          store.imageIds.filter (fun imageId => imageId ∉ store.persistedIds) } := by
  unfold verifyPersistedAttachments
  dsimp only
  rw [readPersistedAttachmentIds_flush h, flush_draft]
  unfold DraftStore.imageIds DraftStore.current
  cases hdraft : store.draft with
  | none =>
    have hnone : attachments.filter (fun attachment => attachment.id ∈ ([] : List Text) ∧
        attachment.id ∈ store.persistedIds) = [] :=
      List.filter_eq_nil_iff.mpr (fun attachment _ => by simp)
    exact (congrArg (fun found : List PersistedComposerImageAttachment =>
      { createEmptyThreadDraft with persistedAttachments := found }) hnone).symm
  | some current => exact keptDraft_getD (fun id hid => (List.mem_filter.mp hid).1)

theorem sync_waiting (store : DraftStore Context Selection)
    (attachments : List PersistedComposerImageAttachment) :
    (syncPersistedAttachments store attachments).waiting = store.waiting ++ [attachments] := rfl

theorem inStorage_sync (store : DraftStore Context Selection)
    (attachments : List PersistedComposerImageAttachment) :
    (syncPersistedAttachments store attachments).InStorage := by
  unfold syncPersistedAttachments
  cases store.draft with
  | none => exact inStorage_setDraft store none
  | some current => exact inStorage_setDraft store _

theorem sync_persistedAttachments (store : DraftStore Context Selection)
    (attachments : List PersistedComposerImageAttachment) :
    (syncPersistedAttachments store attachments).persistedAttachments =
      if store.draft.isSome then attachments else [] := by
  unfold syncPersistedAttachments DraftStore.persistedAttachments DraftStore.current
  cases store.draft with
  | none => rfl
  | some current => exact (keptDraft_getD_lists _).2

/-- The step takes the attachment of `id` from the draft. -/
def Loses (id : Text) (store : DraftStore Context Selection) : AttachmentStep → Prop
  | .removeImage imageId => imageId = id
  | .verify => ∀ attachments ∈ store.waiting.head?,
      ¬ (id ∈ attachments.map PersistedComposerImageAttachment.id ∧ id ∈ store.imageIds)
  | _ => False

def AddsLate (id : Text) (store : DraftStore Context Selection) : AttachmentStep → Prop
  | .addImages images => store.waiting = [] ∧
      id ∈ (acceptImages store.current.images images).map ComposerImageAttachment.id
  | _ => False

theorem attachmentStep_verify (h : attachmentStep store .verify = some next) :
    ∃ attachments rest, store.waiting = attachments :: rest ∧
      next = verifyPersistedAttachments { store with waiting := rest } attachments := by
  cases hwaiting : store.waiting with
  | nil =>
    simp only [attachmentStep, hwaiting] at h
    cases h
  | cons attachments rest =>
    simp only [attachmentStep, hwaiting] at h
    exact ⟨attachments, rest, rfl, (Option.some.inj h).symm⟩

theorem inStorage_waiting (h : store.InStorage)
    (waiting : List (List PersistedComposerImageAttachment)) :
    DraftStore.InStorage { store with waiting } := by
  obtain ⟨draft, pending, stored, _⟩ := store
  cases pending <;> exact h

variable {step : AttachmentStep} {attachments : List PersistedComposerImageAttachment}

theorem inStorage_step (h : store.InStorage) (hstep : attachmentStep store step = some next) :
    next.InStorage := by
  cases step with
  | addImages images =>
    cases hstep
    exact inStorage_addImages h images
  | removeImage imageId =>
    cases hstep
    exact inStorage_removeImage h imageId
  | verify =>
    obtain ⟨attachments, rest, -, rfl⟩ := attachmentStep_verify hstep
    exact inStorage_verify _ _
  | flush =>
    cases hstep
    exact inStorage_flush h

theorem mem_map_filter_id {p : Text → Bool} {id : Text} :
    id ∈ (attachments.filter (fun attachment => p attachment.id)).map
        PersistedComposerImageAttachment.id ↔
      id ∈ attachments.map PersistedComposerImageAttachment.id ∧ p id = true := by
  constructor
  · intro h
    obtain ⟨attachment, hmem, rfl⟩ := List.mem_map.mp h
    obtain ⟨hlisted, hp⟩ := List.mem_filter.mp hmem
    exact ⟨List.mem_map_of_mem hlisted, hp⟩
  · rintro ⟨h, hp⟩
    obtain ⟨attachment, hmem, rfl⟩ := List.mem_map.mp h
    exact List.mem_map_of_mem (List.mem_filter.mpr ⟨hmem, hp⟩)

theorem mem_verify_persistedIds (h : store.InStorage) {id : Text} :
    id ∈ (verifyPersistedAttachments store attachments).persistedIds ↔
      id ∈ attachments.map PersistedComposerImageAttachment.id ∧ id ∈ store.imageIds ∧
        id ∈ store.persistedIds := by
  rw [DraftStore.persistedIds, DraftStore.persistedAttachments, verify_current h]
  refine (mem_map_filter_id (p := fun id => id ∈ store.imageIds ∧ id ∈ store.persistedIds)).trans ?_
  rw [decide_eq_true_eq]

theorem persistedIds_step (h : store.InStorage) (hstep : attachmentStep store step = some next)
    (id : Text) : id ∈ next.persistedIds ↔ id ∈ store.persistedIds ∧ ¬ Loses id store step := by
  cases step with
  | addImages images =>
    cases hstep
    rw [DraftStore.persistedIds, DraftStore.persistedAttachments, addImages_current]
    exact (and_iff_left not_false).symm
  | removeImage imageId =>
    cases hstep
    rw [DraftStore.persistedIds, removeImage_persistedAttachments, map_filter_ne, List.mem_filter,
      decide_eq_true_eq]
    exact and_congr_right (fun _ => ne_comm)
  | verify =>
    obtain ⟨attachments, rest, hwaiting, rfl⟩ := attachmentStep_verify hstep
    rw [mem_verify_persistedIds (inStorage_waiting h rest), Loses, hwaiting]
    simp only [List.head?_cons, Option.mem_def, Option.some.injEq, forall_eq', not_not]
    exact ⟨fun hkept => ⟨hkept.2.2, hkept.1, hkept.2.1⟩,
      fun hkept => ⟨hkept.2.1, hkept.2.2, hkept.1⟩⟩
  | flush =>
    cases hstep
    rw [DraftStore.persistedIds, DraftStore.persistedAttachments, flush_current]
    exact (and_iff_left not_false).symm

end GT3Code.Web
