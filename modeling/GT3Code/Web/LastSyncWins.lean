import GT3Code.Web.LastSync

/-! # Who wins

After the last synchronization its attachments are kept as far as no step loses one, and the other
images are listed as far as none is added behind the last verification.
-/

namespace GT3Code.Web

open GT3Code.Base GT3Code.Base.Json

variable {Context Selection : Type} {synced store next : DraftStore Context Selection}
  {attachments : List PersistedComposerImageAttachment} {steps : List AttachmentStep}

abbrev NeverLost (id : Text) (synced : DraftStore Context Selection) (steps : List AttachmentStep) :
    Prop :=
  StepsMeet attachmentStep (fun store step => ¬ Loses id store step) synced steps

abbrev NeverLate (id : Text) (synced : DraftStore Context Selection) (steps : List AttachmentStep) :
    Prop :=
  StepsMeet attachmentStep (fun store step => ¬ AddsLate id store step) synced steps

theorem neverLost_concat {id : Text} {step : AttachmentStep}
    (h : exec attachmentStep synced steps = some store)
    (hstep : attachmentStep store step = some next) :
    NeverLost id synced (steps ++ [step]) ↔ NeverLost id synced steps ∧ ¬ Loses id store step :=
  stepsMeet_concat h hstep

theorem neverLate_concat {id : Text} {step : AttachmentStep}
    (h : exec attachmentStep synced steps = some store)
    (hstep : attachmentStep store step = some next) :
    NeverLate id synced (steps ++ [step]) ↔ NeverLate id synced steps ∧ ¬ AddsLate id store step :=
  stepsMeet_concat h hstep

structure Settled (synced : DraftStore Context Selection)
    (attachments : List PersistedComposerImageAttachment) (steps : List AttachmentStep)
    (store : DraftStore Context Selection) : Prop where
  ofLast : store.persistedAttachments =
    attachments.filter (fun attachment => attachment.id ∈ store.persistedIds)
  inDraft : ∀ id ∈ store.persistedIds, id ∈ store.imageIds
  listed : store.nonPersistedImageIds =
    store.imageIds.filter (fun id => id ∈ store.nonPersistedImageIds)
  apart : ∀ id ∈ store.nonPersistedImageIds, id ∉ store.persistedIds
  covered : ∀ id ∈ store.imageIds,
    (id ∈ store.nonPersistedImageIds ∨ id ∈ store.persistedIds) ↔ NeverLate id synced steps

/-- What holds after the synchronization, while no other one is made. -/
structure AfterSync (synced : DraftStore Context Selection)
    (attachments : List PersistedComposerImageAttachment) (steps : List AttachmentStep)
    (store : DraftStore Context Selection) : Prop where
  inStorage : store.InStorage
  lastWaits : store.waiting = [] ∨ store.waiting.getLast? = some attachments
  kept : ∀ id, id ∈ store.persistedIds ↔ id ∈ synced.persistedIds ∧ NeverLost id synced steps
  early : store.waiting ≠ [] → ∀ id, NeverLate id synced steps
  settled : store.waiting = [] → Settled synced attachments steps store

theorem filter_mem_filter {Item : Type} [BEq Item] [LawfulBEq Item] (items : List Item)
    (p : Item → Bool) :
    items.filter (fun item => item ∈ items.filter p) = items.filter p := by
  refine List.filter_congr (fun item hitem => ?_)
  rw [Bool.eq_iff_iff, decide_eq_true_eq, List.mem_filter]
  exact and_iff_right hitem

theorem Settled.congr {steps' : List AttachmentStep} (h : Settled synced attachments steps store)
    (hcurrent : next.current = store.current)
    (hlate : ∀ id, NeverLate id synced steps' ↔ NeverLate id synced steps) :
    Settled synced attachments steps' next := by
  have hattachments : next.persistedAttachments = store.persistedAttachments :=
    congrArg ComposerThreadDraftState.persistedAttachments hcurrent
  have hlist : next.nonPersistedImageIds = store.nonPersistedImageIds :=
    congrArg ComposerThreadDraftState.nonPersistedImageIds hcurrent
  have himages : next.imageIds = store.imageIds :=
    congrArg (fun draft => draft.images.map ComposerImageAttachment.id) hcurrent
  have hpersisted : next.persistedIds = store.persistedIds :=
    congrArg (List.map PersistedComposerImageAttachment.id) hattachments
  refine ⟨?_, ?_, ?_, ?_, fun id => ?_⟩
  · rw [hattachments, hpersisted]
    exact h.ofLast
  · rw [hpersisted, himages]
    exact h.inDraft
  · rw [hlist, himages]
    exact h.listed
  · rw [hlist, hpersisted]
    exact h.apart
  · rw [hlist, hpersisted, himages, hlate]
    exact h.covered id

theorem Settled.listed_inDraft (h : Settled synced attachments steps store) :
    ∀ id ∈ store.nonPersistedImageIds, id ∈ store.imageIds := by
  intro id hid
  rw [h.listed] at hid
  exact (List.mem_filter.mp hid).1

theorem Settled.add (h : Settled synced attachments steps store)
    (hexec : exec attachmentStep synced steps = some store) (hwaiting : store.waiting = [])
    (images : List ComposerImageAttachment) :
    Settled synced attachments (steps ++ [.addImages images]) (addImages store images) := by
  have hpersisted : (addImages store images).persistedIds = store.persistedIds := by
    rw [DraftStore.persistedIds, DraftStore.persistedAttachments, addImages_current]
    rfl
  have hlist : (addImages store images).nonPersistedImageIds = store.nonPersistedImageIds := by
    rw [DraftStore.nonPersistedImageIds, addImages_current]
    rfl
  have himages : (addImages store images).imageIds = store.imageIds ++
      (acceptImages store.current.images images).map ComposerImageAttachment.id := by
    rw [DraftStore.imageIds, addImages_current, List.map_append]
    rfl
  have hattachments : (addImages store images).persistedAttachments =
      store.persistedAttachments := by
    rw [DraftStore.persistedAttachments, addImages_current]
    rfl
  refine ⟨?_, ?_, ?_, ?_, ?_⟩
  · rw [hattachments, hpersisted]
    exact h.ofLast
  · intro id hid
    rw [hpersisted] at hid
    rw [himages]
    exact List.mem_append_left _ (h.inDraft id hid)
  · have hnone : ((acceptImages store.current.images images).map ComposerImageAttachment.id).filter
        (fun id => id ∈ store.nonPersistedImageIds) = [] := by
      refine List.filter_eq_nil_iff.mpr (fun id hid => ?_)
      simpa using fun hlisted => acceptImages_fresh hid (h.listed_inDraft id hlisted)
    rw [hlist, himages, List.filter_append, hnone, List.append_nil]
    exact h.listed
  · rw [hlist, hpersisted]
    exact h.apart
  · intro id hid
    rw [hlist, hpersisted, neverLate_concat hexec rfl]
    rw [himages] at hid
    rcases List.mem_append.mp hid with hold | hnew
    · have hnotLate : ¬ AddsLate id store (.addImages images) :=
        fun hadds => acceptImages_fresh hadds.2 hold
      rw [h.covered id hold]
      exact (and_iff_left hnotLate).symm
    · have hfresh := acceptImages_fresh hnew
      constructor
      · rintro (hlisted | hheld)
        · exact absurd (h.listed_inDraft id hlisted) hfresh
        · exact absurd (h.inDraft id hheld) hfresh
      · exact fun hnever => absurd ⟨hwaiting, hnew⟩ hnever.2

theorem Settled.remove (h : Settled synced attachments steps store)
    (hexec : exec attachmentStep synced steps = some store) (imageId : Text) :
    Settled synced attachments (steps ++ [.removeImage imageId]) (removeImage store imageId) := by
  have hlate : ∀ id, NeverLate id synced (steps ++ [.removeImage imageId]) ↔
      NeverLate id synced steps :=
    fun id => (neverLate_concat hexec rfl).trans (and_iff_left not_false)
  have hpersisted : (removeImage store imageId).persistedIds =
      without imageId store.persistedIds := by
    rw [DraftStore.persistedIds, removeImage_persistedAttachments, map_filter_ne]
    rfl
  have hlist := removeImage_nonPersistedImageIds h.listed_inDraft imageId
  have himages := removeImage_imageIds store imageId
  refine ⟨?_, ?_, ?_, ?_, ?_⟩
  · rw [removeImage_persistedAttachments, hpersisted, h.ofLast, List.filter_filter]
    refine List.filter_congr (fun attachment _ => ?_)
    rw [Bool.eq_iff_iff, Bool.and_eq_true, decide_eq_true_eq, decide_eq_true_eq, decide_eq_true_eq,
      List.mem_filter, decide_eq_true_eq]
    exact and_comm
  · intro id hid
    rw [hpersisted] at hid
    rw [himages]
    obtain ⟨hheld, hother⟩ := List.mem_filter.mp hid
    exact List.mem_filter.mpr ⟨h.inDraft id hheld, hother⟩
  · rw [hlist, himages]
    calc without imageId store.nonPersistedImageIds
        = without imageId (store.imageIds.filter (fun id => id ∈ store.nonPersistedImageIds)) :=
          congrArg (without imageId) h.listed
      _ = (without imageId store.imageIds).filter
            (fun id => id ∈ without imageId store.nonPersistedImageIds) := by
          rw [without, without, List.filter_filter, List.filter_filter]
          refine List.filter_congr (fun id _ => ?_)
          simp only [List.mem_filter, Bool.decide_and, Bool.decide_eq_true]
          cases decide (id ≠ imageId) <;> simp
  · intro id hid hheld
    rw [hlist] at hid
    rw [hpersisted] at hheld
    exact h.apart id (List.mem_of_mem_filter hid) (List.mem_of_mem_filter hheld)
  · intro id hid
    rw [himages] at hid
    obtain ⟨hold, hother⟩ := List.mem_filter.mp hid
    rw [hlist, hpersisted, hlate, List.mem_filter, List.mem_filter, ← h.covered id hold]
    exact or_congr (and_iff_left hother) (and_iff_left hother)

theorem settled_verify (hstore : store.InStorage)
    (hnext : next = verifyPersistedAttachments store attachments)
    (hids : ∀ id ∈ store.persistedIds, id ∈ attachments.map PersistedComposerImageAttachment.id)
    (hnever : ∀ id, NeverLate id synced steps) : Settled synced attachments steps next := by
  have hcurrent := verify_current hstore attachments
  rw [← hnext] at hcurrent
  have himages : next.imageIds = store.imageIds := by rw [DraftStore.imageIds, hcurrent]; rfl
  have hlist : next.nonPersistedImageIds =
      store.imageIds.filter (fun imageId => imageId ∉ store.persistedIds) := by
    rw [DraftStore.nonPersistedImageIds, hcurrent]
  have hheld : ∀ id, id ∈ next.persistedIds ↔
      id ∈ attachments.map PersistedComposerImageAttachment.id ∧ id ∈ store.imageIds ∧
        id ∈ store.persistedIds := by
    intro id
    rw [hnext]
    exact mem_verify_persistedIds hstore
  refine ⟨?_, ?_, ?_, ?_, ?_⟩
  · have hattachments : next.persistedAttachments = attachments.filter (fun attachment =>
        attachment.id ∈ store.imageIds ∧ attachment.id ∈ store.persistedIds) := by
      rw [DraftStore.persistedAttachments, hcurrent]
    rw [hattachments]
    refine List.filter_congr (fun attachment hmem => ?_)
    rw [Bool.eq_iff_iff, decide_eq_true_eq, decide_eq_true_eq, hheld]
    exact (and_iff_right (List.mem_map_of_mem hmem)).symm
  · intro id hid
    rw [himages]
    exact ((hheld id).mp hid).2.1
  · rw [hlist, himages, filter_mem_filter]
  · intro id hid hpersisted
    rw [hlist] at hid
    have hmissing := (List.mem_filter.mp hid).2
    exact (of_decide_eq_true hmissing) ((hheld id).mp hpersisted).2.2
  · intro id hid
    rw [himages] at hid
    refine iff_of_true ?_ (hnever id)
    by_cases hpersisted : id ∈ store.persistedIds
    · exact Or.inr ((hheld id).mpr ⟨hids id hpersisted, hid, hpersisted⟩)
    · rw [hlist]
      exact Or.inl (List.mem_filter.mpr ⟨hid, decide_eq_true hpersisted⟩)

theorem afterSync_start (store : DraftStore Context Selection)
    (attachments : List PersistedComposerImageAttachment) :
    AfterSync (syncPersistedAttachments store attachments) attachments []
      (syncPersistedAttachments store attachments) where
  inStorage := inStorage_sync store attachments
  lastWaits := Or.inr (by rw [sync_waiting, List.getLast?_concat])
  kept := fun _ => (and_iff_left trivial).symm
  early := fun _ _ => trivial
  settled := fun hwaiting => by
    rw [sync_waiting] at hwaiting
    exact absurd hwaiting (List.append_ne_nil_of_right_ne_nil _ (List.cons_ne_nil _ _))

theorem sync_persistedIds {store : DraftStore Context Selection} {id : Text}
    (h : id ∈ (syncPersistedAttachments store attachments).persistedIds) :
    id ∈ attachments.map PersistedComposerImageAttachment.id := by
  rw [DraftStore.persistedIds, sync_persistedAttachments] at h
  split at h
  · exact h
  · exact absurd h List.not_mem_nil

theorem waiting_step {step : AttachmentStep} (h : attachmentStep store step = some next) :
    next.waiting = store.waiting ∨ ∃ first, store.waiting = first :: next.waiting := by
  cases step with
  | addImages images =>
    cases h
    exact Or.inl (addImages_waiting store images)
  | removeImage imageId =>
    cases h
    exact Or.inl (removeImage_waiting store imageId)
  | verify =>
    obtain ⟨first, rest, hwaiting, rfl⟩ := attachmentStep_verify h
    exact Or.inr ⟨first, by rw [verify_waiting, hwaiting]⟩
  | flush =>
    cases h
    exact Or.inl (flush_waiting store)

theorem early_step {step : AttachmentStep} {id : Text} (hwaiting : store.waiting ≠ []) :
    ¬ AddsLate id store step := by
  cases step with
  | addImages images => exact fun hadds => hwaiting hadds.1
  | removeImage imageId => exact not_false
  | verify => exact not_false
  | flush => exact not_false

theorem AfterSync.settled_step {step : AttachmentStep}
    (h : AfterSync synced attachments steps store)
    (hids : ∀ id ∈ synced.persistedIds, id ∈ attachments.map PersistedComposerImageAttachment.id)
    (hexec : exec attachmentStep synced steps = some store)
    (hstep : attachmentStep store step = some next)
    (hnone : next.waiting = []) : Settled synced attachments (steps ++ [step]) next := by
  cases step with
  | addImages images =>
    cases hstep
    rw [addImages_waiting] at hnone
    exact (h.settled hnone).add hexec hnone images
  | removeImage imageId =>
    cases hstep
    rw [removeImage_waiting] at hnone
    exact (h.settled hnone).remove hexec imageId
  | verify =>
    obtain ⟨first, rest, hwaiting, rfl⟩ := attachmentStep_verify hstep
    rw [verify_waiting] at hnone
    dsimp only at hnone
    rw [hnone] at hwaiting
    have hne : store.waiting ≠ [] := by
      rw [hwaiting]
      exact List.cons_ne_nil _ _
    have hlast := h.lastWaits.resolve_left hne
    rw [hwaiting] at hlast
    cases hlast
    refine settled_verify (inStorage_waiting h.inStorage rest) rfl ?_ ?_
    · exact fun id hid => hids id ((h.kept id).mp hid).1
    · exact fun id => (neverLate_concat hexec hstep).mpr ⟨h.early hne id, not_false⟩
  | flush =>
    cases hstep
    rw [flush_waiting] at hnone
    exact (h.settled hnone).congr (flush_current store)
      (fun id => (neverLate_concat hexec rfl).trans (and_iff_left not_false))

theorem AfterSync.step {step : AttachmentStep} (h : AfterSync synced attachments steps store)
    (hids : ∀ id ∈ synced.persistedIds, id ∈ attachments.map PersistedComposerImageAttachment.id)
    (hexec : exec attachmentStep synced steps = some store)
    (hstep : attachmentStep store step = some next) :
    AfterSync synced attachments (steps ++ [step]) next where
  inStorage := inStorage_step h.inStorage hstep
  lastWaits := by
    rcases waiting_step hstep with hsame | ⟨first, htaken⟩
    · rw [hsame]
      exact h.lastWaits
    · have hlast := h.lastWaits.resolve_left (by rw [htaken]; exact List.cons_ne_nil _ _)
      rw [htaken] at hlast
      cases hrest : next.waiting with
      | nil => exact Or.inl rfl
      | cons second rest =>
        rw [hrest, List.getLast?_cons_cons] at hlast
        exact Or.inr hlast
  kept := fun id => by
    rw [persistedIds_step h.inStorage hstep, h.kept, neverLost_concat hexec hstep, and_assoc]
  early := fun hwaiting id => by
    have hne : store.waiting ≠ [] := by
      rcases waiting_step hstep with hsame | ⟨first, htaken⟩
      · rwa [← hsame]
      · rw [htaken]
        exact List.cons_ne_nil _ _
    exact (neverLate_concat hexec hstep).mpr ⟨h.early hne id, early_step hne⟩
  settled := h.settled_step hids hexec hstep

theorem afterSync_run {start : DraftStore Context Selection}
    (h : exec attachmentStep (syncPersistedAttachments start attachments) steps = some store) :
    AfterSync (syncPersistedAttachments start attachments) attachments steps store :=
  exec_invariant_so_far (afterSync_start start attachments)
    (fun _ _ _ _ hold hexec hstep => hold.step (fun _ hid => sync_persistedIds hid) hexec hstep) h

structure LastSyncWins (attachments : List PersistedComposerImageAttachment)
    (store : DraftStore Context Selection) : Prop where
  persisted : store.persistedAttachments =
    attachments.filter (fun attachment => attachment.id ∈ store.imageIds)
  others : store.nonPersistedImageIds = store.imageIds.filter (fun id => id ∉ store.persistedIds)
  stored : store.storedAttachments = store.persistedAttachments

/-- Every attachment of an image that is in the draft at the end was staged and never lost, and no
such image was added after the last verification. -/
structure KeepsLastSync (start : DraftStore Context Selection)
    (attachments : List PersistedComposerImageAttachment) (steps : List AttachmentStep)
    (imageIds : List Text) : Prop where
  staged : ∀ attachment ∈ attachments, attachment.id ∈ imageIds → start.draft.isSome = true ∧
    NeverLost attachment.id (syncPersistedAttachments start attachments) steps
  inTime : ∀ id ∈ imageIds, NeverLate id (syncPersistedAttachments start attachments) steps

theorem lastSyncWins_iff {start store : DraftStore Context Selection}
    {attachments : List PersistedComposerImageAttachment} {steps : List AttachmentStep}
    (hexec : exec attachmentStep (syncPersistedAttachments start attachments) steps = some store)
    (hverified : store.waiting = []) :
    LastSyncWins attachments store ↔ KeepsLastSync start attachments steps store.imageIds := by
  have hafter := afterSync_run hexec
  have hsettled := hafter.settled hverified
  constructor
  · intro hwins
    refine ⟨fun attachment hmem himage => ?_, fun id himage => ?_⟩
    · have hheld : attachment.id ∈ store.persistedIds := by
        rw [DraftStore.persistedIds, hwins.persisted]
        exact List.mem_map_of_mem (List.mem_filter.mpr ⟨hmem, decide_eq_true himage⟩)
      obtain ⟨hstaged, hnever⟩ := (hafter.kept attachment.id).mp hheld
      refine ⟨?_, hnever⟩
      by_contra hmissing
      rw [DraftStore.persistedIds, sync_persistedAttachments, if_neg hmissing] at hstaged
      exact List.not_mem_nil hstaged
    · refine (hsettled.covered id himage).mp ?_
      by_cases hheld : id ∈ store.persistedIds
      · exact Or.inr hheld
      · rw [hwins.others]
        exact Or.inl (List.mem_filter.mpr ⟨himage, decide_eq_true hheld⟩)
  · intro hkeeps
    refine ⟨?_, ?_, storedAttachments_eq hafter.inStorage⟩
    · rw [hsettled.ofLast]
      refine List.filter_congr (fun attachment hmem => ?_)
      rw [Bool.eq_iff_iff, decide_eq_true_eq, decide_eq_true_eq]
      refine ⟨hsettled.inDraft attachment.id, fun himage => ?_⟩
      obtain ⟨hdraft, hnever⟩ := hkeeps.staged attachment hmem himage
      refine (hafter.kept attachment.id).mpr ⟨?_, hnever⟩
      rw [DraftStore.persistedIds, sync_persistedAttachments, if_pos hdraft]
      exact List.mem_map_of_mem hmem
    · rw [hsettled.listed]
      refine List.filter_congr (fun id himage => ?_)
      rw [Bool.eq_iff_iff, decide_eq_true_eq, decide_eq_true_eq]
      refine ⟨hsettled.apart id, fun hmissing => ?_⟩
      exact ((hsettled.covered id himage).mpr (hkeeps.inTime id himage)).resolve_right hmissing

def imageNamed (name : String) : ComposerImageAttachment :=
  ⟨ascii name, ascii name, ascii "image/png", 4⟩

def attachmentNamed (name : String) : PersistedComposerImageAttachment :=
  ⟨ascii name, ascii name, ascii "image/png", 4, ascii "data:"⟩

def noDraftYet : DraftStore Unit Unit := ⟨none, none, none, []⟩

/-- The draft has two images, and the verification of the first one still waits. -/
def overlapping : DraftStore Unit Unit :=
  addImages (syncPersistedAttachments (addImages noDraftYet [imageNamed "a"])
    [attachmentNamed "a"]) [imageNamed "b"]

/-- The draft has two images, and the verification of both still waits. -/
def bothSynced : DraftStore Unit Unit :=
  syncPersistedAttachments (addImages noDraftYet [imageNamed "a", imageNamed "b"])
    [attachmentNamed "a", attachmentNamed "b"]

instance (id : Text) (store : DraftStore Unit Unit) : ∀ step, Decidable (Loses id store step)
  | .removeImage imageId => inferInstanceAs (Decidable (imageId = id))
  | .verify => inferInstanceAs (Decidable (∀ attachments ∈ store.waiting.head?, _))
  | .addImages _ | .flush => isFalse fun h => h

instance (id : Text) (store : DraftStore Unit Unit) : ∀ step, Decidable (AddsLate id store step)
  | .addImages _ => inferInstanceAs (Decidable (_ ∧ _))
  | .removeImage _ | .verify | .flush => isFalse fun h => h

/-- The second synchronization, which leaves out an image of the first, wins. -/
theorem lastSyncWins_overlapping :
    ∃ store, exec attachmentStep (syncPersistedAttachments bothSynced [attachmentNamed "a"])
        [.verify, .flush, .verify] = some store ∧
      LastSyncWins [attachmentNamed "a"] store ∧ store.persistedIds = [ascii "a"] ∧
      store.nonPersistedImageIds = [ascii "b"] := by
  have hrun : (exec attachmentStep (syncPersistedAttachments bothSynced [attachmentNamed "a"])
      [.verify, .flush, .verify]).map (fun store =>
        (store.waiting, store.imageIds, store.persistedIds, store.nonPersistedImageIds)) =
      some ([], [ascii "a", ascii "b"], [ascii "a"], [ascii "b"]) := by decide +kernel
  obtain ⟨store, hexec, hlists⟩ := Option.map_eq_some_iff.mp hrun
  simp only [Prod.mk.injEq] at hlists
  obtain ⟨hwaiting, himages, hpersisted, hothers⟩ := hlists
  refine ⟨store, hexec, (lastSyncWins_iff hexec hwaiting).mpr ?_, hpersisted, hothers⟩
  rw [himages]
  constructor <;> decide +kernel

theorem not_lastSyncWins :
    ¬ ∀ (start store : DraftStore Unit Unit) attachments steps,
      exec attachmentStep (syncPersistedAttachments start attachments) steps = some store →
        store.waiting = [] → LastSyncWins attachments store := by
  intro hclaim
  have hrun : (exec attachmentStep (syncPersistedAttachments overlapping
      [attachmentNamed "a", attachmentNamed "b"]) [.verify, .verify]).map
        (fun store => (store.waiting, store.persistedIds, store.imageIds)) =
      some ([], [ascii "a"], [ascii "a", ascii "b"]) := by decide +kernel
  obtain ⟨store, hexec, hlists⟩ := Option.map_eq_some_iff.mp hrun
  have hwaiting : store.waiting = [] := congrArg Prod.fst hlists
  have hpersisted : store.persistedIds = [ascii "a"] := congrArg (fun lists => lists.2.1) hlists
  have himages : store.imageIds = [ascii "a", ascii "b"] := congrArg (fun lists => lists.2.2) hlists
  have hwins := (hclaim overlapping store _ _ hexec hwaiting).persisted
  have hboth : store.persistedIds = [ascii "a", ascii "b"] := by
    rw [DraftStore.persistedIds, hwins, himages]
    decide
  rw [hpersisted] at hboth
  exact absurd hboth (by decide)

end GT3Code.Web
