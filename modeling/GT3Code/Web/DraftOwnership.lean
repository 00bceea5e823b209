import GT3Code.Base.Runs
import GT3Code.Web.DraftSessions

/-! # Draft sessions are owned

Each draft session belongs to a logical project or is on its way to a thread of the server. A
session leaves the store when an action names it, or when a logical project gets another draft and
nothing keeps the old one. Names that every object inherits break this.
-/

namespace GT3Code.Web

open GT3Code.Base GT3Code.Base.Json GT3Code.Contracts

inductive DraftAction (C : Type) where
  | setLogicalProjectDraftThreadId (logicalProjectKey : Text) (projectRef : ScopedProjectRef)
      (draftId : Text) (options : DraftThreadOptions) (now : Text)
  | setDraftThreadContext (target : ComposerThreadTarget) (options : DraftContextOptions)
  | markDraftThreadPromoting (target : ComposerThreadTarget) (promotedTo : Option ScopedThreadRef)
  | finalizePromotedDraftThread (target : ComposerThreadTarget)
  | clearDraftThread (target : ComposerThreadTarget)
  | clearProjectDraftThreadId (projectRef : ScopedProjectRef)
  | clearProjectDraftThreadById (projectRef : ScopedProjectRef) (target : ComposerThreadTarget)
  | editDraft (target : ComposerThreadTarget) (edit : Option C → Option C)

section Store

variable {C : Type}

def performDraftAction (store : ComposerDraftStore C) : DraftAction C → ComposerDraftStore C
  | .setLogicalProjectDraftThreadId logicalProjectKey projectRef draftId options now =>
    setLogicalProjectDraftThreadId store logicalProjectKey projectRef draftId options now
  | .setDraftThreadContext target options => setDraftThreadContext store target options
  | .markDraftThreadPromoting target promotedTo => markDraftThreadPromoting store target promotedTo
  | .finalizePromotedDraftThread target => finalizePromotedDraftThread store target
  | .clearDraftThread target => clearDraftThread store target
  | .clearProjectDraftThreadId projectRef => clearProjectDraftThreadId store projectRef
  | .clearProjectDraftThreadById projectRef target =>
    clearProjectDraftThreadById store projectRef target
  | .editDraft target edit => editDraft store target edit

def draftAction (store : ComposerDraftStore C) (action : DraftAction C) :
    Option (ComposerDraftStore C) :=
  some (performDraftAction store action)

def draftSession (store : ComposerDraftStore C) (draftId : Text) : Option DraftThreadState :=
  KeyedMap.get draftId store.draftThreadsByThreadKey

def draftContent (store : ComposerDraftStore C) (draftId : Text) : Option C :=
  KeyedMap.get draftId store.draftsByThreadKey

def projectDraft (store : ComposerDraftStore C) (logicalProjectKey : Text) : Option Text :=
  KeyedMap.get logicalProjectKey store.logicalProjectDraftThreadKeyByLogicalProjectKey

def IsShown (store : ComposerDraftStore C) (draftId : Text) : Prop :=
  ∃ logicalProjectKey, projectDraft store logicalProjectKey = some draftId

def IsPromoting (store : ComposerDraftStore C) (draftId : Text) : Prop :=
  ∃ session, draftSession store draftId = some session ∧ session.promotedTo.isSome

structure NoOrphans (store : ComposerDraftStore C) : Prop where
  shown : ∀ logicalProjectKey draftId, projectDraft store logicalProjectKey = some draftId →
    draftId ≠ [] ∧ (draftSession store draftId).isSome
  owned : ∀ draftId, (draftSession store draftId).isSome →
    IsShown store draftId ∨ IsPromoting store draftId

theorem noOrphans_empty : NoOrphans (emptyDraftStore C) where
  shown := by
    intro logicalProjectKey draftId h
    cases h
  owned := by
    intro draftId h
    cases h

theorem isComposerThreadKeyInUse_iff (mappings : KeyedMap Text Text) (threadKey : Text) :
    isComposerThreadKeyInUse mappings threadKey = true ↔
      ∃ logicalProjectKey, KeyedMap.get logicalProjectKey mappings = some threadKey := by
  rw [isComposerThreadKeyInUse, decide_eq_true_eq, List.mem_map]
  constructor
  · rintro ⟨⟨logicalProjectKey, value⟩, hmem, rfl⟩
    exact ⟨logicalProjectKey, KeyedMap.get_eq_some_iff.mpr hmem⟩
  · rintro ⟨logicalProjectKey, hget⟩
    exact ⟨(logicalProjectKey, threadKey), KeyedMap.get_eq_some_iff.mp hget, rfl⟩

theorem isDraftThreadPromoting_iff (draftThread : Option DraftThreadState) :
    isDraftThreadPromoting draftThread = true ↔
      ∃ session, draftThread = some session ∧ session.promotedTo.isSome := by
  cases draftThread <;> simp [isDraftThreadPromoting]

/-! ## The three ways to write -/

section Remove

variable {store : ComposerDraftStore C} {threadKey : Text}

variable {draftId : Text}

theorem draftSession_remove_of_ne (h : draftId ≠ threadKey) :
    draftSession (withoutDraftThread store threadKey) draftId =
      draftSession store draftId :=
  KeyedMap.get_delete_of_ne h _

theorem draftSession_remove_self :
    draftSession (withoutDraftThread store threadKey) threadKey = none :=
  KeyedMap.get_delete_self _ _

theorem draftContent_remove_of_ne (h : draftId ≠ threadKey) :
    draftContent (withoutDraftThread store threadKey) draftId =
      draftContent store draftId :=
  KeyedMap.get_delete_of_ne h _

theorem projectDraft_remove {logicalProjectKey : Text} :
    projectDraft (withoutDraftThread store threadKey) logicalProjectKey = some draftId ↔
      projectDraft store logicalProjectKey = some draftId ∧ draftId ≠ threadKey := by
  unfold projectDraft withoutDraftThread
  rw [KeyedMap.get_eq_some_iff, KeyedMap.get_eq_some_iff, KeyedTable.rows_restrict,
    List.mem_filter, decide_eq_true_eq]

theorem NoOrphans.remove (h : NoOrphans store) (threadKey : Text) :
    NoOrphans (withoutDraftThread store threadKey) where
  shown := by
    intro logicalProjectKey draftId hshown
    obtain ⟨hold, hne⟩ := projectDraft_remove.mp hshown
    rw [draftSession_remove_of_ne hne]
    exact h.shown logicalProjectKey draftId hold
  owned := by
    intro draftId hsession
    by_cases hkey : draftId = threadKey
    · rw [hkey, draftSession_remove_self] at hsession
      cases hsession
    · rw [draftSession_remove_of_ne hkey] at hsession
      rcases h.owned draftId hsession with ⟨logicalProjectKey, hshown⟩ | ⟨session, hold, hpromoting⟩
      · exact Or.inl ⟨logicalProjectKey, projectDraft_remove.mpr ⟨hshown, hkey⟩⟩
      · exact Or.inr ⟨session, (draftSession_remove_of_ne hkey).trans hold, hpromoting⟩

end Remove

section Put

variable {store : ComposerDraftStore C} {threadKey : Text} {existing next : DraftThreadState}

theorem draftSession_put_of_ne {draftId : Text} (h : draftId ≠ threadKey) :
    draftSession (putDraftThread store threadKey next) draftId = draftSession store draftId :=
  KeyedMap.get_set_of_ne h _ _

theorem draftSession_put_self :
    draftSession (putDraftThread store threadKey next) threadKey = some next :=
  KeyedMap.get_set_self _ _ _

theorem NoOrphans.put (h : NoOrphans store)
    (howned : next.promotedTo.isSome ∨ (draftSession store threadKey = some existing ∧
      (existing.promotedTo.isSome → next.promotedTo.isSome))) :
    NoOrphans (putDraftThread store threadKey next) where
  shown := by
    intro logicalProjectKey draftId hshown
    obtain ⟨hne, hsession⟩ := h.shown logicalProjectKey draftId hshown
    refine ⟨hne, ?_⟩
    by_cases hkey : draftId = threadKey
    · rw [hkey, draftSession_put_self]
      rfl
    · rwa [draftSession_put_of_ne hkey]
  owned := by
    intro draftId hsession
    by_cases hkey : draftId = threadKey
    · subst hkey
      rcases howned with hpromoted | ⟨hexisting, hpromoted⟩
      · exact Or.inr ⟨next, draftSession_put_self, hpromoted⟩
      · rcases h.owned draftId (by rw [hexisting]; rfl) with hshown | ⟨session, hold, hpromoting⟩
        · exact Or.inl hshown
        · rw [hexisting, Option.some.injEq] at hold
          exact Or.inr ⟨next, draftSession_put_self, hpromoted (hold ▸ hpromoting)⟩
    · rw [draftSession_put_of_ne hkey] at hsession
      rcases h.owned draftId hsession with hshown | ⟨session, hold, hpromoting⟩
      · exact Or.inl hshown
      · exact Or.inr ⟨session, (draftSession_put_of_ne hkey).trans hold, hpromoting⟩

end Put

structure DraftSet (store after : ComposerDraftStore C) (logicalProjectKey draftId : Text) : Prop
    where
  draftId_ne_nil : draftId ≠ []
  projects : ∀ other, projectDraft after other =
    if other = logicalProjectKey then some draftId else projectDraft store other
  session : (draftSession after draftId).isSome
  /-- The draft the project had before goes where nothing keeps it. -/
  removed : ∀ previous, projectDraft store logicalProjectKey = some previous → previous ≠ [] →
    previous ≠ draftId → ¬ IsShown after previous → ¬ IsPromoting store previous →
      draftSession after previous = none ∧ draftContent after previous = none
  kept : ∀ other, other ≠ draftId →
    (projectDraft store logicalProjectKey = some other →
      IsShown after other ∨ IsPromoting store other) →
    draftSession after other = draftSession store other ∧
      draftContent after other = draftContent store other

variable {draftId threadKey : Text}

theorem isDraftThreadPromoting_draftThreadAt (draftThreads : KeyedMap Text DraftThreadState)
    (threadKey : Text) :
    isDraftThreadPromoting (draftThreadAt draftThreads threadKey) =
      isDraftThreadPromoting (KeyedMap.get threadKey draftThreads) := by
  unfold draftThreadAt
  cases KeyedMap.get threadKey draftThreads with
  | some session => rfl
  | none =>
    cases inheritedText threadKey with
    | none => rfl
    | some text => rfl

theorem unusedDraft_eq_some_iff {mappings : KeyedMap Text Text}
    {draftThreads : KeyedMap Text DraftThreadState} {logicalProjectKey previous : Text} :
    unusedDraft mappings draftThreads draftId logicalProjectKey (some previous) =
        some threadKey ↔
      previous = threadKey ∧ threadKey ≠ [] ∧ threadKey ≠ draftId ∧
        ¬ isComposerThreadKeyInUse mappings threadKey = true ∧
        ¬ isDraftThreadPromoting (KeyedMap.get threadKey draftThreads) = true := by
  rw [← isDraftThreadPromoting_draftThreadAt]
  simp only [unusedDraft, Option.ite_none_right_eq_some, Option.some.injEq, gt_iff_lt,
    List.length_pos_iff]
  constructor
  · rintro ⟨h, rfl⟩
    exact ⟨rfl, h⟩
  · rintro ⟨rfl, h⟩
    exact ⟨h, rfl⟩

/-- No text of an inherited property stands for the draft that a logical project had, and no
session is made of one. -/
def Plain (store : ComposerDraftStore C) : DraftAction C → Prop
  | .setLogicalProjectDraftThreadId logicalProjectKey _ draftId options _ =>
    draftId ≠ [] → nextDraftThreadId store draftId options ≠ none →
    projectDraft store (logicalProjectDraftKey logicalProjectKey) = none →
    ∀ text ∈ inheritedText (logicalProjectDraftKey logicalProjectKey),
      text ≠ draftId ∧ (isDraftThreadPromoting (draftSession store text) = true ∨
        (draftSession store text = none ∧ draftContent store text = none))
  | .setDraftThreadContext target options =>
    ∀ threadKey ∈ resolveComposerDraftKey store target, (inheritedText threadKey).isSome →
      draftSession store threadKey = none → ∀ projectRef ∈ options.projectRef,
        projectRef.projectId = [] ∨ projectRef.environmentId = []
  | _ => True

def withDraft (store : ComposerDraftStore C) (logicalProjectKey draftId : Text)
    (next : DraftThreadState) : ComposerDraftStore C where
  draftsByThreadKey := store.draftsByThreadKey
  draftThreadsByThreadKey := KeyedMap.set draftId next store.draftThreadsByThreadKey
  logicalProjectDraftThreadKeyByLogicalProjectKey :=
    KeyedMap.set logicalProjectKey draftId store.logicalProjectDraftThreadKeyByLogicalProjectKey

def withoutSession (store : ComposerDraftStore C) (threadKey : Text) : ComposerDraftStore C :=
  { store with
    draftsByThreadKey := KeyedMap.delete threadKey store.draftsByThreadKey
    draftThreadsByThreadKey := KeyedMap.delete threadKey store.draftThreadsByThreadKey }

/-- The key that `setLogicalProjectDraftThreadId` cleans up after it has set a draft. -/
def unusedAfter (store : ComposerDraftStore C) (logicalProjectKey draftId : Text)
    (next : DraftThreadState) : Option Text :=
  unusedDraft (withDraft store logicalProjectKey draftId
      next).logicalProjectDraftThreadKeyByLogicalProjectKey
    (withDraft store logicalProjectKey draftId next).draftThreadsByThreadKey draftId
    logicalProjectKey (projectDraft store logicalProjectKey)

theorem setLogicalProjectDraftThreadId_cases (store : ComposerDraftStore C)
    (logicalProjectKey : Text) (projectRef : ScopedProjectRef) (draftId : Text)
    (options : DraftThreadOptions) (now : Text) :
    (setLogicalProjectDraftThreadId store logicalProjectKey projectRef draftId options now =
        store ∧
      (logicalProjectDraftKey logicalProjectKey = [] ∨ draftId = [] ∨
        nextDraftThreadId store draftId options = none ∨
        projectDraft store (logicalProjectDraftKey logicalProjectKey) = some draftId)) ∨
    (draftId ≠ [] ∧ nextDraftThreadId store draftId options ≠ none ∧
      ∃ next, next.promotedTo = none ∧
        setLogicalProjectDraftThreadId store logicalProjectKey projectRef draftId options now =
          (unusedAfter store (logicalProjectDraftKey logicalProjectKey) draftId next).elim
            (withDraft store (logicalProjectDraftKey logicalProjectKey) draftId next)
            (withoutSession
              (withDraft store (logicalProjectDraftKey logicalProjectKey) draftId next))) := by
  unfold setLogicalProjectDraftThreadId
  generalize logicalProjectDraftKey logicalProjectKey = key
  dsimp only
  split_ifs with hblank
  · refine Or.inl ⟨rfl, ?_⟩
    exact hblank.imp List.length_eq_zero_iff.mp
      (fun h => Or.inl (List.length_eq_zero_iff.mp h))
  split
  · rename_i hnone
    exact Or.inl ⟨rfl, Or.inr (Or.inr (Or.inl hnone))⟩
  rename_i threadId hthread
  split_ifs with hsame
  · exact Or.inl ⟨rfl, Or.inr (Or.inr (Or.inr hsame.1))⟩
  refine Or.inr ⟨fun hnil => hblank (Or.inr (by rw [hnil]; rfl)), by rw [hthread]; simp,
    createDraftThreadState projectRef threadId key
      (draftThreadAt store.draftThreadsByThreadKey draftId) options now, rfl, ?_⟩
  split
  · rename_i hunused
    rw [unusedAfter, withDraft, projectDraft, hunused]
    rfl
  · rename_i threadKey hunused
    rw [unusedAfter, withDraft, projectDraft, hunused]
    rfl

section Set

variable {store : ComposerDraftStore C} {logicalProjectKey : Text} {next : DraftThreadState}

theorem projectDraft_withDraft (next : DraftThreadState) (other : Text) :
    projectDraft (withDraft store logicalProjectKey draftId next) other =
      if other = logicalProjectKey then some draftId else projectDraft store other := by
  split_ifs with hother
  · rw [hother]
    exact KeyedMap.get_set_self _ _ _
  · exact KeyedMap.get_set_of_ne hother _ _

theorem draftSession_withDraft_of_ne {other : Text} (h : other ≠ draftId) :
    draftSession (withDraft store logicalProjectKey draftId next) other =
      draftSession store other :=
  KeyedMap.get_set_of_ne h _ _

theorem draftSession_withDraft_self :
    draftSession (withDraft store logicalProjectKey draftId next) draftId = some next :=
  KeyedMap.get_set_self _ _ _

theorem draftSession_withoutSession_of_ne (store : ComposerDraftStore C) {other : Text}
    (h : other ≠ threadKey) :
    draftSession (withoutSession store threadKey) other = draftSession store other ∧
      draftContent (withoutSession store threadKey) other = draftContent store other :=
  ⟨KeyedMap.get_delete_of_ne h _, KeyedMap.get_delete_of_ne h _⟩

theorem draftSession_withoutSession_self :
    draftSession (withoutSession store threadKey) threadKey = none ∧
      draftContent (withoutSession store threadKey) threadKey = none :=
  ⟨KeyedMap.get_delete_self _ _, KeyedMap.get_delete_self _ _⟩

/-- A previous draft of the project's own is cleaned up where nothing keeps it. -/
theorem unusedAfter_of_previous {previous : Text}
    (hprevious : projectDraft store logicalProjectKey = some previous) :
    unusedAfter store logicalProjectKey draftId next = some threadKey ↔
      previous = threadKey ∧ threadKey ≠ [] ∧ threadKey ≠ draftId ∧
        ¬ IsShown (withDraft store logicalProjectKey draftId next) threadKey ∧
        ¬ IsPromoting store threadKey := by
  rw [unusedAfter, hprevious, unusedDraft_eq_some_iff, isComposerThreadKeyInUse_iff,
    isDraftThreadPromoting_iff]
  refine and_congr_right fun _ => and_congr_right fun _ => and_congr_right fun hne => ?_
  have hsame : KeyedMap.get threadKey
      (withDraft store logicalProjectKey draftId next).draftThreadsByThreadKey =
        draftSession store threadKey := draftSession_withDraft_of_ne hne
  rw [hsame]
  exact Iff.rfl

/-- Without one it is the text of the property inherited under the project's key. -/
theorem unusedAfter_of_inherited {text : Text}
    (hprevious : projectDraft store logicalProjectKey = none) :
    unusedAfter store logicalProjectKey draftId next = some text ↔
      inheritedText logicalProjectKey = some text ∧
        ¬ isDraftThreadPromoting
          (draftSession (withDraft store logicalProjectKey draftId next) text) = true := by
  rw [unusedAfter, hprevious, unusedDraft, Option.filter_eq_some_iff, decide_eq_true_eq,
    isDraftThreadPromoting_draftThreadAt]
  exact Iff.rfl

theorem draftSet_of_previous (hdraft : draftId ≠ []) {previous : Text}
    (hprevious : projectDraft store logicalProjectKey = some previous) :
    DraftSet store ((unusedAfter store logicalProjectKey draftId next).elim
      (withDraft store logicalProjectKey draftId next)
      (withoutSession (withDraft store logicalProjectKey draftId next))) logicalProjectKey
      draftId := by
  cases hunused : unusedAfter store logicalProjectKey draftId next with
  | none =>
    refine ⟨hdraft, projectDraft_withDraft next, ?_, ?_, ?_⟩
    · exact Option.isSome_of_eq_some draftSession_withDraft_self
    · intro other hother hnil hne hshown hpromoting
      have hfound : unusedAfter store logicalProjectKey draftId next = some other :=
        (unusedAfter_of_previous hother).mpr ⟨rfl, hnil, hne, hshown, hpromoting⟩
      cases hunused.symm.trans hfound
    · exact fun other hother _ => ⟨draftSession_withDraft_of_ne hother, rfl⟩
  | some threadKey =>
    obtain ⟨rfl, -, hne, hshown, hpromoting⟩ := (unusedAfter_of_previous hprevious).mp hunused
    refine ⟨hdraft, projectDraft_withDraft next, ?_, ?_, ?_⟩
    · exact Option.isSome_of_eq_some
        ((draftSession_withoutSession_of_ne _ hne.symm).1.trans draftSession_withDraft_self)
    · intro other hother _ _ _ _
      cases hprevious.symm.trans hother
      exact draftSession_withoutSession_self
    · intro other hother hkeeps
      have hdifferent : other ≠ previous := by
        rintro rfl
        exact (hkeeps hprevious).elim hshown hpromoting
      obtain ⟨hsession, hcontent⟩ := draftSession_withoutSession_of_ne
        (withDraft store logicalProjectKey draftId next) hdifferent
      exact ⟨hsession.trans (draftSession_withDraft_of_ne hother), hcontent⟩

theorem draftSet_of_inherited (hdraft : draftId ≠ [])
    (hprevious : projectDraft store logicalProjectKey = none)
    (hplain : ∀ text ∈ inheritedText logicalProjectKey, text ≠ draftId ∧
      (isDraftThreadPromoting (draftSession store text) = true ∨
        (draftSession store text = none ∧ draftContent store text = none))) :
    DraftSet store ((unusedAfter store logicalProjectKey draftId next).elim
      (withDraft store logicalProjectKey draftId next)
      (withoutSession (withDraft store logicalProjectKey draftId next))) logicalProjectKey
      draftId := by
  have hnever : ∀ other, projectDraft store logicalProjectKey ≠ some other := by
    simp [hprevious]
  cases hunused : unusedAfter store logicalProjectKey draftId next with
  | none =>
    refine ⟨hdraft, projectDraft_withDraft next, ?_, ?_, ?_⟩
    · exact Option.isSome_of_eq_some draftSession_withDraft_self
    · exact fun other hother => absurd hother (hnever other)
    · exact fun other hother _ => ⟨draftSession_withDraft_of_ne hother, rfl⟩
  | some text =>
    obtain ⟨htext, hpromoting⟩ := (unusedAfter_of_inherited hprevious).mp hunused
    obtain ⟨hne, hkept⟩ := hplain text htext
    rw [draftSession_withDraft_of_ne hne] at hpromoting
    obtain ⟨hsession, hcontent⟩ := hkept.resolve_left hpromoting
    refine ⟨hdraft, projectDraft_withDraft next, ?_, ?_, ?_⟩
    · exact Option.isSome_of_eq_some
        ((draftSession_withoutSession_of_ne _ hne.symm).1.trans draftSession_withDraft_self)
    · exact fun other hother => absurd hother (hnever other)
    · intro other hother _
      by_cases hsame : other = text
      · subst hsame
        exact ⟨draftSession_withoutSession_self.1.trans hsession.symm,
          draftSession_withoutSession_self.2.trans hcontent.symm⟩
      · obtain ⟨hkeeps, hcontents⟩ := draftSession_withoutSession_of_ne
          (withDraft store logicalProjectKey draftId next) hsame
        exact ⟨hkeeps.trans (draftSession_withDraft_of_ne hother), hcontents⟩

end Set

variable {store : ComposerDraftStore C}

theorem NoOrphans.draftSet {after : ComposerDraftStore C} {logicalProjectKey : Text}
    (h : NoOrphans store) (hset : DraftSet store after logicalProjectKey draftId) :
    NoOrphans after where
  shown := by
    intro other shown hshown
    have hold := hshown
    rw [hset.projects] at hold
    split_ifs at hold with hkey
    · obtain rfl := Option.some.inj hold
      exact ⟨hset.draftId_ne_nil, hset.session⟩
    · obtain ⟨hnil, hsession⟩ := h.shown other shown hold
      refine ⟨hnil, ?_⟩
      by_cases hdraft : shown = draftId
      · rw [hdraft]
        exact hset.session
      · rwa [(hset.kept shown hdraft fun _ => Or.inl ⟨other, hshown⟩).1]
  owned := by
    intro other hsession
    by_cases hdraft : other = draftId
    · refine Or.inl ⟨logicalProjectKey, ?_⟩
      rw [hset.projects, if_pos rfl, hdraft]
    · by_cases hgone : projectDraft store logicalProjectKey = some other ∧
          ¬ IsShown after other ∧ ¬ IsPromoting store other
      · obtain ⟨hprevious, hshown, hpromoting⟩ := hgone
        have hnil := (h.shown logicalProjectKey other hprevious).1
        rw [(hset.removed other hprevious hnil hdraft hshown hpromoting).1] at hsession
        cases hsession
      · have hkeeps : projectDraft store logicalProjectKey = some other →
            IsShown after other ∨ IsPromoting store other := by
          intro hprevious
          by_contra hnone
          exact hgone ⟨hprevious, not_or.mp hnone⟩
        have hsame := (hset.kept other hdraft hkeeps).1
        rw [hsame] at hsession
        have hpromotes : IsPromoting store other → IsPromoting after other :=
          fun ⟨session, hold, hpromoted⟩ => ⟨session, hsame.trans hold, hpromoted⟩
        rcases h.owned other hsession with ⟨shownBy, hshown⟩ | hpromoting
        · by_cases hkey : shownBy = logicalProjectKey
          · exact (hkeeps (hkey ▸ hshown)).imp_right hpromotes
          · refine Or.inl ⟨shownBy, ?_⟩
            rw [hset.projects, if_neg hkey]
            exact hshown
        · exact Or.inr (hpromotes hpromoting)

/-- The drafts a target stands for: the session of that id, or one for the thread. -/
def Targets (store : ComposerDraftStore C) : ComposerThreadTarget → Text → Prop
  | .draft draftId, threadKey => threadKey = trimText draftId
  | .thread ref, threadKey =>
    threadKey = scopedThreadKey ref ∨
      ∃ session, draftSession store threadKey = some session ∧
        session.environmentId = some ref.environmentId ∧ session.threadId = some ref.threadId

theorem targets_of_resolve {target : ComposerThreadTarget}
    (h : resolveComposerDraftKey store target = some threadKey) :
    Targets store target threadKey := by
  unfold resolveComposerDraftKey at h
  cases target with
  | draft draftId =>
    have hidempotent : trimText (trimText draftId) = trimText draftId := trimWhere_trimWhere _ _
    by_cases hlength : (trimText draftId).length > 0
    · simp only [normalizeComposerTarget, hlength, if_true, composerTargetKey,
        hidempotent, Option.some.injEq] at h
      exact h.symm
    · simp [normalizeComposerTarget, hlength] at h
  | thread ref =>
    simp only [normalizeComposerTarget] at h
    split_ifs at h
    · exact Or.inl (Option.some.inj h).symm
    · rw [Option.some.injEq] at h
      cases hfind : store.draftThreadsByThreadKey.rows.find? (fun entry =>
          entry.2.environmentId = some ref.environmentId ∧
            entry.2.threadId = some ref.threadId) with
      | none =>
        rw [hfind] at h
        exact Or.inl h.symm
      | some entry =>
        rw [hfind] at h
        have hthread := of_decide_eq_true (List.find?_eq_some_iff_append.mp hfind).1
        have hsession := KeyedMap.get_eq_some_iff.mpr (List.mem_of_find?_eq_some hfind)
        exact Or.inr ⟨entry.2, h ▸ hsession, hthread⟩

def Names (store : ComposerDraftStore C) : DraftAction C → Text → Prop
  | .setLogicalProjectDraftThreadId _ _ draftId _ _, threadKey => threadKey = draftId
  | .clearProjectDraftThreadId projectRef, threadKey =>
    ∃ session, draftSession store threadKey = some session ∧
      session.projectId = some projectRef.projectId ∧
        session.environmentId = some projectRef.environmentId
  | .setDraftThreadContext target _, threadKey => Targets store target threadKey
  | .markDraftThreadPromoting target _, threadKey => Targets store target threadKey
  | .finalizePromotedDraftThread target, threadKey => Targets store target threadKey
  | .clearDraftThread target, threadKey => Targets store target threadKey
  | .clearProjectDraftThreadById _ target, threadKey => Targets store target threadKey
  | .editDraft target _, threadKey => Targets store target threadKey

/-- A logical project that had the draft has another one after the step. -/
def Replaces (store after : ComposerDraftStore C) (previous : Text) : Prop :=
  ∃ logicalProjectKey next, projectDraft store logicalProjectKey = some previous ∧
    projectDraft after logicalProjectKey = some next ∧ next ≠ previous

inductive DraftStep (store : ComposerDraftStore C) (action : DraftAction C) :
    ComposerDraftStore C → Prop where
  | unchanged : DraftStep store action store
  | set {after : ComposerDraftStore C} {logicalProjectKey draftId : Text}
      (hset : DraftSet store after logicalProjectKey draftId) (hnamed : Names store action draftId) :
      DraftStep store action after
  | removed {threadKey : Text} (hnamed : Names store action threadKey) :
      DraftStep store action (withoutDraftThread store threadKey)
  | put {threadKey : Text} {existing next : DraftThreadState}
      (howned : next.promotedTo.isSome ∨ (draftSession store threadKey = some existing ∧
        (existing.promotedTo.isSome → next.promotedTo.isSome)))
      (hnamed : Names store action threadKey) :
      DraftStep store action (putDraftThread store threadKey next)
  | edited {threadKey : Text} {drafts : KeyedMap Text C}
      (hothers : ∀ other, other ≠ threadKey → KeyedMap.get other drafts = draftContent store other)
      (hnamed : Names store action threadKey) :
      DraftStep store action { store with draftsByThreadKey := drafts }

theorem DraftStep.remove (store : ComposerDraftStore C) {action : DraftAction C}
    {threadKey : Text} (hnamed : Names store action threadKey) :
    DraftStep store action (removeDraftThreadReferences store threadKey) := by
  unfold removeDraftThreadReferences
  split_ifs
  · exact .unchanged
  · exact .removed hnamed

theorem draftThreadAt_cases (draftThreads : KeyedMap Text DraftThreadState) (threadKey : Text) :
    draftThreadAt draftThreads threadKey = KeyedMap.get threadKey draftThreads ∨
      (KeyedMap.get threadKey draftThreads = none ∧ (inheritedText threadKey).isSome ∧
        draftThreadAt draftThreads threadKey = some inheritedDraftThread) := by
  unfold draftThreadAt
  cases hsession : KeyedMap.get threadKey draftThreads with
  | some session => exact Or.inl rfl
  | none =>
    cases inheritedText threadKey with
    | none => exact Or.inl rfl
    | some text => exact Or.inr ⟨rfl, rfl, rfl⟩

/-- A context set on an inherited property makes a session of it where a project is given. -/
theorem setDraftThreadContext_inherited {target : ComposerThreadTarget}
    (options : DraftContextOptions) {threadKey : Text}
    (hkey : resolveComposerDraftKey store target = some threadKey)
    (hat : draftThreadAt store.draftThreadsByThreadKey threadKey = some inheritedDraftThread) :
    (setDraftThreadContext store target options = store ∧
      ∀ projectRef ∈ options.projectRef,
        projectRef.projectId = [] ∨ projectRef.environmentId = []) ∨
    ∃ next, next.promotedTo = none ∧
      setDraftThreadContext store target options = putDraftThread store threadKey next := by
  simp only [setDraftThreadContext, hkey, hat]
  cases hproject : options.projectRef with
  | none => exact Or.inl ⟨rfl, by simp⟩
  | some projectRef =>
    simp only [Option.some_or]
    split_ifs with hblank hsame
    · refine Or.inl ⟨rfl, ?_⟩
      intro other hother
      cases hother
      exact hblank.imp List.length_eq_zero_iff.mp List.length_eq_zero_iff.mp
    · cases congrArg DraftThreadState.environmentId hsame
    · exact Or.inr ⟨_, rfl, rfl⟩

theorem draftStep_setLogicalProject (logicalProjectKey : Text) (projectRef : ScopedProjectRef)
    (draftId : Text) (options : DraftThreadOptions) (now : Text)
    (hplain : Plain store (C := C)
      (.setLogicalProjectDraftThreadId logicalProjectKey projectRef draftId options now)) :
    DraftStep store (.setLogicalProjectDraftThreadId logicalProjectKey projectRef draftId options now)
      (setLogicalProjectDraftThreadId store logicalProjectKey projectRef draftId options now) := by
  rcases setLogicalProjectDraftThreadId_cases store logicalProjectKey projectRef draftId options
    now with ⟨hsame, -⟩ | ⟨hne, hthread, next, -, hset⟩
  · rw [hsame]
    exact .unchanged
  · rw [hset]
    cases hprevious : projectDraft store (logicalProjectDraftKey logicalProjectKey) with
    | none => exact .set (draftSet_of_inherited hne hprevious (hplain hne hthread hprevious)) rfl
    | some previous => exact .set (draftSet_of_previous hne hprevious) rfl

theorem draftStep_setContext (target : ComposerThreadTarget) (options : DraftContextOptions)
    (hplain : Plain store (C := C) (.setDraftThreadContext target options)) :
    DraftStep store (.setDraftThreadContext target options)
      (setDraftThreadContext store target options) := by
  cases hkey : resolveComposerDraftKey store target with
  | none =>
    simp only [setDraftThreadContext, hkey]
    exact .unchanged
  | some threadKey =>
    rcases draftThreadAt_cases store.draftThreadsByThreadKey threadKey with
      hown | ⟨hnone, hinherited, hat⟩
    · simp only [setDraftThreadContext, hkey, hown]
      split
      · exact .unchanged
      · rename_i existing hexisting
        split
        · exact .unchanged
        · split_ifs
          · exact .unchanged
          · exact .unchanged
          · exact .put (Or.inr ⟨hexisting, id⟩) (targets_of_resolve hkey)
    · -- A plain action gives a property every object inherits no project.
      have hblank := hplain threadKey hkey hinherited hnone
      simp only [setDraftThreadContext, hkey, hat]
      cases hproject : options.projectRef with
      | none => exact .unchanged
      | some projectRef =>
        simp only [Option.some_or]
        rw [if_pos ((hblank projectRef hproject).imp List.length_eq_zero_iff.mpr
          List.length_eq_zero_iff.mpr)]
        exact .unchanged

theorem draftStep_perform (action : DraftAction C) (hplain : Plain store action) :
    DraftStep store action (performDraftAction store action) := by
  cases action with
  | setLogicalProjectDraftThreadId logicalProjectKey projectRef draftId options now =>
    exact draftStep_setLogicalProject logicalProjectKey projectRef draftId options now hplain
  | setDraftThreadContext target options => exact draftStep_setContext target options hplain
  | markDraftThreadPromoting target promotedTo =>
    simp only [performDraftAction, markDraftThreadPromoting]
    split
    · exact .unchanged
    · rename_i threadKey hkey
      split
      · exact .unchanged
      · rename_i existing hexisting
        split_ifs
        · exact .unchanged
        · exact @DraftStep.put _ _ _ _ existing _ (Or.inl rfl) (targets_of_resolve hkey)
  | finalizePromotedDraftThread target =>
    simp only [performDraftAction, finalizePromotedDraftThread]
    split
    · exact .unchanged
    · rename_i threadKey hkey
      split_ifs
      · exact .remove store (targets_of_resolve hkey)
      · exact .unchanged
  | clearDraftThread target =>
    simp only [performDraftAction, clearDraftThread]
    split
    · exact .unchanged
    · rename_i threadKey hkey
      split_ifs
      · exact .remove store (targets_of_resolve hkey)
      · exact .unchanged
  | clearProjectDraftThreadId projectRef =>
    simp only [performDraftAction, clearProjectDraftThreadId]
    split
    · exact .unchanged
    · rename_i entry hfind
      have hproject := (List.find?_eq_some_iff_append.mp hfind).1
      exact .remove store ⟨entry.2,
        KeyedMap.get_eq_some_iff.mpr (List.mem_of_find?_eq_some hfind),
        of_decide_eq_true hproject⟩
  | clearProjectDraftThreadById projectRef target =>
    simp only [performDraftAction, clearProjectDraftThreadById]
    split
    · exact .unchanged
    · rename_i threadKey hkey
      split
      · exact .unchanged
      · split_ifs
        · exact .remove store (targets_of_resolve hkey)
        · exact .unchanged
  | editDraft target edit =>
    simp only [performDraftAction, editDraft]
    split
    · exact .unchanged
    · rename_i threadKey hkey
      refine .edited (fun other hother => ?_) (targets_of_resolve hkey)
      split
      · exact KeyedMap.get_delete_of_ne hother _
      · exact KeyedMap.get_set_of_ne hother _ _

section Step

variable {store after : ComposerDraftStore C} {action : DraftAction C}

theorem NoOrphans.step (h : NoOrphans store) (hstep : DraftStep store action after) :
    NoOrphans after := by
  cases hstep with
  | unchanged => exact h
  | set hset => exact h.draftSet hset
  | removed => exact h.remove _
  | put howned => exact h.put howned
  | edited => exact ⟨h.shown, h.owned⟩

theorem DraftStep.others (hstep : DraftStep store action after) {other : Text}
    (hnamed : ¬ Names store action other) (hreplaced : ¬ Replaces store after other) :
    draftSession after other = draftSession store other ∧
      draftContent after other = draftContent store other := by
  cases hstep with
  | unchanged => exact ⟨rfl, rfl⟩
  | @set _ logicalProjectKey draftId hset hdraft =>
    have hne : other ≠ draftId := fun heq => hnamed (heq ▸ hdraft)
    refine hset.kept other hne fun hprevious => ?_
    refine absurd ⟨logicalProjectKey, draftId, hprevious, ?_, hne.symm⟩ hreplaced
    rw [hset.projects, if_pos rfl]
  | removed hkey =>
    have hne : other ≠ _ := fun heq => hnamed (heq ▸ hkey)
    exact ⟨draftSession_remove_of_ne hne, draftContent_remove_of_ne hne⟩
  | put _ hkey => exact ⟨draftSession_put_of_ne fun heq => hnamed (heq ▸ hkey), rfl⟩
  | edited hothers hkey => exact ⟨rfl, hothers other fun heq => hnamed (heq ▸ hkey)⟩

/-- A replaced draft is gone, session and content, exactly when nothing keeps it. -/
structure ReplacedDraft (store after : ComposerDraftStore C) (previous : Text) : Prop where
  gone_iff : draftSession after previous = none ↔
    ¬ IsShown after previous ∧ ¬ IsPromoting store previous
  content : draftSession after previous = none → draftContent after previous = none
  kept : draftSession after previous ≠ none →
    draftSession after previous = draftSession store previous ∧
      draftContent after previous = draftContent store previous

variable {previous : Text}

theorem DraftSet.replacedDraft {logicalProjectKey draftId : Text} (h : NoOrphans store)
    (hset : DraftSet store after logicalProjectKey draftId)
    (hprevious : projectDraft store logicalProjectKey = some previous) (hne : previous ≠ draftId) :
    ReplacedDraft store after previous := by
  obtain ⟨hnil, hsession⟩ := h.shown logicalProjectKey previous hprevious
  by_cases hunused : ¬ IsShown after previous ∧ ¬ IsPromoting store previous
  · obtain ⟨hgone, hcontent⟩ := hset.removed previous hprevious hnil hne hunused.1 hunused.2
    exact ⟨iff_of_true hgone hunused, fun _ => hcontent, fun hsome => absurd hgone hsome⟩
  · have hkeeps : IsShown after previous ∨ IsPromoting store previous := by
      by_contra hnone
      exact hunused (not_or.mp hnone)
    have hkept := hset.kept previous hne fun _ => hkeeps
    have hsome : draftSession after previous ≠ none := by
      rw [hkept.1]
      exact Option.isSome_iff_ne_none.mp hsession
    exact ⟨iff_of_false hsome hunused, fun hgone => absurd hgone hsome, fun _ => hkept⟩

theorem DraftStep.replaced (h : NoOrphans store) (hstep : DraftStep store action after)
    (hreplaces : Replaces store after previous) : ReplacedDraft store after previous := by
  obtain ⟨logicalProjectKey, next, hprevious, hnext, hne⟩ := hreplaces
  cases hstep with
  | unchanged | put | edited => exact absurd (Option.some.inj (hnext.symm.trans hprevious)) hne
  | removed =>
    have hold := (projectDraft_remove.mp hnext).1
    exact absurd (Option.some.inj (hold.symm.trans hprevious)) hne
  | set hset =>
    rw [hset.projects] at hnext
    split_ifs at hnext with hkey
    · obtain rfl := Option.some.inj hnext
      exact hset.replacedDraft h (hkey ▸ hprevious) hne.symm
    · exact absurd (Option.some.inj (hnext.symm.trans hprevious)) hne

end Step

/-- What the next action does to the drafts: the one set is shown, a replaced one goes where
nothing keeps it, and the others stay. -/
structure DraftsKept (store : ComposerDraftStore C) (action : DraftAction C) : Prop where
  mapped : ∀ logicalProjectKey projectRef draftId options now,
    action = .setLogicalProjectDraftThreadId logicalProjectKey projectRef draftId options now →
    logicalProjectDraftKey logicalProjectKey ≠ [] → makeThreadId draftId ≠ none →
    projectDraft (performDraftAction store action) (logicalProjectDraftKey logicalProjectKey) =
      some draftId
  replaced : ∀ previous, Replaces store (performDraftAction store action) previous →
    ReplacedDraft store (performDraftAction store action) previous
  others : ∀ other, ¬ Names store action other →
    ¬ Replaces store (performDraftAction store action) other →
      draftSession (performDraftAction store action) other = draftSession store other ∧
        draftContent (performDraftAction store action) other = draftContent store other

theorem draftsKept_of_plain (h : NoOrphans store) {action : DraftAction C}
    (hplain : Plain store action) : DraftsKept store action where
  mapped := by
    rintro logicalProjectKey projectRef draftId options now rfl hkey hthread
    have hdraft : draftId ≠ [] := by
      rintro rfl
      exact hthread (by simp [makeThreadId])
    have hnext : nextDraftThreadId store draftId options ≠ none := by
      simp [nextDraftThreadId, hthread]
    rcases setLogicalProjectDraftThreadId_cases store logicalProjectKey projectRef draftId options
      now with ⟨hsame, hreason⟩ | ⟨-, -, next, -, hset⟩
    · simp only [performDraftAction, hsame]
      simpa [hkey, hdraft, hnext] using hreason
    · simp only [performDraftAction, hset]
      cases unusedAfter store (logicalProjectDraftKey logicalProjectKey) draftId next with
      | none | some => exact (projectDraft_withDraft next _).trans (if_pos rfl)
  replaced _ hreplaces := (draftStep_perform action hplain).replaced h hreplaces
  others _ hnamed hreplaced := (draftStep_perform action hplain).others hnamed hreplaced

theorem inheritedText_nil : inheritedText [] = none := by
  decide +kernel

theorem plain_of_kept (h : NoOrphans store) {action : DraftAction C}
    (hafter : NoOrphans (performDraftAction store action)) (hkept : DraftsKept store action) :
    Plain store action := by
  cases action with
  | setLogicalProjectDraftThreadId logicalProjectKey projectRef draftId options now =>
    intro hdraft hthread hprevious text htext
    have hothers := hkept.others text
    rcases setLogicalProjectDraftThreadId_cases store logicalProjectKey projectRef draftId options
      now with ⟨-, hreason⟩ | ⟨-, -, next, hnext, hset⟩
    · have hkey : logicalProjectDraftKey logicalProjectKey ≠ [] := by
        intro hnil
        rw [hnil, inheritedText_nil] at htext
        cases htext
      simp [hkey, hdraft, hthread, hprevious] at hreason
    · simp only [performDraftAction, hset] at hafter hothers
      by_cases hpromoting : isDraftThreadPromoting (draftSession (withDraft store
          (logicalProjectDraftKey logicalProjectKey) draftId next) text) = true
      · have hne : text ≠ draftId := by
          rintro rfl
          rw [draftSession_withDraft_self] at hpromoting
          simp [isDraftThreadPromoting, hnext] at hpromoting
        rw [draftSession_withDraft_of_ne hne] at hpromoting
        exact ⟨hne, Or.inl hpromoting⟩
      · have hunused : unusedAfter store (logicalProjectDraftKey logicalProjectKey) draftId next =
            some text := (unusedAfter_of_inherited hprevious).mpr ⟨htext, hpromoting⟩
        rw [hunused] at hafter hothers
        have hne : text ≠ draftId := by
          rintro rfl
          have hshown := hafter.shown (logicalProjectDraftKey logicalProjectKey) text
            ((projectDraft_withDraft next _).trans (if_pos rfl))
          rw [Option.elim_some, draftSession_withoutSession_self.1] at hshown
          cases hshown.2
        have hsame := hothers hne ?_
        · rw [Option.elim_some, draftSession_withoutSession_self.1,
            draftSession_withoutSession_self.2] at hsame
          exact ⟨hne, Or.inr ⟨hsame.1.symm, hsame.2.symm⟩⟩
        · rintro ⟨other, shown, hold, hnew, hdifferent⟩
          have hprojects : projectDraft store other = some shown := by
            refine ((projectDraft_withDraft next other).trans (if_neg ?_)).symm.trans hnew
            rintro rfl
            cases hprevious.symm.trans hold
          exact hdifferent (Option.some.inj (hprojects.symm.trans hold))
  | setDraftThreadContext target options =>
    intro threadKey hkey hinherited hnone
    rcases draftThreadAt_cases store.draftThreadsByThreadKey threadKey with
      hown | ⟨-, -, hat⟩
    · have hsome : (draftThreadAt store.draftThreadsByThreadKey threadKey).isSome := by
        simp [draftThreadAt, hinherited]
      rw [hown] at hsome
      rw [show KeyedMap.get threadKey store.draftThreadsByThreadKey = none from hnone] at hsome
      cases hsome
    · rcases setDraftThreadContext_inherited options hkey hat with
        ⟨-, hblank⟩ | ⟨next, hnext, hput⟩
      · exact hblank
      · simp only [performDraftAction, hput] at hafter
        have howned := hafter.owned threadKey (by rw [draftSession_put_self]; rfl)
        rcases howned with ⟨logicalProjectKey, hshown⟩ | ⟨session, hsession, hpromoting⟩
        · have hsession := (h.shown logicalProjectKey threadKey hshown).2
          rw [hnone] at hsession
          cases hsession
        · rw [draftSession_put_self] at hsession
          cases hsession
          rw [hnext] at hpromoting
          cases hpromoting
  | markDraftThreadPromoting | finalizePromotedDraftThread | clearDraftThread
  | clearProjectDraftThreadId | clearProjectDraftThreadById | editDraft => trivial

theorem draftsOwned_from_iff (h : NoOrphans store) (actions : List (DraftAction C)) :
    (Throughout draftAction NoOrphans store actions ∧
      StepsMeet draftAction DraftsKept store actions) ↔
      StepsMeet draftAction Plain store actions := by
  induction actions generalizing store with
  | nil => exact iff_of_true ⟨h, trivial⟩ trivial
  | cons action rest ih =>
    rw [stepsMeet_cons (t := performDraftAction store action) rfl,
      stepsMeet_cons (t := performDraftAction store action) rfl]
    constructor
    · rintro ⟨⟨-, hrun⟩, hkept, hmore⟩
      have hrest := hrun (performDraftAction store action) rfl
      exact ⟨plain_of_kept h hrest.start hkept, (ih hrest.start).mp ⟨hrest, hmore⟩⟩
    · rintro ⟨hplain, hmore⟩
      have hafter := h.step (draftStep_perform action hplain)
      obtain ⟨hrest, hkept⟩ := (ih hafter).mpr hmore
      refine ⟨⟨h, ?_⟩, draftsKept_of_plain h hplain, hkept⟩
      intro next hnext
      cases hnext
      exact hrest

/-- From the empty store drafts are never orphaned, replaced ones go exactly where nothing keeps
them and the others stay, if and only if no inherited property stands for a draft. -/
theorem draftsOwned_iff (actions : List (DraftAction C)) :
    (Throughout draftAction NoOrphans (emptyDraftStore C) actions ∧
      StepsMeet draftAction DraftsKept (emptyDraftStore C) actions) ↔
      StepsMeet draftAction Plain (emptyDraftStore C) actions :=
  draftsOwned_from_iff noOrphans_empty actions

instance (store : ComposerDraftStore C) : ∀ action, Decidable (Plain store action)
  | .setLogicalProjectDraftThreadId logicalProjectKey _ draftId options _ =>
    inferInstanceAs (Decidable (draftId ≠ [] → nextDraftThreadId store draftId options ≠ none →
      projectDraft store (logicalProjectDraftKey logicalProjectKey) = none →
      ∀ text ∈ inheritedText (logicalProjectDraftKey logicalProjectKey),
        text ≠ draftId ∧ (isDraftThreadPromoting (draftSession store text) = true ∨
          (draftSession store text = none ∧ draftContent store text = none))))
  | .setDraftThreadContext target options =>
    inferInstanceAs (Decidable (∀ threadKey ∈ resolveComposerDraftKey store target,
      (inheritedText threadKey).isSome → draftSession store threadKey = none →
      ∀ projectRef ∈ options.projectRef,
        projectRef.projectId = [] ∨ projectRef.environmentId = []))
  | .markDraftThreadPromoting _ _ | .finalizePromotedDraftThread _ | .clearDraftThread _
  | .clearProjectDraftThreadId _ | .clearProjectDraftThreadById _ _ | .editDraft _ _ =>
    isTrue trivial

end Store

def exampleProject : ScopedProjectRef := ⟨ascii "env", ascii "project"⟩

/-- Sets the draft of a logical project. -/
def showDraft (logicalProjectKey draftId : String) : DraftAction Unit :=
  .setLogicalProjectDraftThreadId (ascii logicalProjectKey) exampleProject (ascii draftId)
    ⟨none, none, none, none, none, none, none⟩ (ascii "now")

/-- Two logical projects share a draft, and one after the other gets another one. -/
def sharedDraftRun : List (DraftAction Unit) :=
  [showDraft "a" "d1", showDraft "b" "d1", .editDraft (.draft (ascii "d1")) (fun _ => some ()),
    showDraft "a" "d2"]

theorem draftsOwned_sharedDraftRun :
    (Throughout draftAction NoOrphans (emptyDraftStore Unit) (sharedDraftRun ++
        [showDraft "b" "d2"]) ∧
      StepsMeet draftAction DraftsKept (emptyDraftStore Unit) (sharedDraftRun ++
        [showDraft "b" "d2"])) ∧
    (exec draftAction (emptyDraftStore Unit) sharedDraftRun).map (fun store =>
      ((draftSession store (ascii "d1")).isSome, draftContent store (ascii "d1"),
        (draftSession store (ascii "d2")).isSome)) = some (true, some (), true) ∧
    (exec draftAction (emptyDraftStore Unit) (sharedDraftRun ++ [showDraft "b" "d2"])).map
      (fun store => ((draftSession store (ascii "d1")).isSome, draftContent store (ascii "d1"),
        projectDraft store (ascii "b"))) = some (false, none, some (ascii "d2")) := by
  refine ⟨(draftsOwned_iff _).mpr ?_, ?_, ?_⟩
  · decide +kernel
  · decide +kernel
  · decide +kernel

/-- The context of a draft whose id is a name every object inherits. -/
def inheritedContextRun : List (DraftAction Unit) :=
  [.setDraftThreadContext (.draft (ascii "constructor"))
    ⟨none, none, some exampleProject, none, none, none, none⟩]

/-- A session is stored that no logical project shows and that is on its way to no thread. -/
theorem inherited_session_orphaned :
    ¬Throughout draftAction NoOrphans (emptyDraftStore Unit) inheritedContextRun := by
  intro h
  have hobserved : (exec draftAction (emptyDraftStore Unit) inheritedContextRun).map (fun store =>
      ((draftSession store (ascii "constructor")).map DraftThreadState.promotedTo,
        store.logicalProjectDraftThreadKeyByLogicalProjectKey.rows)) = some (some none, []) := by
    decide +kernel
  obtain ⟨final, hexec, hfinal⟩ := Option.map_eq_some_iff.mp hobserved
  simp only [Prod.mk.injEq] at hfinal
  obtain ⟨session, hsession, hpromoted⟩ := Option.map_eq_some_iff.mp hfinal.1
  rcases (h.final hexec).owned (ascii "constructor") (by rw [hsession]; rfl) with
    ⟨logicalProjectKey, hshown⟩ | ⟨other, hother, hpromoting⟩
  · have hmem := KeyedMap.get_eq_some_iff.mp hshown
    rw [hfinal.2] at hmem
    cases hmem
  · cases hsession.symm.trans hother
    rw [hpromoted] at hpromoting
    cases hpromoting

end GT3Code.Web
