import GT3Code.Base.Runs
import GT3Code.Orchestration.ProjectionSnapshotQuery
import GT3Code.Orchestration.TurnRows
import GT3Code.Web.Store

/-! # Checkpoint lists of one thread

A thread's checkpoints are kept three times: in the read model, in the turn rows and
in the web store. The read model and the web store run one rule on lists; the turn
rows run another, on a table. They agree as long as no checkpoint arrives that the
two rules treat differently.
-/

namespace GT3Code.Web

open GT3Code.Base GT3Code.Contracts GT3Code.Persistence GT3Code.Orchestration

structure CheckpointEntry where
  turnId : TurnId
  checkpointTurnCount : Option Nat
  checkpointRef : Option CheckpointRef
  status : Option OrchestrationCheckpointStatus
  deriving DecidableEq

def entryOfCheckpoint (checkpoint : OrchestrationCheckpointSummary) : CheckpointEntry where
  turnId := checkpoint.turnId
  checkpointTurnCount := some checkpoint.checkpointTurnCount
  checkpointRef := some checkpoint.checkpointRef
  status := some checkpoint.status

def entryOfSummary (summary : TurnDiffSummary) : CheckpointEntry where
  turnId := summary.turnId
  checkpointTurnCount := summary.checkpointTurnCount
  checkpointRef := summary.checkpointRef
  status := summary.status

def entryOfPayload (payload : ThreadTurnDiffCompletedPayload) : CheckpointEntry :=
  entryOfCheckpoint (checkpointFromPayload payload)

namespace CheckpointEntry

/-- The list holds a captured checkpoint of the turn `entry` is a placeholder of. -/
def ignored (entries : List CheckpointEntry) (entry : CheckpointEntry) : Bool :=
  match entries.find? (fun existing => existing.turnId = entry.turnId) with
  | none => false
  | some existing => decide (existing.status ≠ some .missing) && decide (entry.status = some .missing)

def sorted (entries : List CheckpointEntry) : List CheckpointEntry :=
  sliceLast MAX_THREAD_CHECKPOINTS
    (toSorted (byKey (fun entry => turnCountKey entry.checkpointTurnCount)) entries)

def upsert (entry : CheckpointEntry) (entries : List CheckpointEntry) : List CheckpointEntry :=
  if ignored entries entry then entries
  else sorted (entries.filter (fun existing => existing.turnId ≠ entry.turnId) ++ [entry])

/-- The turn count of `entry` is one a revert to `turnCount` keeps. -/
def upTo (turnCount : Nat) (entry : CheckpointEntry) : Bool :=
  entry.checkpointTurnCount.any (fun count => decide (count ≤ turnCount))

def retain (turnCount : Nat) (entries : List CheckpointEntry) : List CheckpointEntry :=
  sorted (entries.filter (upTo turnCount))

end CheckpointEntry

open CheckpointEntry (ignored upTo)

theorem placeholderIgnored_eq (checkpoints : List OrchestrationCheckpointSummary)
    (checkpoint : OrchestrationCheckpointSummary) :
    placeholderIgnored checkpoints checkpoint =
      ignored (checkpoints.map entryOfCheckpoint) (entryOfCheckpoint checkpoint) := by
  unfold placeholderIgnored ignored
  rw [List.find?_map]
  have hpred : ((fun existing : CheckpointEntry =>
      decide (existing.turnId = (entryOfCheckpoint checkpoint).turnId)) ∘ entryOfCheckpoint) =
      fun entry => decide (entry.turnId = checkpoint.turnId) := rfl
  rw [hpred]
  cases checkpoints.find? (fun entry => entry.turnId = checkpoint.turnId) with
  | none => rfl
  | some existing => simp [entryOfCheckpoint]

theorem keepsExisting_eq (summaries : List TurnDiffSummary) (summary : TurnDiffSummary) :
    keepsExisting summaries summary =
      ignored (summaries.map entryOfSummary) (entryOfSummary summary) := by
  unfold keepsExisting ignored
  rw [List.find?_map]
  have hpred : ((fun existing : CheckpointEntry =>
      decide (existing.turnId = (entryOfSummary summary).turnId)) ∘ entryOfSummary) =
      fun entry => decide (entry.turnId = summary.turnId) := rfl
  rw [hpred]
  cases summaries.find? (fun entry => entry.turnId = summary.turnId) with
  | none => rfl
  | some existing => rfl

theorem map_sortCheckpoints (checkpoints : List OrchestrationCheckpointSummary) :
    (sortCheckpoints checkpoints).map entryOfCheckpoint =
      CheckpointEntry.sorted (checkpoints.map entryOfCheckpoint) := by
  have hkey : ∀ a b, byKey OrchestrationCheckpointSummary.checkpointTurnCount a b =
      byKey (fun entry => turnCountKey entry.checkpointTurnCount) (entryOfCheckpoint a)
        (entryOfCheckpoint b) := fun _ _ => rfl
  unfold sortCheckpoints CheckpointEntry.sorted
  rw [map_sliceLast, map_toSorted hkey]
  rfl

theorem map_sortTurnDiffSummaries (summaries : List TurnDiffSummary) :
    (sortTurnDiffSummaries summaries).map entryOfSummary =
      CheckpointEntry.sorted (summaries.map entryOfSummary) := by
  have hkey : ∀ a b, byKey (fun summary => turnCountKey summary.checkpointTurnCount) a b =
      byKey (fun entry => turnCountKey entry.checkpointTurnCount) (entryOfSummary a)
        (entryOfSummary b) := fun _ _ => rfl
  unfold sortTurnDiffSummaries CheckpointEntry.sorted
  rw [map_sliceLast, map_toSorted hkey]

theorem map_upsertCheckpoint (checkpoint : OrchestrationCheckpointSummary)
    (checkpoints : List OrchestrationCheckpointSummary) :
    (if placeholderIgnored checkpoints checkpoint then checkpoints
      else upsertCheckpoint checkpoint checkpoints).map entryOfCheckpoint =
      CheckpointEntry.upsert (entryOfCheckpoint checkpoint)
        (checkpoints.map entryOfCheckpoint) := by
  unfold CheckpointEntry.upsert
  rw [← placeholderIgnored_eq]
  by_cases hignored : placeholderIgnored checkpoints checkpoint = true
  · rw [if_pos hignored, if_pos hignored]
  · rw [if_neg hignored, if_neg hignored, upsertCheckpoint, map_sortCheckpoints,
      List.map_append, List.filter_map]
    rfl

theorem map_retainCheckpoints (turnCount : Nat)
    (checkpoints : List OrchestrationCheckpointSummary) :
    (retainCheckpoints turnCount checkpoints).map entryOfCheckpoint =
      CheckpointEntry.retain turnCount (checkpoints.map entryOfCheckpoint) := by
  unfold retainCheckpoints CheckpointEntry.retain
  rw [map_sortCheckpoints, List.filter_map]
  rfl

theorem map_retainSummaries (turnCount : Nat) (summaries : List TurnDiffSummary) :
    (sortTurnDiffSummaries (summaries.filter (isRetainedSummary turnCount))).map entryOfSummary =
      CheckpointEntry.retain turnCount (summaries.map entryOfSummary) := by
  unfold CheckpointEntry.retain
  rw [map_sortTurnDiffSummaries, List.filter_map]
  rfl

namespace CheckpointEntry

theorem sublist_perm_sorted (entries : List CheckpointEntry) :
    ∃ whole, (sorted entries).Sublist whole ∧ whole.Perm entries :=
  ⟨_, sliceLast_sublist .., toSorted_perm ..⟩

variable {entries : List CheckpointEntry} {entry existing : CheckpointEntry}

theorem nodup_turnIds_sorted (h : (entries.map turnId).Nodup) :
    ((sorted entries).map turnId).Nodup := by
  obtain ⟨whole, hsub, hperm⟩ := sublist_perm_sorted entries
  exact ((hperm.map turnId).nodup_iff.mpr h).sublist (hsub.map turnId)

theorem nodup_turnIds_upsert (entry : CheckpointEntry) (h : (entries.map turnId).Nodup) :
    ((upsert entry entries).map turnId).Nodup := by
  unfold upsert
  by_cases hignored : ignored entries entry = true
  · rw [if_pos hignored]
    exact h
  · rw [if_neg hignored]
    refine nodup_turnIds_sorted ?_
    rw [List.map_append, List.nodup_append]
    refine ⟨h.sublist (List.filter_sublist.map turnId), by simp, ?_⟩
    intro left hleft right hright heq
    obtain ⟨existing, hexisting, rfl⟩ := List.mem_map.mp hleft
    have hne : existing.turnId ≠ entry.turnId := by simpa using (List.mem_filter.mp hexisting).2
    have hright : right = entry.turnId := by simpa using hright
    exact hne (heq.trans hright)

theorem nodup_turnIds_retain (turnCount : Nat) (h : (entries.map turnId).Nodup) :
    ((retain turnCount entries).map turnId).Nodup :=
  nodup_turnIds_sorted (h.sublist (List.filter_sublist.map turnId))

def key (entry : CheckpointEntry) : Nat := turnCountKey entry.checkpointTurnCount

theorem sorted_of_length_le (h : entries.length ≤ MAX_THREAD_CHECKPOINTS) :
    sorted entries =
      toSorted (byKey (fun entry => turnCountKey entry.checkpointTurnCount)) entries :=
  sliceLast_of_length_le (by rwa [length_toSorted])

theorem pairwise_sorted (hlength : entries.length ≤ MAX_THREAD_CHECKPOINTS)
    (hdistinct : (entries.map key).Nodup) :
    (sorted entries).Pairwise (fun left right => key left < key right) := by
  rw [sorted_of_length_le hlength]
  exact (rankedBy_byKey key).pairwise_lt_toSorted hdistinct

theorem mem_upsert (hlength : entries.length < MAX_THREAD_CHECKPOINTS)
    (hignored : ignored entries entry = false) :
    existing ∈ upsert entry entries ↔
      existing = entry ∨ existing ∈ entries ∧ existing.turnId ≠ entry.turnId := by
  have hle : (entries.filter (fun existing => existing.turnId ≠ entry.turnId) ++ [entry]).length ≤
      MAX_THREAD_CHECKPOINTS := by
    have := List.length_filter_le (fun existing => decide (existing.turnId ≠ entry.turnId)) entries
    simp only [List.length_append, List.length_singleton]
    omega
  unfold upsert
  rw [if_neg (by simp [hignored]), sorted_of_length_le hle, mem_toSorted, List.mem_append,
    List.mem_filter, List.mem_singleton, decide_eq_true_eq, or_comm]

theorem mem_upsert_of_ne (hlength : entries.length < MAX_THREAD_CHECKPOINTS)
    (hmem : existing ∈ entries) (hne : existing.turnId ≠ entry.turnId) :
    existing ∈ upsert entry entries := by
  by_cases hignored : ignored entries entry = true
  · rw [upsert, if_pos hignored]
    exact hmem
  · exact (mem_upsert hlength (by simpa using hignored)).mpr (Or.inr ⟨hmem, hne⟩)

theorem pairwise_upsert (hlength : entries.length < MAX_THREAD_CHECKPOINTS)
    (hignored : ignored entries entry = false) (hkeys : (entries.map key).Nodup)
    (hfresh : ∀ existing ∈ entries, existing.turnId ≠ entry.turnId → key existing ≠ key entry) :
    (upsert entry entries).Pairwise (fun left right => key left < key right) := by
  have hkept := List.length_filter_le
    (fun existing => decide (existing.turnId ≠ entry.turnId)) entries
  unfold upsert
  rw [if_neg (by simp [hignored])]
  apply pairwise_sorted
  · simp only [List.length_append, List.length_singleton]
    omega
  · rw [List.map_append, List.nodup_append]
    refine ⟨hkeys.sublist (List.filter_sublist.map key), by simp, ?_⟩
    intro left hleft right hright heq
    obtain ⟨existing, hexisting, rfl⟩ := List.mem_map.mp hleft
    obtain ⟨hmem, hne⟩ := List.mem_filter.mp hexisting
    have hright : right = key entry := by simpa using hright
    exact hfresh existing hmem (by simpa using hne) (heq.trans hright)

theorem pairwise_retain (turnCount : Nat) (hlength : entries.length ≤ MAX_THREAD_CHECKPOINTS)
    (hkeys : (entries.map key).Nodup) :
    (retain turnCount entries).Pairwise (fun left right => key left < key right) :=
  pairwise_sorted ((List.length_filter_le _ _).trans hlength)
    (hkeys.sublist (List.filter_sublist.map key))

theorem mem_retain {turnCount : Nat} (hlength : entries.length ≤ MAX_THREAD_CHECKPOINTS) :
    existing ∈ retain turnCount entries ↔ existing ∈ entries ∧ upTo turnCount existing = true := by
  unfold retain
  rw [sorted_of_length_le ((List.length_filter_le _ _).trans hlength), mem_toSorted,
    List.mem_filter]

/-- Where turns are listed once, a placeholder is ignored exactly when a captured
checkpoint of its turn is listed. -/
theorem ignored_iff (hnodup : (entries.map turnId).Nodup) :
    ignored entries entry = true ↔
      entry.status = some .missing ∧
        ∃ existing ∈ entries, existing.turnId = entry.turnId ∧ existing.status ≠ some .missing := by
  unfold ignored
  cases hfind : entries.find? (fun existing => existing.turnId = entry.turnId) with
  | none =>
    have hnone := List.find?_eq_none.mp hfind
    simp only [Bool.false_eq_true, false_iff, not_and, not_exists]
    intro _ existing hexisting heq
    exact absurd heq (by simpa using hnone existing hexisting)
  | some found =>
    have hmem := List.mem_of_find?_eq_some hfind
    have hturn : found.turnId = entry.turnId := by simpa using List.find?_some hfind
    simp only [Bool.and_eq_true, decide_eq_true_eq]
    constructor
    · exact fun h => ⟨h.2, found, hmem, hturn, h.1⟩
    · rintro ⟨hmissing, existing, hexisting, heq, hcaptured⟩
      have hsame : existing = found :=
        List.inj_on_of_nodup_map hnodup hexisting hmem (heq.trans hturn.symm)
      exact ⟨hsame ▸ hcaptured, hmissing⟩

end CheckpointEntry

def tableCheckpoints (threadId : ThreadId) (turns : TurnTable) : List CheckpointEntry :=
  ((listCheckpointRowsByThread turns threadId).filterMap mapCheckpointRow).map entryOfCheckpoint

def entryOfRow (row : ProjectionTurn) : Option CheckpointEntry :=
  (mapCheckpointRow row).map entryOfCheckpoint

/-- A row's checkpoint columns are filled together, and a turn count belongs to one
turn of the thread. -/
structure CheckpointRows (threadId : ThreadId) (turns : TurnTable) : Prop where
  filled : ∀ row ∈ turns.rows, row.threadId = threadId → row.checkpointTurnCount.isSome →
    (mapCheckpointRow row).isSome
  oneTurn : OneTurnPerCount turns threadId

variable {entry : CheckpointEntry} {turns : TurnTable}

theorem entryOfRow_eq_some {row : ProjectionTurn} (h : entryOfRow row = some entry) :
    row.turnId = some entry.turnId ∧ row.checkpointTurnCount = entry.checkpointTurnCount ∧
      row.checkpointTurnCount.isSome := by
  unfold entryOfRow mapCheckpointRow at h
  cases hturn : row.turnId <;> cases hcount : row.checkpointTurnCount <;>
    cases href : row.checkpointRef <;> cases hstatus : row.checkpointStatus <;>
    cases hcompleted : row.completedAt <;>
    simp [hturn, hcount, href, hstatus, hcompleted, Option.bind] at h
  subst h
  exact ⟨rfl, rfl, rfl⟩

variable {threadId : ThreadId}

theorem mem_tableCheckpoints :
    entry ∈ tableCheckpoints threadId turns ↔
      ∃ row ∈ turns.rows, row.threadId = threadId ∧ entryOfRow row = some entry := by
  have hrows : ∀ row, row ∈ listCheckpointRowsByThread turns threadId ↔
      (row ∈ turns.rows ∧ row.checkpointTurnCount.isSome = true) ∧ row.threadId = threadId :=
    fun row => mem_listByThread.trans (by rw [KeyedTable.rows_restrict, List.mem_filter])
  unfold tableCheckpoints
  rw [List.map_filterMap, List.mem_filterMap]
  constructor
  · rintro ⟨row, hrow, hentry⟩
    obtain ⟨⟨hmem, _⟩, hthread⟩ := (hrows row).mp hrow
    exact ⟨row, hmem, hthread, hentry⟩
  · rintro ⟨row, hmem, hthread, hentry⟩
    exact ⟨row, (hrows row).mpr ⟨⟨hmem, (entryOfRow_eq_some hentry).2.2⟩, hthread⟩, hentry⟩

theorem pairwise_tableCheckpoints (h : CheckpointRows threadId turns) :
    (tableCheckpoints threadId turns).Pairwise
      (fun left right => CheckpointEntry.key left < CheckpointEntry.key right) := by
  have hmem : ∀ row ∈ listCheckpointRowsByThread turns threadId,
      row ∈ turns.rows ∧ row.threadId = threadId ∧ row.checkpointTurnCount.isSome := by
    intro row hrow
    obtain ⟨hrow, hthread⟩ := mem_listByThread.mp hrow
    rw [KeyedTable.rows_restrict, List.mem_filter] at hrow
    exact ⟨hrow.1, hthread, hrow.2⟩
  have hordered : (listCheckpointRowsByThread turns threadId).Pairwise (fun left right =>
      nullFirst left.checkpointTurnCount ≤ nullFirst right.checkpointTurnCount) :=
    (rankedBy_compareNullable ProjectionTurn.checkpointTurnCount).pairwise_toSorted _
  have hkeys : ((listCheckpointRowsByThread turns threadId).filterMap turnKey).Nodup := by
    have hperm := (toSorted_perm (fun left right : ProjectionTurn =>
      compareNullable (byKey id) left.checkpointTurnCount right.checkpointTurnCount)
      ((turns.restrict (fun row => row.checkpointTurnCount.isSome)).rows.filter
        (fun row => row.threadId = threadId))).filterMap turnKey
    refine hperm.nodup_iff.mpr (turns.unique.sublist ?_)
    exact (List.filter_sublist.trans List.filter_sublist).filterMap turnKey
  have hdistinct := List.pairwise_filterMap.mp hkeys
  unfold tableCheckpoints
  rw [List.map_filterMap, List.pairwise_filterMap]
  refine (hordered.and hdistinct).imp_of_mem ?_
  intro left right hleft hright hboth leftEntry hleftEntry rightEntry hrightEntry
  obtain ⟨hleftRow, hleftThread, hleftCount⟩ := hmem left hleft
  obtain ⟨hrightRow, hrightThread, -⟩ := hmem right hright
  obtain ⟨hleftTurn, hleftEq, -⟩ := entryOfRow_eq_some hleftEntry
  obtain ⟨hrightTurn, hrightEq, hrightCount⟩ := entryOfRow_eq_some hrightEntry
  have hne : left.checkpointTurnCount ≠ right.checkpointTurnCount := by
    intro heq
    obtain ⟨count, hcount⟩ := Option.isSome_iff_exists.mp hleftCount
    have hturn := h.oneTurn left.turnId right.turnId count
      ⟨left, hleftRow, hleftThread, rfl, hcount⟩
      ⟨right, hrightRow, hrightThread, rfl, heq.symm.trans hcount⟩
    refine hboth.2 (threadId, leftEntry.turnId) ?_ (threadId, rightEntry.turnId) ?_ ?_
    · simp [turnKey, hleftTurn, hleftThread]
    · simp [turnKey, hrightTurn, hrightThread]
    · rw [hleftTurn, hrightTurn] at hturn
      rw [Option.some.inj hturn]
  obtain ⟨leftCount, hleftSome⟩ := Option.isSome_iff_exists.mp hleftCount
  obtain ⟨rightCount, hrightSome⟩ := Option.isSome_iff_exists.mp hrightCount
  have hle := hboth.1
  rw [hleftSome, hrightSome] at hle hne
  simp only [nullFirst] at hle
  simp only [CheckpointEntry.key, turnCountKey, ← hleftEq, ← hrightEq, hleftSome, hrightSome,
    Option.getD_some]
  have : leftCount ≠ rightCount := fun heq => hne (congrArg some heq)
  omega

section Rows

variable {threadId : ThreadId} {turns : TurnTable}

variable {payload : ThreadTurnDiffCompletedPayload}

theorem entryOfRow_checkpointTurn (existing : Option ProjectionTurn)
    (hturn : (checkpointTurn existing payload).turnId = some payload.turnId) :
    entryOfRow (checkpointTurn existing payload) = some (entryOfPayload payload) := by
  unfold entryOfRow mapCheckpointRow
  rw [hturn]
  rfl

variable {entry : CheckpointEntry}

theorem mem_tableCheckpoints_completeTurnDiff (hpayload : payload.threadId = threadId) :
    entry ∈ tableCheckpoints threadId (completeTurnDiff turns payload) ↔
      entry = entryOfPayload payload ∨
      entry ∈ tableCheckpoints threadId turns ∧ entry.turnId ≠ payload.turnId ∧
        entry.checkpointTurnCount ≠ some payload.checkpointTurnCount := by
  subst hpayload
  obtain ⟨hthread, hturn⟩ := turnId_checkpointTurn turns payload
  rw [mem_tableCheckpoints, mem_tableCheckpoints]
  constructor
  · rintro ⟨row, hrow, hrowThread, hentry⟩
    rcases mem_completeTurnDiff.mp hrow with rfl | ⟨existing, hmem, hkey, rfl⟩
    · left
      rw [entryOfRow_checkpointTurn _ hturn] at hentry
      exact (Option.some.inj hentry).symm
    · right
      by_cases hconflict : TurnTable.conflicts payload.threadId payload.turnId
          payload.checkpointTurnCount existing = true
      · rw [if_pos hconflict] at hentry
        have := (entryOfRow_eq_some hentry).2.2
        simp [TurnTable.withoutCheckpoint] at this
      · rw [if_neg hconflict] at hentry hrowThread
        obtain ⟨hentryTurn, hentryCount, -⟩ := entryOfRow_eq_some hentry
        refine ⟨⟨existing, hmem, hrowThread, hentry⟩, ?_, ?_⟩
        · intro heq
          exact hkey (by simp [turnKey, hentryTurn, hrowThread, heq])
        · intro heq
          exact hconflict ((conflicts_iff hrowThread hkey).mpr (hentryCount.trans heq))
  · rintro (rfl | ⟨⟨row, hmem, hrowThread, hentry⟩, hneTurn, hneCount⟩)
    · exact ⟨_, mem_completeTurnDiff.mpr (Or.inl rfl), hthread,
        entryOfRow_checkpointTurn _ hturn⟩
    · obtain ⟨hentryTurn, hentryCount, -⟩ := entryOfRow_eq_some hentry
      have hkey : turnKey row ≠ some (payload.threadId, payload.turnId) := by
        simp [turnKey, hentryTurn, hneTurn]
      have hfree : ¬ TurnTable.conflicts payload.threadId payload.turnId
          payload.checkpointTurnCount row = true := by
        rw [conflicts_iff hrowThread hkey, hentryCount]
        exact hneCount
      refine ⟨row, mem_completeTurnDiff.mpr (Or.inr ⟨row, hmem, hkey, ?_⟩), hrowThread, hentry⟩
      rw [if_neg hfree]

theorem mem_tableCheckpoints_revertTurns {payload : ThreadRevertedPayload}
    (hpayload : payload.threadId = threadId) :
    entry ∈ tableCheckpoints threadId (revertTurns turns payload) ↔
      entry ∈ tableCheckpoints threadId turns ∧ upTo payload.turnCount entry = true := by
  rw [mem_tableCheckpoints, mem_tableCheckpoints]
  have hkept : ∀ row, entryOfRow row = some entry →
      (isKeptTurn payload.turnCount row = true ↔ upTo payload.turnCount entry = true) := by
    intro row hentry
    obtain ⟨hturn, hcount, -⟩ := entryOfRow_eq_some hentry
    simp [isKeptTurn, CheckpointEntry.upTo, hturn, hcount]
  constructor
  · rintro ⟨row, hrow, hrowThread, hentry⟩
    obtain ⟨hmem, hkeep⟩ := mem_revertTurns.mp hrow
    exact ⟨⟨row, hmem, hrowThread, hentry⟩,
      (hkept row hentry).mp (hkeep (hrowThread.trans hpayload.symm))⟩
  · rintro ⟨⟨row, hmem, hrowThread, hentry⟩, hupTo⟩
    exact ⟨row, mem_revertTurns.mpr ⟨hmem, fun _ => (hkept row hentry).mpr hupTo⟩, hrowThread,
      hentry⟩

theorem checkpointRows_completeTurnDiff (h : CheckpointRows threadId turns) :
    CheckpointRows threadId (completeTurnDiff turns payload) where
  filled row hrow hrowThread hcount := by
    obtain ⟨-, hturn⟩ := turnId_checkpointTurn turns payload
    rcases mem_completeTurnDiff.mp hrow with rfl | ⟨existing, hmem, hkey, rfl⟩
    · simpa [entryOfRow] using congrArg Option.isSome (entryOfRow_checkpointTurn _ hturn)
    · by_cases hconflict : TurnTable.conflicts payload.threadId payload.turnId
          payload.checkpointTurnCount existing = true
      · simp [if_pos hconflict, TurnTable.withoutCheckpoint] at hcount
      · rw [if_neg hconflict] at hrowThread hcount ⊢
        exact h.filled existing hmem hrowThread hcount
  oneTurn := oneTurnPerCount_completeTurnDiff payload h.oneTurn

theorem checkpointRows_revertTurns (payload : ThreadRevertedPayload)
    (h : CheckpointRows threadId turns) : CheckpointRows threadId (revertTurns turns payload) where
  filled row hrow := h.filled row (mem_revertTurns.mp hrow).1
  oneTurn := oneTurnPerCount_revertTurns payload h.oneTurn

end Rows

/-! ## The three lists -/

/-- The server's read model and turn rows, and the store of a client that receives
every event. -/
structure CheckpointViews where
  readModel : OrchestrationReadModel
  turns : TurnTable
  store : EnvironmentState

def memoryCheckpoints (threadId : ThreadId) (readModel : OrchestrationReadModel) :
    List CheckpointEntry :=
  ((readModel.threads.find? (fun thread => thread.id = threadId)).map
    (fun thread => thread.checkpoints.map entryOfCheckpoint)).getD []

def storeCheckpoints (threadId : ThreadId) (store : EnvironmentState) : List CheckpointEntry :=
  ((getThreadFromEnvironmentState store threadId).map
    (fun thread => thread.turnDiffSummaries.map entryOfSummary)).getD []

theorem memoryCheckpoints_eq {readModel : OrchestrationReadModel} {thread : OrchestrationThread}
    (hfind : readModel.threads.find? (fun entry => entry.id = threadId) = some thread) :
    memoryCheckpoints threadId readModel = thread.checkpoints.map entryOfCheckpoint := by
  simp [memoryCheckpoints, hfind]

section Views

variable [Collation]

/-- A turn diff or a revert of the thread while it has fewer than 500 checkpoints. -/
def CheckpointViews.step (threadId : ThreadId) (views : CheckpointViews)
    (event : OrchestrationEvent) : Option CheckpointViews :=
  if (memoryCheckpoints threadId views.readModel).length < MAX_THREAD_CHECKPOINTS then
    match event.payload with
    | .threadTurnDiffCompleted payload =>
      if payload.threadId = threadId then
        some
          { readModel := projectEvent views.readModel event
            turns := applyThreadTurnsProjection views.turns event
            store := updateThreadState views.store payload.threadId
              (completeThreadTurnDiff payload event.occurredAt) }
      else none
    | .threadReverted payload =>
      if payload.threadId = threadId then
        some
          { readModel := projectEvent views.readModel event
            turns := applyThreadTurnsProjection views.turns event
            store := updateThreadState views.store payload.threadId
              (fun thread => some (revertThread payload event.occurredAt thread)) }
      else none
    | _ => none
  else none

def CheckpointsAgree (threadId : ThreadId) (views : CheckpointViews) : Prop :=
  tableCheckpoints threadId views.turns = memoryCheckpoints threadId views.readModel ∧
    storeCheckpoints threadId views.store = memoryCheckpoints threadId views.readModel

/-- A placeholder leaves a captured checkpoint of its turn in every list. -/
def KeepsCaptured (threadId : ThreadId) (views : CheckpointViews) (event : OrchestrationEvent) :
    Prop :=
  ∀ payload, event.payload = .threadTurnDiffCompleted payload → payload.status = .missing →
    ∀ next, views.step threadId event = some next →
      ∀ entry : CheckpointEntry, entry.turnId = payload.turnId → entry.status ≠ some .missing →
        (entry ∈ memoryCheckpoints threadId views.readModel →
          entry ∈ memoryCheckpoints threadId next.readModel) ∧
        (entry ∈ tableCheckpoints threadId views.turns →
          entry ∈ tableCheckpoints threadId next.turns) ∧
        (entry ∈ storeCheckpoints threadId views.store →
          entry ∈ storeCheckpoints threadId next.store)

/-- The turn diff is no placeholder for a turn with a captured checkpoint, and no other
turn's checkpoint holds its turn count. -/
def TakesFreeTurnCount (threadId : ThreadId) (views : CheckpointViews)
    (event : OrchestrationEvent) : Prop :=
  ∀ payload, event.payload = .threadTurnDiffCompleted payload →
    ∀ entry ∈ memoryCheckpoints threadId views.readModel,
      (entry.turnId = payload.turnId → entry.status ≠ some .missing → payload.status ≠ .missing) ∧
      (entry.turnId ≠ payload.turnId →
        entry.checkpointTurnCount ≠ some payload.checkpointTurnCount)

/-- The thread is in the read model and in the store, which lists its checkpoints as the
read model does, each turn once. -/
structure Tracked (threadId : ThreadId) (views : CheckpointViews) : Prop where
  known : (views.readModel.threads.find? (fun thread => thread.id = threadId)).isSome
  shown : (views.store.threadShellById threadId).map ThreadShell.id = some threadId
  sameInStore :
    storeCheckpoints threadId views.store = memoryCheckpoints threadId views.readModel
  distinctTurns :
    ((memoryCheckpoints threadId views.readModel).map CheckpointEntry.turnId).Nodup
  rows : CheckpointRows threadId views.turns

variable {threadId : ThreadId}

variable {event : OrchestrationEvent} {views next : CheckpointViews}

variable {readModel : OrchestrationReadModel}

theorem memory_diffCompleted {payload : ThreadTurnDiffCompletedPayload}
    (hevent : event.payload = .threadTurnDiffCompleted payload)
    (hpayload : payload.threadId = threadId)
    (hknown : (readModel.threads.find? (fun thread => thread.id = threadId)).isSome) :
    ((projectEvent readModel event).threads.find? (fun thread => thread.id = threadId)).isSome ∧
      memoryCheckpoints threadId (projectEvent readModel event) =
        CheckpointEntry.upsert (entryOfPayload payload)
          (memoryCheckpoints threadId readModel) := by
  obtain ⟨thread, hfind⟩ := Option.isSome_iff_exists.mp hknown
  subst hpayload
  have hnext : (projectEvent readModel event).threads.find?
      (fun entry => entry.id = payload.threadId) = some
        (if placeholderIgnored thread.checkpoints (checkpointFromPayload payload) then thread
          else
            { thread with
              checkpoints := upsertCheckpoint (checkpointFromPayload payload) thread.checkpoints
              latestTurn := some (latestTurnOfDiff payload thread.latestTurn)
              updatedAt := event.occurredAt }) := by
    rw [projectEvent_threads, projectThreads, hevent]
    refine find?_updateFound hfind (fun entry => ?_)
    split <;> rfl
  refine ⟨by rw [hnext, Option.isSome_some], ?_⟩
  rw [memoryCheckpoints_eq hnext, memoryCheckpoints_eq hfind, entryOfPayload,
    ← map_upsertCheckpoint]
  by_cases hignored : placeholderIgnored thread.checkpoints (checkpointFromPayload payload) = true
  · rw [if_pos hignored, if_pos hignored]
  · rw [if_neg hignored, if_neg hignored]

theorem memory_reverted {payload : ThreadRevertedPayload}
    (hevent : event.payload = .threadReverted payload) (hpayload : payload.threadId = threadId)
    (hknown : (readModel.threads.find? (fun thread => thread.id = threadId)).isSome) :
    ((projectEvent readModel event).threads.find? (fun thread => thread.id = threadId)).isSome ∧
      memoryCheckpoints threadId (projectEvent readModel event) =
        CheckpointEntry.retain payload.turnCount (memoryCheckpoints threadId readModel) := by
  obtain ⟨thread, hfind⟩ := Option.isSome_iff_exists.mp hknown
  subst hpayload
  have hnext : (projectEvent readModel event).threads.find?
      (fun entry => entry.id = payload.threadId) = some
        { Orchestration.revertThread payload.turnCount thread thread with
          updatedAt := event.occurredAt } := by
    rw [projectEvent_threads, projectThreads, hevent]
    exact find?_updateFound hfind (fun entry => by simp only [Orchestration.revertThread])
  refine ⟨by rw [hnext, Option.isSome_some], ?_⟩
  rw [memoryCheckpoints_eq hnext, memoryCheckpoints_eq hfind, ← map_retainCheckpoints]
  simp only [Orchestration.revertThread]

omit [Collation] in
theorem storeCheckpoints_update {store : EnvironmentState} (updater : Thread → Option Thread)
    (rule : List CheckpointEntry → List CheckpointEntry)
    (hshown : (store.threadShellById threadId).map ThreadShell.id = some threadId)
    (hid : ∀ thread next, updater thread = some next → next.id = thread.id)
    (hrule : ∀ thread, ((updater thread).getD thread).turnDiffSummaries.map entryOfSummary =
      rule (thread.turnDiffSummaries.map entryOfSummary))
    (hnodup : ((rule (storeCheckpoints threadId store)).map CheckpointEntry.turnId).Nodup) :
    ((updateThreadState store threadId updater).threadShellById threadId).map ThreadShell.id =
        some threadId ∧
      storeCheckpoints threadId (updateThreadState store threadId updater) =
        rule (storeCheckpoints threadId store) := by
  obtain ⟨shell, hshell, hshellId⟩ := Option.map_eq_some_iff.mp hshown
  obtain ⟨thread, hthread⟩ : ∃ thread, getThreadFromEnvironmentState store threadId =
      some thread := ⟨_, by rw [getThreadFromEnvironmentState, hshell, Option.map_some]⟩
  have hthreadId : thread.id = threadId := by
    rw [getThreadFromEnvironmentState, hshell, Option.map_some] at hthread
    rw [← Option.some.inj hthread]
    exact hshellId
  have hentries : storeCheckpoints threadId store =
      thread.turnDiffSummaries.map entryOfSummary := by
    rw [storeCheckpoints, hthread, Option.map_some, Option.getD_some]
  have hthreadRule := hrule thread
  rw [← hentries] at hthreadRule
  unfold updateThreadState
  cases hnext : updater thread with
  | none =>
    simp only [hthread, hnext]
    rw [hnext, Option.getD_none, ← hentries] at hthreadRule
    exact ⟨hshown, hthreadRule⟩
  | some next =>
    have hnextId : next.id = threadId := (hid thread next hnext).trans hthreadId
    simp only [hthread, hnext]
    rw [hnext, Option.getD_some] at hthreadRule
    rw [← hthreadRule, List.map_map] at hnodup
    have hwritten : selectThreadTurnDiffSummaries (writeThreadState store next (some thread))
        next.id = next.turnDiffSummaries := turnDiffSummaries_writeThreadState hnodup
    have hwrittenShell := shellId_writeThreadState store next (some thread)
    rw [hnextId] at hwritten hwrittenShell
    refine ⟨hwrittenShell, ?_⟩
    obtain ⟨written, hwrittenEq, -⟩ := Option.map_eq_some_iff.mp hwrittenShell
    rw [storeCheckpoints, getThreadFromEnvironmentState, hwrittenEq, Option.map_some,
      Option.map_some, Option.getD_some, hwritten, hthreadRule]

omit [Collation] in
theorem completeThreadTurnDiff_rule (payload : ThreadTurnDiffCompletedPayload)
    (occurredAt : IsoDateTime) (thread : Thread) :
    ((completeThreadTurnDiff payload occurredAt thread).getD thread).turnDiffSummaries.map
        entryOfSummary =
      CheckpointEntry.upsert (entryOfPayload payload)
        (thread.turnDiffSummaries.map entryOfSummary) := by
  have hentry : entryOfSummary (checkpointOfPayload payload) = entryOfPayload payload := rfl
  unfold completeThreadTurnDiff CheckpointEntry.upsert
  simp only
  rw [← hentry, ← keepsExisting_eq]
  by_cases hkeeps : keepsExisting thread.turnDiffSummaries (checkpointOfPayload payload) = true
  · rw [if_pos hkeeps, if_pos hkeeps, Option.getD_none]
  · rw [if_neg hkeeps, if_neg hkeeps, Option.getD_some]
    simp only
    rw [map_sortTurnDiffSummaries, List.map_append, List.filter_map]
    rfl

theorem step_eq_some (h : views.step threadId event = some next) :
    (memoryCheckpoints threadId views.readModel).length < MAX_THREAD_CHECKPOINTS ∧
      next.readModel = projectEvent views.readModel event ∧
      ((∃ payload, event.payload = .threadTurnDiffCompleted payload ∧
          payload.threadId = threadId ∧
          next.turns = completeTurnDiff views.turns payload ∧
          next.store = updateThreadState views.store threadId
            (completeThreadTurnDiff payload event.occurredAt)) ∨
        ∃ payload, event.payload = .threadReverted payload ∧ payload.threadId = threadId ∧
          next.turns = revertTurns views.turns payload ∧
          next.store = updateThreadState views.store threadId
            (fun thread => some (revertThread payload event.occurredAt thread))) := by
  unfold CheckpointViews.step at h
  split at h
  · rename_i hlength
    refine ⟨hlength, ?_⟩
    split at h
    · rename_i payload hevent
      split at h
      · rename_i hthread
        cases h
        refine ⟨rfl, Or.inl ⟨payload, hevent, hthread, ?_, by rw [hthread]⟩⟩
        simp only [applyThreadTurnsProjection, hevent]
      · cases h
    · rename_i payload hevent
      split at h
      · rename_i hthread
        cases h
        refine ⟨rfl, Or.inr ⟨payload, hevent, hthread, ?_, by rw [hthread]⟩⟩
        simp only [applyThreadTurnsProjection, hevent]
      · cases h
    · cases h
  · cases h

theorem tracked_step (hI : Tracked threadId views) (h : views.step threadId event = some next) :
    Tracked threadId next := by
  obtain ⟨-, hreadModel, ⟨payload, hevent, hpayload, hturns, hstore⟩ |
    ⟨payload, hevent, hpayload, hturns, hstore⟩⟩ := step_eq_some h
  · obtain ⟨hknown, hmemory⟩ := memory_diffCompleted hevent hpayload hI.known
    have hnodup := CheckpointEntry.nodup_turnIds_upsert (entryOfPayload payload) hI.distinctTurns
    obtain ⟨hshown, hrule⟩ := storeCheckpoints_update
      (completeThreadTurnDiff payload event.occurredAt)
      (CheckpointEntry.upsert (entryOfPayload payload)) hI.shown
      (fun _ _ => id_of_completeThreadTurnDiff)
      (completeThreadTurnDiff_rule payload event.occurredAt) (hI.sameInStore ▸ hnodup)
    rw [← hstore] at hshown hrule
    rw [← hreadModel] at hknown hmemory
    exact
      { known := hknown
        shown := hshown
        sameInStore := by rw [hrule, hmemory, hI.sameInStore]
        distinctTurns := hmemory ▸ hnodup
        rows := hturns ▸ checkpointRows_completeTurnDiff hI.rows }
  · obtain ⟨hknown, hmemory⟩ := memory_reverted hevent hpayload hI.known
    have hnodup := CheckpointEntry.nodup_turnIds_retain payload.turnCount hI.distinctTurns
    obtain ⟨hshown, hrule⟩ := storeCheckpoints_update
      (fun thread => some (revertThread payload event.occurredAt thread))
      (CheckpointEntry.retain payload.turnCount) hI.shown
      (fun thread next hnext => by rw [← Option.some.inj hnext, revertThread])
      (fun thread => by
        rw [Option.getD_some, revertThread, map_retainSummaries]) (hI.sameInStore ▸ hnodup)
    rw [← hstore] at hshown hrule
    rw [← hreadModel] at hknown hmemory
    exact
      { known := hknown
        shown := hshown
        sameInStore := by rw [hrule, hmemory, hI.sameInStore]
        distinctTurns := hmemory ▸ hnodup
        rows := hturns ▸ checkpointRows_revertTurns payload hI.rows }

theorem checkpointsAgree_step (hI : Tracked threadId views) (hP : CheckpointsAgree threadId views)
    (h : views.step threadId event = some next) :
    CheckpointsAgree threadId next ↔ TakesFreeTurnCount threadId views event := by
  have hnextI := tracked_step hI h
  have hagree : CheckpointsAgree threadId next ↔
      tableCheckpoints threadId next.turns = memoryCheckpoints threadId next.readModel :=
    ⟨fun hnext => hnext.1, fun htable => ⟨htable, hnextI.sameInStore⟩⟩
  have htable := hP.1
  have hordered := pairwise_tableCheckpoints hI.rows
  have hnextOrdered := pairwise_tableCheckpoints hnextI.rows
  have hkeys : ((memoryCheckpoints threadId views.readModel).map CheckpointEntry.key).Nodup := by
    rw [← htable]
    exact List.pairwise_map.mpr (hordered.imp Nat.ne_of_lt)
  rw [hagree]
  obtain ⟨hlength, hreadModel, ⟨payload, hevent, hpayload, hturns, -⟩ |
    ⟨payload, hevent, hpayload, hturns, -⟩⟩ := step_eq_some h
  · obtain ⟨-, hmemory⟩ := memory_diffCompleted hevent hpayload hI.known
    rw [← hreadModel] at hmemory
    have hmemTable : ∀ entry, entry ∈ tableCheckpoints threadId next.turns ↔
        entry = entryOfPayload payload ∨
          entry ∈ memoryCheckpoints threadId views.readModel ∧ entry.turnId ≠ payload.turnId ∧
            entry.checkpointTurnCount ≠ some payload.checkpointTurnCount := by
      intro entry
      rw [hturns, mem_tableCheckpoints_completeTurnDiff hpayload, htable]
    have hcondition : TakesFreeTurnCount threadId views event ↔
        CheckpointEntry.ignored (memoryCheckpoints threadId views.readModel)
            (entryOfPayload payload) = false ∧
          ∀ entry ∈ memoryCheckpoints threadId views.readModel, entry.turnId ≠ payload.turnId →
            entry.checkpointTurnCount ≠ some payload.checkpointTurnCount := by
      rw [← Bool.not_eq_true, CheckpointEntry.ignored_iff hI.distinctTurns]
      constructor
      · intro hfree
        refine ⟨?_, fun entry hentry => (hfree payload hevent entry hentry).2⟩
        rintro ⟨hmissing, entry, hentry, hturn, hcaptured⟩
        exact (hfree payload hevent entry hentry).1 hturn hcaptured (Option.some.inj hmissing)
      · rintro ⟨hnotIgnored, hfree⟩ other hother entry hentry
        cases hevent.symm.trans hother
        refine ⟨fun hturn hcaptured hmissing => ?_, hfree entry hentry⟩
        exact hnotIgnored ⟨congrArg some hmissing, entry, hentry, hturn, hcaptured⟩
    rw [hcondition]
    constructor
    · intro heq
      have hself : entryOfPayload payload ∈ memoryCheckpoints threadId next.readModel :=
        heq ▸ (hmemTable _).mpr (Or.inl rfl)
      constructor
      · by_contra hignored
        have hignored : CheckpointEntry.ignored (memoryCheckpoints threadId views.readModel)
            (entryOfPayload payload) = true := by simpa using hignored
        -- The list kept the captured checkpoint, the table holds the placeholder.
        rw [hmemory, CheckpointEntry.upsert, if_pos hignored] at hself
        obtain ⟨hmissing, entry, hentry, hturn, hcaptured⟩ :=
          (CheckpointEntry.ignored_iff hI.distinctTurns).mp hignored
        have hsame := List.inj_on_of_nodup_map hI.distinctTurns hentry hself hturn
        exact hcaptured (hsame ▸ hmissing)
      · intro entry hentry hturn hcount
        -- The list keeps the other turn's checkpoint, the table has emptied it.
        have hkept : entry ∈ memoryCheckpoints threadId next.readModel :=
          hmemory ▸ CheckpointEntry.mem_upsert_of_ne hlength hentry hturn
        rcases (hmemTable entry).mp (heq ▸ hkept) with rfl | ⟨-, -, hne⟩
        · exact hturn rfl
        · exact hne hcount
    · rintro ⟨hnotIgnored, hfree⟩
      have hmemMemory : ∀ entry, entry ∈ memoryCheckpoints threadId next.readModel ↔
          entry = entryOfPayload payload ∨
            entry ∈ memoryCheckpoints threadId views.readModel ∧ entry.turnId ≠ payload.turnId := by
        intro entry
        rw [hmemory]
        exact CheckpointEntry.mem_upsert hlength hnotIgnored
      have hfresh : ∀ entry ∈ memoryCheckpoints threadId views.readModel,
          entry.turnId ≠ payload.turnId →
          CheckpointEntry.key entry ≠ CheckpointEntry.key (entryOfPayload payload) := by
        intro entry hentry hturn hkey
        have hcounted : entry.checkpointTurnCount.isSome := by
          obtain ⟨row, -, -, hrow⟩ := mem_tableCheckpoints.mp (htable.symm ▸ hentry)
          obtain ⟨-, hcount, hsome⟩ := entryOfRow_eq_some hrow
          exact hcount ▸ hsome
        obtain ⟨count, hcount⟩ := Option.isSome_iff_exists.mp hcounted
        apply hfree entry hentry hturn
        rw [CheckpointEntry.key, hcount] at hkey
        exact hcount.trans (congrArg some hkey)
      refine eq_of_pairwise_rank_lt hnextOrdered ?_ (fun entry => ?_)
      · rw [hmemory]
        exact CheckpointEntry.pairwise_upsert hlength hnotIgnored hkeys hfresh
      · rw [hmemTable, hmemMemory]
        constructor
        · exact Or.imp_right (fun hentry => ⟨hentry.1, hentry.2.1⟩)
        · exact Or.imp_right (fun hentry => ⟨hentry.1, hentry.2, hfree entry hentry.1 hentry.2⟩)
  · obtain ⟨-, hmemory⟩ := memory_reverted hevent hpayload hI.known
    rw [← hreadModel] at hmemory
    constructor
    · intro _ other hother
      cases hevent.symm.trans hother
    · intro _
      refine eq_of_pairwise_rank_lt hnextOrdered ?_ (fun entry => ?_)
      · rw [hmemory]
        exact CheckpointEntry.pairwise_retain payload.turnCount hlength.le hkeys
      · rw [hturns, mem_tableCheckpoints_revertTurns hpayload, htable, hmemory,
          CheckpointEntry.mem_retain hlength.le]

theorem keepsCaptured_of_free (hP : CheckpointsAgree threadId views)
    (hfree : TakesFreeTurnCount threadId views event) : KeepsCaptured threadId views event := by
  intro payload hevent hmissing next _ entry hturn hcaptured
  have habsent : entry ∉ memoryCheckpoints threadId views.readModel :=
    fun hentry => (hfree payload hevent entry hentry).1 hturn hcaptured hmissing
  refine ⟨fun hmemory => absurd hmemory habsent, fun htable => ?_, fun hstore => ?_⟩
  · exact absurd (hP.1 ▸ htable) habsent
  · exact absurd (hP.2 ▸ hstore) habsent

/-- A thread the read model and the store know, nowhere with a checkpoint yet. -/
structure WithoutCheckpoints (threadId : ThreadId) (views : CheckpointViews) : Prop where
  known : (views.readModel.threads.find? (fun thread => thread.id = threadId)).isSome
  shown : (views.store.threadShellById threadId).map ThreadShell.id = some threadId
  memory : memoryCheckpoints threadId views.readModel = []
  store : storeCheckpoints threadId views.store = []
  turns : ∀ row ∈ views.turns.rows, row.threadId = threadId → row.checkpointTurnCount = none

omit [Collation] in
theorem WithoutCheckpoints.tracked {views : CheckpointViews}
    (h : WithoutCheckpoints threadId views) : Tracked threadId views where
  known := h.known
  shown := h.shown
  sameInStore := h.store.trans h.memory.symm
  distinctTurns := by simp [h.memory]
  rows :=
    { filled := fun row hrow hthread hcount => by simp [h.turns row hrow hthread] at hcount
      oneTurn := by
        rintro _ _ _ ⟨row, hrow, hthread, -, hcount⟩ _
        simp [h.turns row hrow hthread] at hcount }

omit [Collation] in
theorem WithoutCheckpoints.agree {views : CheckpointViews}
    (h : WithoutCheckpoints threadId views) : CheckpointsAgree threadId views := by
  refine ⟨?_, h.store.trans h.memory.symm⟩
  rw [h.memory, List.eq_nil_iff_forall_not_mem]
  intro entry hentry
  obtain ⟨row, hrow, hthread, hentry⟩ := mem_tableCheckpoints.mp hentry
  have hcount := (entryOfRow_eq_some hentry).2.2
  simp [h.turns row hrow hthread] at hcount

/-- Along a run of turn diffs and reverts the three lists are the same and keep every
captured checkpoint from its placeholders if and only if each turn diff is no placeholder
for a captured checkpoint and takes a turn count no other turn holds. -/
theorem checkpoints_agree_iff_free_turn_counts {start : CheckpointViews}
    (hstart : WithoutCheckpoints threadId start) (events : List OrchestrationEvent) :
    (Throughout (CheckpointViews.step threadId) (CheckpointsAgree threadId) start events ∧
      StepsMeet (CheckpointViews.step threadId) (KeepsCaptured threadId) start events) ↔
      StepsMeet (CheckpointViews.step threadId) (TakesFreeTurnCount threadId) start events := by
  have hiff : Throughout (CheckpointViews.step threadId) (CheckpointsAgree threadId) start events ↔
      StepsMeet (CheckpointViews.step threadId) (TakesFreeTurnCount threadId) start events :=
    throughout_iff_stepsMeet (fun _ _ _ hI h => tracked_step hI h)
      (fun _ _ _ hI hP h => checkpointsAgree_step hI hP h) hstart.tracked hstart.agree events
  constructor
  · exact fun h => hiff.mp h.1
  · intro hmeet
    have hagree := hiff.mpr hmeet
    have hkeeps : ∀ views event next, CheckpointsAgree threadId views →
        TakesFreeTurnCount threadId views event → views.step threadId event = some next →
        KeepsCaptured threadId views event :=
      fun _ _ _ hP hfree _ => keepsCaptured_of_free hP hfree
    exact ⟨hagree, hmeet.imp_of_throughout hkeeps hagree⟩

/-- Thread `t1` as created, in the read model and in the store. -/
def createdViews : CheckpointViews where
  readModel :=
    { createEmptyReadModel "2026-01-01T00:00:00.000Z" with
      threads := [threadFromCreated {
        threadId := "t1"
        projectId := "p1"
        title := "Thread"
        modelSelection := ⟨"codex", "model", none⟩
        runtimeMode := .fullAccess
        interactionMode := .default
        branch := none
        worktreePath := none
        customMetadata := none
        createdAt := "2026-01-01T00:00:00.000Z"
        updatedAt := "2026-01-01T00:00:00.000Z" }] }
  turns := .empty _
  store := writeThreadState initialEnvironmentState {
    id := "t1"
    environmentId := "local"
    codexThreadId := none
    projectId := "p1"
    title := "Thread"
    modelSelection := ⟨"codex", "model", none⟩
    runtimeMode := .fullAccess
    interactionMode := .default
    error := none
    createdAt := "2026-01-01T00:00:00.000Z"
    archivedAt := none
    updatedAt := some "2026-01-01T00:00:00.000Z"
    branch := none
    worktreePath := none
    customMetadata := none
    session := none
    latestTurn := none
    pendingSourceProposedPlan := none
    messages := []
    proposedPlans := []
    turnDiffSummaries := []
    activities := [] } none

/-- The checkpoint of turn `turnId` with the turn count and status given. -/
def turnDiffEvent (turnId : TurnId) (checkpointTurnCount : Nat)
    (status : OrchestrationCheckpointStatus) : OrchestrationEvent where
  eventId := "event"
  aggregateKind := .thread
  aggregateId := "t1"
  occurredAt := "2026-01-01T00:00:00.000Z"
  commandId := none
  causationEventId := none
  correlationId := none
  metadata := ⟨none⟩
  sequence := 1
  payload := .threadTurnDiffCompleted {
    threadId := "t1"
    turnId := turnId
    checkpointTurnCount := checkpointTurnCount
    checkpointRef := "ref"
    status := status
    files := []
    assistantMessageId := none
    completedAt := "2026-01-01T00:00:00.000Z" }

omit [Collation] in
theorem withoutCheckpoints_createdViews : WithoutCheckpoints "t1" createdViews where
  known := rfl
  shown := rfl
  memory := rfl
  store := rfl
  turns _ hrow := absurd hrow List.not_mem_nil

omit [Collation] in
/-- Two turns with turn counts of their own. -/
theorem checkpoints_agree_of_two_turns :
    letI := codePointCollation
    Throughout (CheckpointViews.step "t1") (CheckpointsAgree "t1") createdViews
      [turnDiffEvent "u1" 1 .missing, turnDiffEvent "u2" 2 .ready] := by
  let _ := codePointCollation
  have hfirst : TakesFreeTurnCount "t1" createdViews (turnDiffEvent "u1" 1 .missing) := by
    rintro payload - entry hentry
    cases hentry
  refine ((checkpoints_agree_iff_free_turn_counts withoutCheckpoints_createdViews _).mpr ?_).1
  refine (stepsMeet_cons rfl).mpr ⟨hfirst, (stepsMeet_cons rfl).mpr ⟨?_, trivial⟩⟩
  intro payload hevent entry hentry
  cases hevent
  revert entry
  decide

omit [Collation] in
/-- The turn rows take a placeholder for a captured checkpoint, and empty one turn's
checkpoint when another turn reports its turn count. -/
theorem placeholder_replaces_captured_row :
    ¬ ∀ [Collation] (start : CheckpointViews), WithoutCheckpoints "t1" start →
      Throughout (CheckpointViews.step "t1") (CheckpointsAgree "t1") start
          [turnDiffEvent "u1" 1 .ready, turnDiffEvent "u1" 1 .missing] ∨
        Throughout (CheckpointViews.step "t1") (CheckpointsAgree "t1") start
          [turnDiffEvent "u1" 1 .ready, turnDiffEvent "u2" 1 .ready] := by
  intro h
  let _ := codePointCollation
  have hplaceholder : ∃ views, exec (CheckpointViews.step "t1") createdViews
      [turnDiffEvent "u1" 1 .ready, turnDiffEvent "u1" 1 .missing] = some views ∧
      ¬ CheckpointsAgree "t1" views :=
    ⟨_, rfl, fun hagree => absurd hagree.1 (by decide)⟩
  have hconflict : ∃ views, exec (CheckpointViews.step "t1") createdViews
      [turnDiffEvent "u1" 1 .ready, turnDiffEvent "u2" 1 .ready] = some views ∧
      ¬ CheckpointsAgree "t1" views :=
    ⟨_, rfl, fun hagree => absurd hagree.1 (by decide)⟩
  rcases h createdViews withoutCheckpoints_createdViews with h | h
  · obtain ⟨views, hexec, hnot⟩ := hplaceholder
    exact hnot (h.final hexec)
  · obtain ⟨views, hexec, hnot⟩ := hconflict
    exact hnot (h.final hexec)

end Views

end GT3Code.Web
