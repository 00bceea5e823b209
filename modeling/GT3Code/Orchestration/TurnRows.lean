import Mathlib.Data.List.Induction
import GT3Code.Orchestration.ProjectionPipeline

/-! # Turn rows

What an event makes of the checkpoints in `projection_turns`: a turn diff fills one
row and empties the thread's other row of its turn count, a revert deletes rows, and
every other event leaves all turn counts where they are.
-/

namespace GT3Code.Orchestration

open GT3Code.Base GT3Code.Contracts GT3Code.Persistence

theorem turnId_checkpointTurn (turns : TurnTable) (payload : ThreadTurnDiffCompletedPayload) :
    let row := checkpointTurn (TurnTable.getByTurnId turns payload.threadId payload.turnId) payload
    row.threadId = payload.threadId ∧ row.turnId = some payload.turnId := by
  unfold checkpointTurn
  cases hfound : TurnTable.getByTurnId turns payload.threadId payload.turnId with
  | none => exact ⟨rfl, rfl⟩
  | some existing =>
    have hkey := (KeyedTable.lookup_eq_some_iff.mp hfound).2
    simp only [turnKey, Option.map_eq_some_iff, Prod.mk.injEq] at hkey
    obtain ⟨turnId, hturn, hthread, rfl⟩ := hkey
    exact ⟨hthread, hturn⟩

variable {turns : TurnTable} {row : ProjectionTurn} {payload : ThreadRevertedPayload}
  {threadId otherThread : ThreadId} {turnId : TurnId} {count : Nat} {otherTurn : Option TurnId}

theorem mem_completeTurnDiff {payload : ThreadTurnDiffCompletedPayload} :
    row ∈ (completeTurnDiff turns payload).rows ↔
      row = checkpointTurn (TurnTable.getByTurnId turns payload.threadId payload.turnId) payload ∨
      ∃ existing ∈ turns.rows, turnKey existing ≠ some (payload.threadId, payload.turnId) ∧
        row = if TurnTable.conflicts payload.threadId payload.turnId payload.checkpointTurnCount
          existing then TurnTable.withoutCheckpoint existing else existing := by
  obtain ⟨hthread, hturn⟩ := turnId_checkpointTurn turns payload
  have hkey : turnKey (checkpointTurn
      (TurnTable.getByTurnId turns payload.threadId payload.turnId) payload) =
      some (payload.threadId, payload.turnId) := by
    simp [turnKey, hthread, hturn]
  unfold completeTurnDiff TurnTable.upsertByTurnId
  rw [KeyedTable.mem_put_iff hkey, TurnTable.clearCheckpointTurnConflict, KeyedTable.rows_amend,
    List.mem_map]
  have hsame : ∀ existing : ProjectionTurn, turnKey
      (if TurnTable.conflicts payload.threadId payload.turnId payload.checkpointTurnCount existing
        then TurnTable.withoutCheckpoint existing else existing) = turnKey existing := by
    intro existing
    split <;> rfl
  constructor
  · rintro (hrow | ⟨⟨existing, hmem, rfl⟩, hne⟩)
    · exact Or.inl hrow
    · exact Or.inr ⟨existing, hmem, hsame existing ▸ hne, rfl⟩
  · rintro (hrow | ⟨existing, hmem, hne, rfl⟩)
    · exact Or.inl hrow
    · exact Or.inr ⟨⟨existing, hmem, rfl⟩, (hsame existing).symm ▸ hne⟩

theorem mem_revertTurns :
    row ∈ (revertTurns turns payload).rows ↔
      row ∈ turns.rows ∧ (row.threadId = payload.threadId → isKeptTurn payload.turnCount row = true) :=
  mem_putAll_deleteByThread ..

theorem conflicts_iff (hthread : row.threadId = threadId)
    (hkey : turnKey row ≠ some (threadId, turnId)) :
    TurnTable.conflicts threadId turnId count row = true ↔ row.checkpointTurnCount = some count := by
  have hturn : row.turnId ≠ some turnId := by
    intro heq
    exact hkey (by simp [turnKey, heq, hthread])
  simp [TurnTable.conflicts, hthread, hturn]

theorem key_of_getByTurnId {existing : ProjectionTurn}
    (h : TurnTable.getByTurnId turns threadId turnId = some existing) :
    existing.threadId = threadId ∧ existing.turnId = some turnId := by
  have hkey := (KeyedTable.lookup_eq_some_iff.mp h).2
  simp only [turnKey, Option.map_eq_some_iff, Prod.mk.injEq] at hkey
  obtain ⟨existingTurn, hturn, hthread, rfl⟩ := hkey
  exact ⟨hthread, hturn⟩

theorem getByTurnId_upsert (hthread : row.threadId = threadId) (hturn : row.turnId = some turnId)
    (other : TurnId) :
    TurnTable.getByTurnId (TurnTable.upsertByTurnId turns row) threadId other =
      if turnId = other then some row else TurnTable.getByTurnId turns threadId other := by
  have hkey : turnKey row = some (threadId, turnId) := by simp [turnKey, hturn, hthread]
  by_cases hsame : turnId = other
  · rw [if_pos hsame, ← hsame]
    exact KeyedTable.lookup_put_self hkey turns
  · rw [if_neg hsame]
    exact KeyedTable.lookup_put_of_ne (by rw [hkey]; simpa using hsame) turns

theorem getByTurnId_deletePending (turns : TurnTable) (threadId otherThread : ThreadId)
    (turnId : TurnId) :
    TurnTable.getByTurnId (TurnTable.deletePendingTurnStartByThreadId turns threadId) otherThread
      turnId = TurnTable.getByTurnId turns otherThread turnId := by
  unfold TurnTable.getByTurnId TurnTable.deletePendingTurnStartByThreadId
  rw [KeyedTable.lookup_restrict]
  cases hfound : KeyedTable.lookup (otherThread, turnId) turns with
  | none => rfl
  | some row =>
    obtain ⟨-, hturn⟩ := key_of_getByTurnId hfound
    simp [TurnTable.isPendingOf, hturn]

theorem getByTurnId_revertTurns (turns : TurnTable) (payload : ThreadRevertedPayload)
    (turnId : TurnId) :
    TurnTable.getByTurnId (revertTurns turns payload) payload.threadId turnId =
      (TurnTable.getByTurnId turns payload.threadId turnId).filter
        (isKeptTurn payload.turnCount) := by
  refine Option.ext (fun row => ?_)
  rw [Option.filter_eq_some_iff]
  unfold TurnTable.getByTurnId
  rw [KeyedTable.lookup_eq_some_iff, KeyedTable.lookup_eq_some_iff, mem_revertTurns]
  constructor
  · rintro ⟨⟨hmem, hkept⟩, hkey⟩
    refine ⟨⟨hmem, hkey⟩, hkept ?_⟩
    simp only [turnKey, Option.map_eq_some_iff, Prod.mk.injEq] at hkey
    obtain ⟨-, -, hthread, -⟩ := hkey
    exact hthread
  · rintro ⟨⟨hmem, hkey⟩, hkept⟩
    exact ⟨⟨hmem, fun _ => hkept⟩, hkey⟩

theorem state_completeTurnDiff (turns : TurnTable) (payload : ThreadTurnDiffCompletedPayload)
    (turnId : TurnId) :
    (TurnTable.getByTurnId (completeTurnDiff turns payload) payload.threadId turnId).map
        ProjectionTurn.state =
      if payload.turnId = turnId then some (if payload.status = .error then .error else .completed)
      else (TurnTable.getByTurnId turns payload.threadId turnId).map ProjectionTurn.state := by
  obtain ⟨hthread, hturn⟩ := turnId_checkpointTurn turns payload
  unfold completeTurnDiff
  rw [getByTurnId_upsert hthread hturn]
  by_cases hsame : payload.turnId = turnId
  · rw [if_pos hsame, if_pos hsame]
    rfl
  · rw [if_neg hsame, if_neg hsame]
    unfold TurnTable.getByTurnId TurnTable.clearCheckpointTurnConflict
    rw [KeyedTable.lookup_amend, Option.map_map]
    congr 1
    funext row
    show (if _ then TurnTable.withoutCheckpoint row else row).state = row.state
    split <;> rfl

def HasCheckpoint (turns : TurnTable) (threadId : ThreadId) (turnId : Option TurnId)
    (checkpointTurnCount : Nat) : Prop :=
  ∃ row ∈ turns.rows, row.threadId = threadId ∧ row.turnId = turnId ∧
    row.checkpointTurnCount = some checkpointTurnCount

def OneTurnPerCount (turns : TurnTable) (threadId : ThreadId) : Prop :=
  ∀ left right count, HasCheckpoint turns threadId left count →
    HasCheckpoint turns threadId right count → left = right

theorem hasCheckpoint_completeTurnDiff {payload : ThreadTurnDiffCompletedPayload}
    {turnId : Option TurnId} :
    HasCheckpoint (completeTurnDiff turns payload) threadId turnId count ↔
      (threadId = payload.threadId ∧ turnId = some payload.turnId ∧
        count = payload.checkpointTurnCount) ∨
      (HasCheckpoint turns threadId turnId count ∧
        (threadId = payload.threadId →
          turnId ≠ some payload.turnId ∧ count ≠ payload.checkpointTurnCount)) := by
  obtain ⟨hthread, hturn⟩ := turnId_checkpointTurn turns payload
  have hcount : ∀ existing, (checkpointTurn existing payload).checkpointTurnCount =
      some payload.checkpointTurnCount := fun _ => rfl
  constructor
  · rintro ⟨row, hrow, hrowThread, hrowTurn, hrowCount⟩
    rcases mem_completeTurnDiff.mp hrow with rfl | ⟨existing, hmem, hkey, rfl⟩
    · left
      rw [hthread] at hrowThread
      rw [hturn] at hrowTurn
      rw [hcount] at hrowCount
      exact ⟨hrowThread.symm, hrowTurn.symm, (Option.some.inj hrowCount).symm⟩
    · right
      by_cases hconflict : TurnTable.conflicts payload.threadId payload.turnId
          payload.checkpointTurnCount existing = true
      · rw [if_pos hconflict] at hrowCount
        cases hrowCount
      · rw [if_neg hconflict] at hrowThread hrowTurn hrowCount
        refine ⟨⟨existing, hmem, hrowThread, hrowTurn, hrowCount⟩, fun hsame => ⟨?_, ?_⟩⟩
        · rintro rfl
          exact hkey (by simp [turnKey, hrowTurn, hrowThread, hsame])
        · rintro rfl
          exact hconflict ((conflicts_iff (hrowThread.trans hsame) hkey).mpr hrowCount)
  · rintro (⟨rfl, rfl, rfl⟩ | ⟨⟨row, hmem, hrowThread, hrowTurn, hrowCount⟩, hother⟩)
    · exact ⟨_, mem_completeTurnDiff.mpr (Or.inl rfl), hthread, hturn, hcount _⟩
    · have hkey : turnKey row ≠ some (payload.threadId, payload.turnId) := by
        intro heq
        simp only [turnKey, Option.map_eq_some_iff, Prod.mk.injEq] at heq
        obtain ⟨rowTurnId, hrowSome, hsame, rfl⟩ := heq
        exact (hother (hrowThread.symm.trans hsame)).1 (hrowTurn.symm.trans hrowSome)
      have hfree : ¬ TurnTable.conflicts payload.threadId payload.turnId
          payload.checkpointTurnCount row = true := by
        by_cases hsame : threadId = payload.threadId
        · rw [conflicts_iff (hrowThread.trans hsame) hkey, hrowCount, Option.some.injEq]
          exact (hother hsame).2
        · simp [TurnTable.conflicts, hrowThread, hsame]
      refine ⟨row, mem_completeTurnDiff.mpr (Or.inr ⟨row, hmem, hkey, ?_⟩), hrowThread, hrowTurn,
        hrowCount⟩
      rw [if_neg hfree]

theorem hasCheckpoint_revertTurns {turnId : Option TurnId} :
    HasCheckpoint (revertTurns turns payload) threadId turnId count ↔
      HasCheckpoint turns threadId turnId count ∧
        (threadId = payload.threadId → turnId.isSome ∧ count ≤ payload.turnCount) := by
  have hkept : ∀ row : ProjectionTurn, row.turnId = turnId → row.checkpointTurnCount = some count →
      (isKeptTurn payload.turnCount row = true ↔ turnId.isSome ∧ count ≤ payload.turnCount) := by
    rintro row rfl hcount
    simp [isKeptTurn, hcount]
  constructor
  · rintro ⟨row, hrow, hthread, hturn, hcount⟩
    obtain ⟨hmem, hkeep⟩ := mem_revertTurns.mp hrow
    exact ⟨⟨row, hmem, hthread, hturn, hcount⟩,
      fun hsame => (hkept row hturn hcount).mp (hkeep (hthread.trans hsame))⟩
  · rintro ⟨⟨row, hmem, hthread, hturn, hcount⟩, hkeep⟩
    exact ⟨row, mem_revertTurns.mpr ⟨hmem, fun hsame =>
      (hkept row hturn hcount).mpr (hkeep (hthread.symm.trans hsame))⟩, hthread, hturn, hcount⟩

theorem oneTurnPerCount_completeTurnDiff (payload : ThreadTurnDiffCompletedPayload)
    (h : OneTurnPerCount turns threadId) :
    OneTurnPerCount (completeTurnDiff turns payload) threadId := by
  intro left right count hleft hright
  rcases hasCheckpoint_completeTurnDiff.mp hleft with
    ⟨hthread, hleftTurn, hleftCount⟩ | ⟨hleftHad, hleftOther⟩
  · rcases hasCheckpoint_completeTurnDiff.mp hright with ⟨-, hrightTurn, -⟩ | ⟨-, hrightOther⟩
    · exact hleftTurn.trans hrightTurn.symm
    · exact absurd hleftCount (hrightOther hthread).2
  · rcases hasCheckpoint_completeTurnDiff.mp hright with
      ⟨hthread, -, hrightCount⟩ | ⟨hrightHad, -⟩
    · exact absurd hrightCount (hleftOther hthread).2
    · exact h left right count hleftHad hrightHad

theorem oneTurnPerCount_revertTurns (payload : ThreadRevertedPayload)
    (h : OneTurnPerCount turns threadId) : OneTurnPerCount (revertTurns turns payload) threadId :=
  fun left right count hleft hright => h left right count
    (hasCheckpoint_revertTurns.mp hleft).1 (hasCheckpoint_revertTurns.mp hright).1

theorem hasCheckpoint_upsert (threadId : ThreadId) (turnId : TurnId)
    (hthread : row.threadId = threadId) (hturn : row.turnId = some turnId)
    (hcount : row.checkpointTurnCount =
      (TurnTable.getByTurnId turns threadId turnId).bind ProjectionTurn.checkpointTurnCount) :
    HasCheckpoint (TurnTable.upsertByTurnId turns row) otherThread otherTurn count ↔
      HasCheckpoint turns otherThread otherTurn count := by
  have hkey : turnKey row = some (threadId, turnId) := by simp [turnKey, hturn, hthread]
  constructor
  · rintro ⟨found, hfound, hfoundThread, hfoundTurn, hfoundCount⟩
    rcases (KeyedTable.mem_put_iff hkey).mp hfound with rfl | ⟨hmem, -⟩
    · obtain ⟨existing, hexisting, hexistingCount⟩ :=
        Option.bind_eq_some_iff.mp (hcount.symm.trans hfoundCount)
      obtain ⟨hmem, hexistingKey⟩ := KeyedTable.lookup_eq_some_iff.mp hexisting
      simp only [turnKey, Option.map_eq_some_iff, Prod.mk.injEq] at hexistingKey
      obtain ⟨existingTurn, hexistingTurn, hexistingThread, rfl⟩ := hexistingKey
      exact ⟨existing, hmem, hexistingThread.trans (hthread.symm.trans hfoundThread),
        hexistingTurn.trans (hturn.symm.trans hfoundTurn), hexistingCount⟩
    · exact ⟨found, hmem, hfoundThread, hfoundTurn, hfoundCount⟩
  · rintro ⟨found, hmem, hfoundThread, hfoundTurn, hfoundCount⟩
    by_cases hfoundKey : turnKey found = some (threadId, turnId)
    · have hlookup : TurnTable.getByTurnId turns threadId turnId = some found :=
        KeyedTable.lookup_eq_some_iff.mpr ⟨hmem, hfoundKey⟩
      simp only [turnKey, Option.map_eq_some_iff, Prod.mk.injEq] at hfoundKey
      obtain ⟨foundTurn, hfoundSome, hfoundSame, rfl⟩ := hfoundKey
      refine ⟨row, (KeyedTable.mem_put_iff hkey).mpr (Or.inl rfl), ?_, ?_, ?_⟩
      · exact hthread.trans (hfoundSame.symm.trans hfoundThread)
      · exact hturn.trans (hfoundSome.symm.trans hfoundTurn)
      · rw [hcount, hlookup]
        exact hfoundCount
    · exact ⟨found, (KeyedTable.mem_put_iff hkey).mpr (Or.inr ⟨hmem, hfoundKey⟩), hfoundThread,
        hfoundTurn, hfoundCount⟩

theorem hasCheckpoint_deletePending (threadId : ThreadId) {turnId : Option TurnId} :
    HasCheckpoint (TurnTable.deletePendingTurnStartByThreadId turns threadId) otherThread turnId
        count ↔ HasCheckpoint turns otherThread turnId count := by
  unfold TurnTable.deletePendingTurnStartByThreadId
  constructor
  · rintro ⟨row, hrow, hrest⟩
    rw [KeyedTable.rows_restrict] at hrow
    exact ⟨row, List.mem_of_mem_filter hrow, hrest⟩
  · rintro ⟨row, hmem, hthread, hturn, hcount⟩
    refine ⟨row, ?_, hthread, hturn, hcount⟩
    rw [KeyedTable.rows_restrict]
    exact List.mem_filter.mpr ⟨hmem, by simp [TurnTable.isPendingOf, hcount]⟩

theorem hasCheckpoint_replacePending {messageId : MessageId} {planThreadId : Option ThreadId}
    {planId : Option OrchestrationProposedPlanId} {requestedAt : IsoDateTime}
    {turnId : Option TurnId} :
    HasCheckpoint (TurnTable.replacePendingTurnStart turns threadId messageId planThreadId planId
        requestedAt) otherThread turnId count ↔ HasCheckpoint turns otherThread turnId count := by
  refine Iff.trans ?_ (hasCheckpoint_deletePending threadId)
  unfold TurnTable.replacePendingTurnStart HasCheckpoint
  rw [KeyedTable.rows_put, KeyedTable.putRow_of_keyless rfl]
  simp

/-! ## The latest turn after a revert -/

def checkpointPair (turn : ProjectionTurn) : Option (Nat × TurnId) :=
  turn.turnId.bind (fun turnId => turn.checkpointTurnCount.map (fun count => (count, turnId)))

/-- One step of the search for the highest checkpoint up to `turnCount`. -/
def higherCheckpoint (turnCount : Nat) (latest : Option (Nat × TurnId)) (pair : Nat × TurnId) :
    Option (Nat × TurnId) :=
  if pair.1 ≤ turnCount ∧ latest.all (fun best => best.1 < pair.1) then some pair else latest

theorem latestTurnIdAfterRevert_eq (turns : List ProjectionTurn) (turnCount : Nat) :
    latestTurnIdAfterRevert turns turnCount =
      ((turns.filterMap checkpointPair).foldl (higherCheckpoint turnCount) none).map Prod.snd := by
  unfold latestTurnIdAfterRevert
  rw [List.foldl_filterMap]
  congr 2
  funext latest turn
  cases hturn : turn.turnId with
  | none => simp [checkpointPair, hturn]
  | some turnId =>
    cases hcount : turn.checkpointTurnCount with
    | none => simp [checkpointPair, hturn, hcount]
    | some count => simp [checkpointPair, hturn, hcount, higherCheckpoint]

theorem foldl_higherCheckpoint (turnCount : Nat) (pairs : List (Nat × TurnId)) :
    (∀ best ∈ pairs.foldl (higherCheckpoint turnCount) none,
      best ∈ pairs ∧ best.1 ≤ turnCount) ∧
    ∀ pair ∈ pairs, pair.1 ≤ turnCount →
      ∃ best ∈ pairs.foldl (higherCheckpoint turnCount) none, pair.1 ≤ best.1 := by
  induction pairs using List.reverseRecOn with
  | nil => simp
  | append_singleton pairs pair ih =>
    obtain ⟨hlisted, hhighest⟩ := ih
    rw [List.foldl_append, List.foldl_cons, List.foldl_nil]
    by_cases hhigher : pair.1 ≤ turnCount ∧
        (pairs.foldl (higherCheckpoint turnCount) none).all (fun best => best.1 < pair.1) = true
    · rw [higherCheckpoint, if_pos hhigher]
      constructor
      · intro best hbest
        cases hbest
        exact ⟨by simp, hhigher.1⟩
      · intro other hother hle
        refine ⟨pair, rfl, ?_⟩
        rcases List.mem_append.mp hother with hold | hnew
        · obtain ⟨best, hbest, hbestLe⟩ := hhighest other hold hle
          have hless : best.1 < pair.1 := by
            simpa [Option.mem_def.mp hbest] using hhigher.2
          omega
        · rw [List.mem_singleton.mp hnew]
    · rw [higherCheckpoint, if_neg hhigher]
      constructor
      · intro best hbest
        obtain ⟨hmem, hle⟩ := hlisted best hbest
        exact ⟨List.mem_append_left _ hmem, hle⟩
      · intro other hother hle
        rcases List.mem_append.mp hother with hold | hnew
        · exact hhighest other hold hle
        · rw [List.mem_singleton.mp hnew] at hle ⊢
          cases hbest : pairs.foldl (higherCheckpoint turnCount) none with
          | none => exact absurd ⟨hle, by simp [hbest]⟩ hhigher
          | some best =>
            refine ⟨best, rfl, ?_⟩
            by_contra hless
            exact hhigher ⟨hle, by simp [hbest]; omega⟩

/-- The row of the thread with the highest turn count up to `turnCount`. -/
def HighestCheckpoint (turns : TurnTable) (threadId : ThreadId) (turnCount : Nat) (turnId : TurnId)
    (count : Nat) : Prop :=
  HasCheckpoint turns threadId (some turnId) count ∧ count ≤ turnCount ∧
    ∀ other otherCount, HasCheckpoint turns threadId (some other) otherCount →
      otherCount ≤ turnCount → otherCount ≤ count

theorem mem_checkpointPairs {pair : Nat × TurnId} :
    pair ∈ (TurnTable.listByThreadId turns threadId).filterMap checkpointPair ↔
      HasCheckpoint turns threadId (some pair.2) pair.1 := by
  rw [List.mem_filterMap]
  constructor
  · rintro ⟨row, hrow, hpair⟩
    obtain ⟨hmem, hthread⟩ := mem_listByThread.mp hrow
    obtain ⟨turnId, hturn, hcounted⟩ := Option.bind_eq_some_iff.mp hpair
    obtain ⟨count, hcount, rfl⟩ := Option.map_eq_some_iff.mp hcounted
    exact ⟨row, hmem, hthread, hturn, hcount⟩
  · rintro ⟨row, hmem, hthread, hturn, hcount⟩
    exact ⟨row, mem_listByThread.mpr ⟨hmem, hthread⟩, by simp [checkpointPair, hturn, hcount]⟩

theorem latestTurnIdAfterRevert_eq_some_iff {turnCount : Nat}
    (hone : OneTurnPerCount turns threadId) :
    latestTurnIdAfterRevert (TurnTable.listByThreadId turns threadId) turnCount = some turnId ↔
      ∃ count, HighestCheckpoint turns threadId turnCount turnId count := by
  obtain ⟨hlisted, hhighest⟩ := foldl_higherCheckpoint turnCount
    ((TurnTable.listByThreadId turns threadId).filterMap checkpointPair)
  rw [latestTurnIdAfterRevert_eq, Option.map_eq_some_iff]
  constructor
  · rintro ⟨best, hbest, rfl⟩
    obtain ⟨hmem, hle⟩ := hlisted best hbest
    refine ⟨best.1, mem_checkpointPairs.mp hmem, hle, fun other count hother hcount => ?_⟩
    obtain ⟨again, hagain, hbound⟩ :=
      hhighest (count, other) (mem_checkpointPairs.mpr hother) hcount
    cases hbest.symm.trans hagain
    exact hbound
  · rintro ⟨count, hhas, hle, hmax⟩
    obtain ⟨best, hbest, hbound⟩ :=
      hhighest (count, turnId) (mem_checkpointPairs.mpr hhas) hle
    obtain ⟨hmem, hbestLe⟩ := hlisted best hbest
    have hbestHas := mem_checkpointPairs.mp hmem
    have hcount : best.1 = count := by
      have := hmax best.2 best.1 hbestHas hbestLe
      omega
    have hturn := hone _ _ count (hcount ▸ hbestHas) hhas
    exact ⟨best, hbest, Option.some.inj hturn⟩

theorem highestCheckpoint_revertTurns :
    HighestCheckpoint (revertTurns turns payload) payload.threadId payload.turnCount turnId count ↔
      HighestCheckpoint turns payload.threadId payload.turnCount turnId count := by
  have hhas : ∀ other otherCount, otherCount ≤ payload.turnCount →
      (HasCheckpoint (revertTurns turns payload) payload.threadId (some other) otherCount ↔
        HasCheckpoint turns payload.threadId (some other) otherCount) := by
    intro other otherCount hle
    rw [hasCheckpoint_revertTurns]
    exact and_iff_left (fun _ => ⟨rfl, hle⟩)
  unfold HighestCheckpoint
  constructor
  · rintro ⟨hcheckpoint, hle, hmax⟩
    exact ⟨(hhas turnId count hle).mp hcheckpoint, hle, fun other otherCount hother hotherLe =>
      hmax other otherCount ((hhas other otherCount hotherLe).mpr hother) hotherLe⟩
  · rintro ⟨hcheckpoint, hle, hmax⟩
    exact ⟨(hhas turnId count hle).mpr hcheckpoint, hle, fun other otherCount hother hotherLe =>
      hmax other otherCount ((hhas other otherCount hotherLe).mp hother) hotherLe⟩

theorem row_of_hasCheckpoint (h : HasCheckpoint turns threadId (some turnId) count) :
    ∃ row, TurnTable.getByTurnId turns threadId turnId = some row ∧ row ∈ turns.rows ∧
      row.threadId = threadId ∧ row.checkpointTurnCount = some count := by
  obtain ⟨row, hmem, hthread, hturn, hcount⟩ := h
  have hkey : turnKey row = some (threadId, turnId) := by simp [turnKey, hturn, hthread]
  exact ⟨row, KeyedTable.lookup_eq_some_iff.mpr ⟨hmem, hkey⟩, hmem, hthread, hcount⟩

theorem key_runningTurn (turns : TurnTable) (threadId : ThreadId) (turnId : TurnId)
    (occurredAt : IsoDateTime) :
    (runningTurn turns threadId turnId occurredAt).threadId = threadId ∧
      (runningTurn turns threadId turnId occurredAt).turnId = some turnId := by
  cases hfound : TurnTable.getByTurnId turns threadId turnId with
  | none => simp only [runningTurn, hfound, freshTurn, and_self]
  | some existing =>
    obtain ⟨hthread, hturn⟩ := key_of_getByTurnId hfound
    simp only [runningTurn, hfound, hthread, hturn, and_self]

theorem key_messageTurn (turns : TurnTable) (turnId : TurnId)
    (payload : ThreadMessageSentPayload) :
    (messageTurn turns turnId payload).threadId = payload.threadId ∧
      (messageTurn turns turnId payload).turnId = some turnId := by
  cases hfound : TurnTable.getByTurnId turns payload.threadId turnId with
  | none => simp only [messageTurn, hfound, freshTurn, and_self]
  | some existing =>
    obtain ⟨hthread, hturn⟩ := key_of_getByTurnId hfound
    simp only [messageTurn, hfound, hthread, hturn, and_self]

theorem hasCheckpoint_runningTurn {occurredAt : IsoDateTime} :
    HasCheckpoint (TurnTable.upsertByTurnId turns (runningTurn turns threadId turnId occurredAt))
        otherThread otherTurn count ↔ HasCheckpoint turns otherThread otherTurn count := by
  obtain ⟨hthread, hturn⟩ := key_runningTurn turns threadId turnId occurredAt
  apply hasCheckpoint_upsert threadId turnId hthread hturn
  cases hfound : TurnTable.getByTurnId turns threadId turnId with
  | none => simp only [runningTurn, hfound, freshTurn, Option.bind_none]
  | some existing => simp only [runningTurn, hfound, Option.bind_some]

theorem hasCheckpoint_messageTurn {payload : ThreadMessageSentPayload} :
    HasCheckpoint (TurnTable.upsertByTurnId turns (messageTurn turns turnId payload))
        otherThread otherTurn count ↔ HasCheckpoint turns otherThread otherTurn count := by
  obtain ⟨hthread, hturn⟩ := key_messageTurn turns turnId payload
  apply hasCheckpoint_upsert payload.threadId turnId hthread hturn
  cases hfound : TurnTable.getByTurnId turns payload.threadId turnId with
  | none => simp only [messageTurn, hfound, freshTurn, Option.bind_none]
  | some existing => simp only [messageTurn, hfound, Option.bind_some]

theorem hasCheckpoint_interruptedTurn {payload : ThreadTurnInterruptRequestedPayload} :
    HasCheckpoint (TurnTable.upsertByTurnId turns (interruptedTurn turns turnId payload))
        otherThread otherTurn count ↔ HasCheckpoint turns otherThread otherTurn count := by
  cases hfound : TurnTable.getByTurnId turns payload.threadId turnId with
  | none =>
    apply hasCheckpoint_upsert payload.threadId turnId
    · simp only [interruptedTurn, hfound, freshTurn]
    · simp only [interruptedTurn, hfound, freshTurn]
    · simp only [interruptedTurn, hfound, freshTurn, Option.bind_none]
  | some existing =>
    obtain ⟨hthread, hturn⟩ := key_of_getByTurnId hfound
    apply hasCheckpoint_upsert payload.threadId turnId
    · simp only [interruptedTurn, hfound, hthread]
    · simp only [interruptedTurn, hfound, hturn]
    · simp only [interruptedTurn, hfound, Option.bind_some]

/-- An event that is neither a turn diff nor a revert of the thread leaves the thread's
turn counts where they are. -/
theorem hasCheckpoint_applyThreadTurns {event : OrchestrationEvent}
    (hdiff : ∀ payload, event.payload = .threadTurnDiffCompleted payload →
      payload.threadId ≠ threadId)
    (hrevert : ∀ payload, event.payload = .threadReverted payload → payload.threadId ≠ threadId)
    {turnId : Option TurnId} :
    HasCheckpoint (applyThreadTurnsProjection turns event) threadId turnId count ↔
      HasCheckpoint turns threadId turnId count := by
  unfold applyThreadTurnsProjection
  split
  · exact hasCheckpoint_replacePending
  · split
    · split
      · exact (hasCheckpoint_deletePending _).trans hasCheckpoint_runningTurn
      · rfl
    · rfl
  · split
    · split
      · exact hasCheckpoint_messageTurn
      · rfl
    · rfl
  · split
    · exact hasCheckpoint_interruptedTurn
    · rfl
  · rename_i payload hevent
    have hother : threadId ≠ payload.threadId := (hdiff payload hevent).symm
    rw [hasCheckpoint_completeTurnDiff]
    simp [hother]
  · rename_i payload hevent
    have hother : threadId ≠ payload.threadId := (hrevert payload hevent).symm
    rw [hasCheckpoint_revertTurns]
    simp [hother]
  · rfl

theorem oneTurnPerCount_applyThreadTurns (event : OrchestrationEvent)
    (h : OneTurnPerCount turns threadId) :
    OneTurnPerCount (applyThreadTurnsProjection turns event) threadId := by
  cases hpayload : event.payload with
  | threadTurnDiffCompleted payload =>
    simp only [applyThreadTurnsProjection, hpayload]
    exact oneTurnPerCount_completeTurnDiff payload h
  | threadReverted payload =>
    simp only [applyThreadTurnsProjection, hpayload]
    exact oneTurnPerCount_revertTurns payload h
  | _ =>
    have hsame : ∀ turnId count,
        HasCheckpoint (applyThreadTurnsProjection turns event) threadId turnId count ↔
          HasCheckpoint turns threadId turnId count :=
      fun _ _ => hasCheckpoint_applyThreadTurns (by simp [hpayload]) (by simp [hpayload])
    intro left right count hleft hright
    exact h left right count ((hsame left count).mp hleft) ((hsame right count).mp hright)

end GT3Code.Orchestration
