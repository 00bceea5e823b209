import Mathlib.Data.Multiset.Filter
import GT3Code.Base.Runs
import GT3Code.Persistence.ProjectionTables

/-! # Full-text index of the messages

`projection_thread_messages` beside `messages_fts`, which stores no text of its own:
an entry leaves it only where the row id and the text it was indexed under are given
again. The repository keeps the two together by hand. A read before the write says
what is indexed, a read after it says what to index.
-/

namespace GT3Code.Persistence

open GT3Code.Base GT3Code.Contracts

/-- What is indexed of a row: `rowid` and `text` of `messages_fts`. -/
structure IndexRow where
  rowId : Nat
  text : String
  deriving DecidableEq

/-- A row of `projection_thread_messages` with its `AUTOINCREMENT` key. -/
structure StoredMessage where
  rowId : Nat
  message : ProjectionThreadMessage

def StoredMessage.indexRow (stored : StoredMessage) : IndexRow :=
  ⟨stored.rowId, stored.message.text⟩

/-- `message_id TEXT NOT NULL UNIQUE`. -/
abbrev StoredMessageTable := KeyedTable (fun stored : StoredMessage => some stored.message.messageId)

/-- The index's `'delete'` command. Of an entry that is not there nothing is said. -/
class FullTextIndex where
  delete : IndexRow → Multiset IndexRow → Multiset IndexRow
  delete_of_mem : ∀ (entry : IndexRow) (entries : Multiset IndexRow),
    entry ∈ entries → delete entry entries = entries.erase entry

structure MessageStorage where
  messages : StoredMessageTable
  messagesFts : Multiset IndexRow
  rowIds : (messages.rows.map StoredMessage.rowId).Nodup

def indexRows (messages : StoredMessageTable) : Multiset IndexRow :=
  messages.rows.map StoredMessage.indexRow

/-- The index holds an entry for each row, under its row id and text, and nothing else. -/
def Mirrors (storage : MessageStorage) : Prop :=
  storage.messagesFts = indexRows storage.messages

instance (storage : MessageStorage) : Decidable (Mirrors storage) :=
  inferInstanceAs (Decidable (storage.messagesFts = indexRows storage.messages))

def ensureProjectionFts (messages : StoredMessageTable)
    (rowIds : (messages.rows.map StoredMessage.rowId).Nodup) : MessageStorage :=
  ⟨messages, indexRows messages, rowIds⟩

theorem mirrors_ensureProjectionFts (messages : StoredMessageTable)
    (rowIds : (messages.rows.map StoredMessage.rowId).Nodup) :
    Mirrors (ensureProjectionFts messages rowIds) := rfl

inductive IndexRowError where
  | sqlError
  | noSuchElement

/-- `SELECT row_id, text ... WHERE message_id = ?`, which SQLite may refuse. -/
def getProjectionThreadMessageIndexRow (fails : Bool) (messageId : MessageId)
    (messages : StoredMessageTable) : Except IndexRowError IndexRow :=
  if fails then .error .sqlError
  else
    match messages.lookup messageId with
    | none => .error .noSuchElement
    | some stored => .ok stored.indexRow

/-- `Effect.orElseSucceed(() => null)`: the refused read too is no row. -/
def getProjectionThreadMessageIndexRowOrNull (fails : Bool) (messageId : MessageId)
    (messages : StoredMessageTable) : Option IndexRow :=
  (getProjectionThreadMessageIndexRow fails messageId messages).toOption

/-- The row the upsert leaves: the key of the row it replaces, else the new one. -/
def writtenMessage (newRowId : Nat) (row : ProjectionThreadMessage)
    (existing : Option StoredMessage) : StoredMessage where
  rowId := (existing.map StoredMessage.rowId).getD newRowId
  message :=
    { row with
      attachments := row.attachments.orElse
        (fun _ => existing.bind (fun stored => stored.message.attachments)) }

/-- `INSERT ... ON CONFLICT (message_id) DO UPDATE`. -/
def upsertProjectionThreadMessageRow (newRowId : Nat) (row : ProjectionThreadMessage)
    (messages : StoredMessageTable) : StoredMessageTable :=
  messages.put (writtenMessage newRowId row (messages.lookup row.messageId))

def RowIdFree (newRowId : Nat) (messageId : MessageId) (messages : StoredMessageTable) : Prop :=
  messages.lookup messageId = none → ∀ stored ∈ messages.rows, stored.rowId ≠ newRowId

instance (newRowId : Nat) (messageId : MessageId) (messages : StoredMessageTable) :
    Decidable (RowIdFree newRowId messageId messages) :=
  inferInstanceAs (Decidable (messages.lookup messageId = none → _))

theorem lookup_upsertProjectionThreadMessageRow (newRowId : Nat) (row : ProjectionThreadMessage)
    (messages : StoredMessageTable) :
    (upsertProjectionThreadMessageRow newRowId row messages).lookup row.messageId =
      some (writtenMessage newRowId row (messages.lookup row.messageId)) := by
  rw [KeyedTable.lookup_eq_some_iff, upsertProjectionThreadMessageRow, KeyedTable.rows_put]
  exact ⟨KeyedTable.mem_putRow_self _ _, rfl⟩

variable {newRowId : Nat} {row : ProjectionThreadMessage} {messages : StoredMessageTable}

theorem rows_upsert_of_none (h : messages.lookup row.messageId = none) :
    (upsertProjectionThreadMessageRow newRowId row messages).rows =
      messages.rows ++ [writtenMessage newRowId row none] := by
  rw [upsertProjectionThreadMessageRow, h, KeyedTable.rows_put]
  exact KeyedTable.putRow_of_fresh (KeyedTable.lookup_eq_none_iff.mp h)

theorem rows_upsert_of_some {newRowId : Nat} {row : ProjectionThreadMessage}
    {messages : StoredMessageTable} {existing : StoredMessage}
    (h : messages.lookup row.messageId = some existing) :
    ∃ before after, messages.rows = before ++ existing :: after ∧
      (upsertProjectionThreadMessageRow newRowId row messages).rows =
        before ++ writtenMessage newRowId row (some existing) :: after := by
  rw [upsertProjectionThreadMessageRow, h]
  exact KeyedTable.rows_put_of_lookup h rfl

theorem rowIds_upsert (hrowIds : (messages.rows.map StoredMessage.rowId).Nodup)
    (hfree : RowIdFree newRowId row.messageId messages) :
    ((upsertProjectionThreadMessageRow newRowId row messages).rows.map
      StoredMessage.rowId).Nodup := by
  cases h : messages.lookup row.messageId with
  | none =>
    have hfresh : newRowId ∉ messages.rows.map StoredMessage.rowId := by
      intro hmem
      obtain ⟨stored, hstored, hid⟩ := List.mem_map.mp hmem
      exact hfree h stored hstored hid
    rw [rows_upsert_of_none h, List.map_append]
    exact List.nodup_append_comm.mp (List.nodup_cons.mpr ⟨hfresh, hrowIds⟩)
  | some existing =>
    obtain ⟨before, after, hrows, hnext⟩ := @rows_upsert_of_some newRowId _ _ _ h
    rw [hrows, List.map_append, List.map_cons] at hrowIds
    rw [hnext, List.map_append, List.map_cons]
    exact hrowIds

theorem indexRows_upsert_of_none (h : messages.lookup row.messageId = none) :
    indexRows (upsertProjectionThreadMessageRow newRowId row messages) =
      (writtenMessage newRowId row none).indexRow ::ₘ indexRows messages := by
  rw [indexRows, rows_upsert_of_none h, List.map_append]
  exact Multiset.coe_eq_coe.mpr List.perm_append_comm

theorem indexRows_upsert_of_some {existing : StoredMessage}
    (h : messages.lookup row.messageId = some existing) :
    indexRows (upsertProjectionThreadMessageRow newRowId row messages) =
      (writtenMessage newRowId row (some existing)).indexRow ::ₘ
        (indexRows messages).erase existing.indexRow := by
  obtain ⟨before, after, hrows, hnext⟩ := @rows_upsert_of_some newRowId _ _ _ h
  have hold : indexRows messages = existing.indexRow ::ₘ
      ((before ++ after).map StoredMessage.indexRow : List IndexRow) := by
    rw [indexRows, hrows, List.map_append, List.map_cons, List.map_append, Multiset.cons_coe]
    exact Multiset.coe_eq_coe.mpr List.perm_middle
  rw [hold, Multiset.erase_cons_head, indexRows, hnext, List.map_append, List.map_cons,
    List.map_append, Multiset.cons_coe]
  exact Multiset.coe_eq_coe.mpr List.perm_middle

theorem mem_indexRows_of_lookup {messageId : MessageId} {stored : StoredMessage}
    (h : messages.lookup messageId = some stored) : stored.indexRow ∈ indexRows messages :=
  Multiset.mem_coe.mpr (List.mem_map_of_mem (KeyedTable.mem_of_lookup h).1)

structure UpsertAnswers where
  existingReadFails : Bool
  newRowId : Nat
  syncReadFails : Bool

inductive RepositoryCall where
  | upsert (row : ProjectionThreadMessage) (answers : UpsertAnswers)
  | deleteByThreadId (threadId : ThreadId)

section Calls

variable [FullTextIndex]

def deleteProjectionThreadMessageFtsRow (indexedRow : IndexRow)
    (messagesFts : Multiset IndexRow) : Multiset IndexRow :=
  FullTextIndex.delete indexedRow messagesFts

def insertProjectionThreadMessageFtsRow (indexedRow : IndexRow)
    (messagesFts : Multiset IndexRow) : Multiset IndexRow :=
  indexedRow ::ₘ messagesFts

/-- `INSERT ... SELECT 'delete', row_id, text ... WHERE thread_id = ?`. -/
def deleteProjectionThreadMessageFtsByThreadId (threadId : ThreadId)
    (storage : MessageStorage) : Multiset IndexRow :=
  (storage.messages.rows.filter (fun stored => stored.message.threadId = threadId)).foldl
    (fun messagesFts stored => FullTextIndex.delete stored.indexRow messagesFts)
    storage.messagesFts

/-- The index once the entry of the row about to be replaced is taken out. -/
def clearExisting (fails : Bool) (messageId : MessageId) (storage : MessageStorage) :
    Multiset IndexRow :=
  match getProjectionThreadMessageIndexRowOrNull fails messageId storage.messages with
  | none => storage.messagesFts
  | some existingIndexRow => deleteProjectionThreadMessageFtsRow existingIndexRow storage.messagesFts

/-- `upsert`, defined where it succeeds. -/
def MessageStorage.upsert (row : ProjectionThreadMessage) (answers : UpsertAnswers)
    (storage : MessageStorage) : Option MessageStorage :=
  if hfree : RowIdFree answers.newRowId row.messageId storage.messages then
    let cleared := clearExisting answers.existingReadFails row.messageId storage
    let messages := upsertProjectionThreadMessageRow answers.newRowId row storage.messages
    match getProjectionThreadMessageIndexRow answers.syncReadFails row.messageId messages with
    | .error _ => none
    | .ok indexedRow =>
      some ⟨messages, insertProjectionThreadMessageFtsRow indexedRow cleared,
        rowIds_upsert storage.rowIds hfree⟩
  else none

def MessageStorage.deleteByThreadId (threadId : ThreadId) (storage : MessageStorage) :
    MessageStorage where
  messages := deleteByThread (fun stored => stored.message.threadId) storage.messages threadId
  messagesFts := deleteProjectionThreadMessageFtsByThreadId threadId storage
  rowIds := storage.rowIds.sublist (List.filter_sublist.map StoredMessage.rowId)

def MessageStorage.call (storage : MessageStorage) : RepositoryCall → Option MessageStorage
  | .upsert row answers => storage.upsert row answers
  | .deleteByThreadId threadId => some (storage.deleteByThreadId threadId)

/-! ## What a call leaves in the index -/

variable {storage next : MessageStorage}

variable {row : ProjectionThreadMessage} {answers : UpsertAnswers} {messageId : MessageId}

theorem upsert_spec (h : storage.upsert row answers = some next) :
    next.messages = upsertProjectionThreadMessageRow answers.newRowId row storage.messages ∧
      next.messagesFts =
        (writtenMessage answers.newRowId row (storage.messages.lookup row.messageId)).indexRow ::ₘ
          clearExisting answers.existingReadFails row.messageId storage := by
  unfold MessageStorage.upsert at h
  split at h
  · simp only [getProjectionThreadMessageIndexRow, lookup_upsertProjectionThreadMessageRow] at h
    cases hfails : answers.syncReadFails with
    | true => simp [hfails] at h
    | false =>
      simp only [hfails, Bool.false_eq_true, if_false, Option.some.injEq] at h
      subst h
      exact ⟨rfl, rfl⟩
  · cases h

def ReadsIndexRow (storage : MessageStorage) : RepositoryCall → Prop
  | .upsert row answers =>
    answers.existingReadFails = true → storage.messages.lookup row.messageId = none
  | .deleteByThreadId _ => True

instance (storage : MessageStorage) : ∀ call, Decidable (ReadsIndexRow storage call)
  | .upsert row answers => inferInstanceAs
      (Decidable (answers.existingReadFails = true → storage.messages.lookup row.messageId = none))
  | .deleteByThreadId _ => isTrue trivial

theorem clearExisting_of_none {fails : Bool} (h : storage.messages.lookup messageId = none) :
    clearExisting fails messageId storage = storage.messagesFts := by
  unfold clearExisting getProjectionThreadMessageIndexRowOrNull getProjectionThreadMessageIndexRow
  rw [h]
  cases fails <;> rfl

theorem clearExisting_of_failed (messageId : MessageId) (storage : MessageStorage) :
    clearExisting true messageId storage = storage.messagesFts := rfl

theorem clearExisting_of_some {existing : StoredMessage} (hmirrors : Mirrors storage)
    (h : storage.messages.lookup messageId = some existing) :
    clearExisting false messageId storage = storage.messagesFts.erase existing.indexRow := by
  have hread : getProjectionThreadMessageIndexRowOrNull false messageId storage.messages =
      some existing.indexRow := by
    unfold getProjectionThreadMessageIndexRowOrNull getProjectionThreadMessageIndexRow
    rw [h]
    rfl
  unfold clearExisting
  rw [hread]
  exact FullTextIndex.delete_of_mem _ _ (hmirrors ▸ mem_indexRows_of_lookup h)

/-- An upsert keeps the index in step exactly where it reads the row it replaces. The
entry it leaves behind otherwise is one too many. -/
theorem mirrors_upsert_iff (hmirrors : Mirrors storage)
    (h : storage.upsert row answers = some next) :
    Mirrors next ↔ ReadsIndexRow storage (.upsert row answers) := by
  obtain ⟨hmessages, hfts⟩ := upsert_spec h
  rw [Mirrors, hmessages, hfts, ReadsIndexRow]
  cases hlookup : storage.messages.lookup row.messageId with
  | none =>
    rw [indexRows_upsert_of_none hlookup, Multiset.cons_inj_right, clearExisting_of_none hlookup]
    exact iff_of_true hmirrors (fun _ => rfl)
  | some existing =>
    rw [indexRows_upsert_of_some hlookup, Multiset.cons_inj_right]
    cases hfails : answers.existingReadFails with
    | false =>
      simp only [clearExisting_of_some hmirrors hlookup, Bool.false_eq_true, false_implies,
        iff_true]
      exact congrArg (Multiset.erase · existing.indexRow) hmirrors
    | true =>
      rw [clearExisting_of_failed]
      simp only [reduceCtorEq, imp_false, not_true_eq_false, iff_false]
      intro heq
      have hmem := mem_indexRows_of_lookup hlookup
      have hcard := congrArg Multiset.card (hmirrors.symm.trans heq)
      rw [Multiset.card_erase_of_mem hmem] at hcard
      have hpos := Multiset.card_pos_iff_exists_mem.mpr ⟨_, hmem⟩
      exact absurd hcard (by rw [Nat.pred_eq_sub_one]; omega)

theorem foldl_delete {rows : List StoredMessage} {entries : Multiset IndexRow}
    (h : ((rows.map StoredMessage.indexRow : List IndexRow) : Multiset IndexRow) ≤ entries) :
    rows.foldl (fun messagesFts stored => FullTextIndex.delete stored.indexRow messagesFts)
        entries =
      entries - (rows.map StoredMessage.indexRow : List IndexRow) := by
  induction rows generalizing entries with
  | nil => exact (Multiset.sub_zero entries).symm
  | cons stored rest ih =>
    rw [List.map_cons, ← Multiset.cons_coe] at h
    have hmem : stored.indexRow ∈ entries :=
      Multiset.mem_of_le h (Multiset.mem_cons_self _ _)
    have hrest : ((rest.map StoredMessage.indexRow : List IndexRow) : Multiset IndexRow) ≤
        entries.erase stored.indexRow := by
      have herase := Multiset.erase_le_erase stored.indexRow h
      rwa [Multiset.erase_cons_head] at herase
    rw [List.foldl_cons, FullTextIndex.delete_of_mem _ _ hmem, ih hrest, List.map_cons,
      ← Multiset.cons_coe, Multiset.sub_cons]

theorem mirrors_deleteByThreadId (hmirrors : Mirrors storage) (threadId : ThreadId) :
    Mirrors (storage.deleteByThreadId threadId) := by
  let inThread : StoredMessage → Bool := fun stored => stored.message.threadId = threadId
  have hsplit : indexRows storage.messages =
      ((storage.messages.rows.filter inThread).map StoredMessage.indexRow : List IndexRow) +
        indexRows (storage.deleteByThreadId threadId).messages := by
    have hperm := (List.filter_append_perm inThread storage.messages.rows).map
      StoredMessage.indexRow
    rw [List.map_append] at hperm
    have hrest : (storage.deleteByThreadId threadId).messages.rows =
        storage.messages.rows.filter (fun stored => !inThread stored) := by
      refine List.filter_congr (fun stored _ => ?_)
      exact decide_not
    rw [indexRows, indexRows, hrest, Multiset.coe_add]
    exact (Multiset.coe_eq_coe.mpr hperm).symm
  have hle : (((storage.messages.rows.filter inThread).map StoredMessage.indexRow :
      List IndexRow) : Multiset IndexRow) ≤ storage.messagesFts := by
    rw [hmirrors, hsplit]
    exact Multiset.le_add_right _ _
  calc (storage.deleteByThreadId threadId).messagesFts
      = storage.messagesFts -
          ((storage.messages.rows.filter inThread).map StoredMessage.indexRow : List IndexRow) :=
        foldl_delete hle
    _ = indexRows (storage.deleteByThreadId threadId).messages := by
        rw [hmirrors, hsplit, Multiset.add_comm, Multiset.add_sub_cancel_right]

theorem mirrors_call_iff {call : RepositoryCall} (hmirrors : Mirrors storage)
    (h : storage.call call = some next) : Mirrors next ↔ ReadsIndexRow storage call := by
  cases call with
  | upsert row answers => exact mirrors_upsert_iff hmirrors h
  | deleteByThreadId threadId =>
    cases h
    exact iff_of_true (mirrors_deleteByThreadId hmirrors threadId) trivial

end Calls

/-- The index that takes out an entry given as it was indexed, and nothing otherwise. -/
@[reducible] def erasingIndex : FullTextIndex where
  delete entry entries := entries.erase entry
  delete_of_mem _ _ _ := rfl

def indexedMessage (threadId : ThreadId) (text : String) : ProjectionThreadMessage where
  messageId := "message-1"
  threadId := threadId
  turnId := none
  role := .user
  text := text
  attachments := none
  isStreaming := false
  createdAt := "2026-01-01T00:00:00.000Z"
  updatedAt := "2026-01-01T00:00:00.000Z"

end GT3Code.Persistence
