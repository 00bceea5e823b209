import GT3Code.Provider.ProviderService

/-! # Where a resume cursor comes from

What an adapter is started with from the persisted binding of a thread was returned for the
thread by a session or a turn of the same instance, unless an update has moved the binding to
another instance and kept the cursor.
-/

namespace GT3Code.Provider

open GT3Code.Base GT3Code.Contracts

abbrev ServiceView := View ServiceWorld ProviderOp ProviderOp.Res

abbrev ServiceEntry := Answered ProviderOp ProviderOp.Res

structure Returned (α : Type) where
  instanceId : ProviderInstanceId
  threadId : ThreadId
  value : α

/-- What is returned with a session or a turn, by the value that is taken from each. -/
def returnedBy {α : Type} (ofSession : ProviderSession → Option α)
    (ofTurn : ProviderTurnStartResult → Option α) :
    (op : ProviderOp) → op.Res → List (Returned α)
  | .startSession instanceId start, .ok session =>
    (ofSession session).toList.map fun value => ⟨instanceId, start.input.threadId, value⟩
  | .sendTurn instanceId input, .ok turn =>
    (ofTurn turn).toList.map fun value => ⟨instanceId, input.threadId, value⟩
  | .listSessions instanceId, sessions =>
    sessions.flatMap fun session =>
      (ofSession session).toList.map fun value => ⟨instanceId, session.threadId, value⟩
  | _, _ => []

def returnedIn {α : Type} (ofSession : ProviderSession → Option α)
    (ofTurn : ProviderTurnStartResult → Option α) (log : List ServiceEntry) : List (Returned α) :=
  log.flatMap fun entry => returnedBy ofSession ofTurn entry.op entry.res

def returnedCursors : List ServiceEntry → List (Returned Json) :=
  returnedIn ProviderSession.resumeCursor ProviderTurnStartResult.resumeCursor

variable (runtime : ServiceRuntime)

/-- A directory as it is read back: trimmed, as the directory of a session is already. -/
def returnedCwds : List ServiceEntry → List (Returned String) :=
  returnedIn (fun session => session.cwd.map runtime.trim) fun _ => none

/-- What was persisted and is passed to an adapter, the instance has returned for the thread. -/
structure HandedBack (instanceId : ProviderInstanceId) (start : AdapterStart)
    (log : List ServiceEntry) : Prop where
  cursor : start.cursorPersisted = true → ∀ cursor, start.input.resumeCursor = some cursor →
    isNull cursor = false → ⟨instanceId, start.input.threadId, cursor⟩ ∈ returnedCursors log
  cwd : start.cwdPersisted = true → ∀ cwd, start.input.cwd = some cwd →
    ⟨instanceId, start.input.threadId, cwd⟩ ∈ returnedCwds runtime log

/-- Every start was handed back only what its instance had returned before. -/
def Provenance (log : List ServiceEntry) : Prop :=
  ∀ earlier entry later, log = earlier ++ entry :: later → ∀ instanceId start,
    entry.op = .startSession instanceId start → HandedBack runtime instanceId start earlier

/-- An update that moves the binding to another instance carries a cursor, or finds none. -/
def CarriesCursor : ProviderOp → Prop
  | .write existing binding =>
    binding.resumeCursor.isSome ∨ ∀ row, existing = some row →
      some (bindingInstanceId row) = binding.providerInstanceId ∨ isNull row.resumeCursor = true
  | _ => True

theorem returnedIn_append {α : Type} {ofSession : ProviderSession → Option α}
    {ofTurn : ProviderTurnStartResult → Option α} (log : List ServiceEntry) (entry : ServiceEntry) :
    returnedIn ofSession ofTurn (log ++ [entry]) =
      returnedIn ofSession ofTurn log ++ returnedBy ofSession ofTurn entry.op entry.res := by
  unfold returnedIn
  rw [List.flatMap_append, List.flatMap_singleton]

variable {log : List ServiceEntry} {entry : ServiceEntry} {row : ProviderSessionRuntime}
  {op : ProviderOp} {answer : AdapterAnswer} {n : Nat} {view next : ServiceView}
  {threadId : ThreadId} {binding : ProviderRuntimeBinding} {instanceId : ProviderInstanceId}
  {session : ProviderSession} {operation : String}

theorem mem_returnedIn_of_prefix {α : Type} {ofSession : ProviderSession → Option α}
    {ofTurn : ProviderTurnStartResult → Option α} {next : List ServiceEntry} (h : log <+: next)
    {value : Returned α} (hvalue : value ∈ returnedIn ofSession ofTurn log) :
    value ∈ returnedIn ofSession ofTurn next := by
  obtain ⟨rest, rfl⟩ := h
  unfold returnedIn at hvalue ⊢
  rw [List.flatMap_append]
  exact List.mem_append_left _ hvalue

theorem provenance_append (h : Provenance runtime log)
    (hentry : ∀ instanceId start, entry.op = .startSession instanceId start →
      HandedBack runtime instanceId start log) :
    Provenance runtime (log ++ [entry]) := by
  intro earlier other later hlog
  rcases List.eq_nil_or_concat later with rfl | ⟨rest, last, rfl⟩
  · have hparts := List.append_inj' hlog rfl
    obtain ⟨rfl, hother⟩ := hparts
    cases hother
    exact hentry
  · rw [List.concat_eq_append, ← List.cons_append, ← List.append_assoc] at hlog
    have hparts := List.append_inj' hlog rfl
    exact h earlier other rest hparts.1

structure RowIssued (row : ProviderSessionRuntime) (log : List ServiceEntry) : Prop where
  cursor : isNull row.resumeCursor = false →
    ⟨bindingInstanceId row, row.threadId, row.resumeCursor⟩ ∈ returnedCursors log
  cwd : ∀ cwd, readPersistedCwd runtime row.runtimePayload = some cwd →
    ⟨bindingInstanceId row, row.threadId, cwd⟩ ∈ returnedCwds runtime log

structure Issued (view : ServiceView) : Prop where
  provenance : Provenance runtime view.log
  rows : ∀ threadId row, KeyedMap.get threadId view.world.rows = some row →
    row.threadId = threadId ∧ RowIssued runtime row view.log

/-- The rows are the same, and no more than returned values was added. -/
structure Later (view next : ServiceView) : Prop where
  rows : next.world.rows = view.world.rows
  cursors : ∀ value ∈ returnedCursors view.log, value ∈ returnedCursors next.log
  cwds : ∀ value ∈ returnedCwds runtime view.log, value ∈ returnedCwds runtime next.log

/-- Only what happens outside is relied on: it leaves the rows and the log. -/
def provenanceDiscipline :
    Discipline ServiceWorld ProviderOp ProviderOp.Res AdapterAnswer OutsideEvent where
  Inv := Issued runtime
  Rely _ view next := next.world.rows = view.world.rows ∧ next.log = view.log
  Guarantee _ _ _ := True
  Condition _ _ op _ := CarriesCursor op
  ExternalCondition _ _ := True

variable {runtime}

theorem Later.refl (view : ServiceView) : Later runtime view view :=
  ⟨rfl, fun _ h => h, fun _ h => h⟩

theorem Later.trans {first second third : ServiceView} (h : Later runtime first second)
    (hnext : Later runtime second third) : Later runtime first third where
  rows := hnext.rows.trans h.rows
  cursors value hvalue := hnext.cursors value (h.cursors value hvalue)
  cwds value hvalue := hnext.cwds value (h.cwds value hvalue)

theorem RowIssued.grow {next : List ServiceEntry} (h : RowIssued runtime row log)
    (hcursors : ∀ value ∈ returnedCursors log, value ∈ returnedCursors next)
    (hcwds : ∀ value ∈ returnedCwds runtime log, value ∈ returnedCwds runtime next) :
    RowIssued runtime row next where
  cursor hnull := hcursors _ (h.cursor hnull)
  cwd cwd hcwd := hcwds _ (h.cwd cwd hcwd)

theorem rows_of_answer {world next : ServiceWorld} {res : op.Res}
    (hop : ∀ existing binding, op ≠ .write existing binding)
    (h : answerOp world op answer = some (res, next)) : next.rows = world.rows := by
  cases op with
  | write existing binding => exact absurd rfl (hop existing binding)
  | _ => cases answer <;> cases h <;> rfl

theorem respond_eq_some {res : op.Res}
    (h : (service runtime).respond n view op answer = some (res, next)) :
    answerOp view.world op answer = some (res, next.world) ∧
      next.log = view.log ++ [{ process := n, op := op, res := res }] := by
  obtain ⟨result, hanswer, hresult⟩ := Option.map_eq_some_iff.mp h
  cases hresult
  exact ⟨hanswer, rfl⟩

theorem mem_returnedCursors_append {value : Returned Json} :
    value ∈ returnedCursors (log ++ [entry]) ↔ value ∈ returnedCursors log ∨
      value ∈ returnedBy ProviderSession.resumeCursor ProviderTurnStartResult.resumeCursor
        entry.op entry.res := by
  unfold returnedCursors
  rw [returnedIn_append, List.mem_append]

theorem mem_returnedCwds_append {value : Returned String} :
    value ∈ returnedCwds runtime (log ++ [entry]) ↔ value ∈ returnedCwds runtime log ∨
      value ∈ returnedBy (fun session => session.cwd.map runtime.trim) (fun _ => none)
        entry.op entry.res := by
  unfold returnedCwds
  rw [returnedIn_append, List.mem_append]

theorem later_respond {res : op.Res} (hop : ∀ existing binding, op ≠ .write existing binding)
    (h : (service runtime).respond n view op answer = some (res, next)) :
    Later runtime view next := by
  obtain ⟨hanswer, hlog⟩ := respond_eq_some h
  refine ⟨rows_of_answer hop hanswer, fun value hvalue => ?_, fun value hvalue => ?_⟩
  · rw [hlog]
    exact mem_returnedCursors_append.mpr (.inl hvalue)
  · rw [hlog]
    exact mem_returnedCwds_append.mpr (.inl hvalue)

theorem issued_respond {res : op.Res} (h : Issued runtime view)
    (hop : ∀ existing binding, op ≠ .write existing binding)
    (hstart : ∀ instanceId start, op = .startSession instanceId start →
      HandedBack runtime instanceId start view.log)
    (hrespond : (service runtime).respond n view op answer = some (res, next)) :
    Issued runtime next := by
  have hlater := later_respond hop hrespond
  constructor
  · rw [(respond_eq_some hrespond).2]
    exact provenance_append runtime h.provenance hstart
  · intro threadId row hrow
    rw [hlater.rows] at hrow
    obtain ⟨hthread, hissued⟩ := h.rows threadId row hrow
    exact ⟨hthread, hissued.grow hlater.cursors hlater.cwds⟩

variable (runtime) in
def Keeps {α : Type} (Q : α → ServiceView → Prop) (process : ServiceM α) (view : ServiceView) :
    Prop :=
  Safe (service runtime) (provenanceDiscipline runtime) 0 Q (fun _ _ => True) process view

variable {α β : Type} {Q : α → ServiceView → Prop}

theorem Keeps.bind {process : ServiceM α} {next : α → ServiceM β} {R : β → ServiceView → Prop}
    (h : Keeps runtime Q process view)
    (hnext : ∀ value view, Q value view → Keeps runtime R (next value) view) :
    Keeps runtime R (process >>= next) view :=
  Safe.bind h hnext

theorem Keeps.ignore {process : ServiceM α} (h : Keeps runtime Q process view) :
    Keeps runtime (fun _ _ => True) process view :=
  Safe.imp h (fun _ _ _ => trivial) fun _ _ _ => trivial

theorem keeps_perform {Q : op.Res → ServiceView → Prop}
    (hop : ∀ existing binding, op ≠ .write existing binding)
    (hstart : ∀ instanceId start, op = .startSession instanceId start →
      HandedBack runtime instanceId start view.log)
    (h : ∀ res answer next, Issued runtime next → Later runtime view next →
      (∃ world log, answerOp world op answer = some (res, next.world) ∧
        next.log = log ++ [{ process := 0, op := op, res := res }]) → Q res next) :
    Keeps runtime Q (perform op) view := by
  intro asked hrely hinv answer res next hrespond _
  have hlater : Later runtime view asked :=
    ⟨hrely.1, fun value hvalue => by rw [hrely.2]; exact hvalue,
      fun value hvalue => by rw [hrely.2]; exact hvalue⟩
  obtain ⟨hanswer, hlog⟩ := respond_eq_some hrespond
  have hissued : Issued runtime next := by
    refine issued_respond hinv hop ?_ hrespond
    intro instanceId start hstarted
    rw [hrely.2]
    exact hstart instanceId start hstarted
  exact ⟨⟨hissued, trivial⟩, h res answer next hissued
    (hlater.trans (later_respond hop hrespond)) ⟨asked.world, asked.log, hanswer, hlog⟩⟩

theorem keeps_getByThreadId {Q : _ → ServiceView → Prop}
    (h : ∀ next, Issued runtime next → Later runtime view next →
      Q (KeyedMap.get threadId next.world.rows) next) :
    Keeps runtime Q (perform (.getByThreadId threadId)) view := by
  apply keeps_perform (by intro _ _ h; cases h) (by intro _ _ h; cases h)
  intro res answer next hissued hlater hanswered
  obtain ⟨world, log, hanswer, -⟩ := hanswered
  cases answer <;> cases hanswer
  exact h next hissued hlater

theorem keeps_unread {A : ServiceView → Prop}
    (hop : ∀ existing binding, op ≠ .write existing binding)
    (hstart : ∀ instanceId start, op ≠ .startSession instanceId start)
    (hA : ∀ next, Issued runtime next → Later runtime view next → A next) :
    Keeps runtime (fun _ next => A next) (perform op) view :=
  keeps_perform hop (fun instanceId start h => absurd h (hstart instanceId start))
    fun _ _ next hissued hlater _ => hA next hissued hlater

theorem keeps_orFail {result : Except String α} (h : ∀ value, result = .ok value → Q value view) :
    Keeps runtime Q (orFail result) view := by
  cases result with
  | ok value => exact h value rfl
  | error message => trivial

variable (runtime) in
/-- What an update carries was returned by the instance it names; a directory it does not carry
is left to a row of that instance. -/
structure BindingIssued (binding : ProviderRuntimeBinding) (instanceId : ProviderInstanceId)
    (view : ServiceView) : Prop where
  providerInstanceId : binding.providerInstanceId = some instanceId
  cursor : ∀ cursor, binding.resumeCursor = some cursor → isNull cursor = false →
    ⟨instanceId, binding.threadId, cursor⟩ ∈ returnedCursors view.log
  cwd : ∀ cwd, readPersistedCwd runtime (mergeRuntimePayload
      (((KeyedMap.get binding.threadId view.world.rows).map
        ProviderSessionRuntime.runtimePayload).getD .null) binding.runtimePayload) = some cwd →
    ⟨instanceId, binding.threadId, cwd⟩ ∈ returnedCwds runtime view.log

theorem BindingIssued.later (h : BindingIssued runtime binding instanceId view)
    (hlater : Later runtime view next) : BindingIssued runtime binding instanceId next where
  providerInstanceId := h.providerInstanceId
  cursor cursor hcursor hnull := hlater.cursors _ (h.cursor cursor hcursor hnull)
  cwd cwd hcwd := by
    rw [hlater.rows] at hcwd
    exact hlater.cwds _ (h.cwd cwd hcwd)

theorem rowIssued_of_upserted {now : Nat} (hinv : Issued runtime view)
    (h : BindingIssued runtime binding instanceId view)
    (hcarries : CarriesCursor (.write (KeyedMap.get binding.threadId view.world.rows) binding))
    (hrow : Upserted (KeyedMap.get binding.threadId view.world.rows) binding now row) :
    bindingInstanceId row = instanceId ∧ RowIssued runtime row view.log := by
  have hinstance : bindingInstanceId row = instanceId := by
    unfold bindingInstanceId
    rw [hrow.providerInstanceId instanceId h.providerInstanceId]
    rfl
  refine ⟨hinstance, ?_, ?_⟩
  · intro hnull
    rw [hinstance, hrow.threadId]
    cases hcursor : binding.resumeCursor with
    | some cursor =>
      have hsame : row.resumeCursor = cursor := by
        rw [hrow.resumeCursor, hcursor, Option.getD_some]
      rw [hsame] at hnull ⊢
      exact h.cursor cursor hcursor hnull
    | none =>
      have hcopied := hrow.resumeCursor
      rw [hcursor, Option.getD_none] at hcopied
      cases hexisting : KeyedMap.get binding.threadId view.world.rows with
      | none =>
        rw [hexisting] at hcopied
        rw [hcopied] at hnull
        cases hnull
      | some existing =>
        rw [hexisting] at hcopied hcarries
        rw [hcopied] at hnull ⊢
        rcases hcarries with hsome | hkept
        · rw [hcursor] at hsome
          cases hsome
        · rcases hkept existing rfl with hnamed | hempty
          · rw [h.providerInstanceId] at hnamed
            obtain ⟨hthread, hissued⟩ := hinv.rows _ existing hexisting
            have hreturned := hissued.cursor hnull
            rw [hthread, Option.some.inj hnamed] at hreturned
            exact hreturned
          · exact absurd hempty (by rw [Option.map_some, Option.getD_some] at hnull; simp [hnull])
  · intro cwd hcwd
    rw [hinstance, hrow.threadId]
    rw [hrow.runtimePayload] at hcwd
    exact h.cwd cwd hcwd

theorem keeps_write (h : BindingIssued runtime binding instanceId view) :
    Keeps runtime
      (fun res next => res = .ok () → ∃ row,
        KeyedMap.get binding.threadId next.world.rows = some row ∧
          bindingInstanceId row = instanceId)
      (perform (.write (KeyedMap.get binding.threadId view.world.rows) binding)) view := by
  intro asked hrely hinv answer res next hrespond hcarries
  obtain ⟨hanswer, hlog⟩ := respond_eq_some hrespond
  have hasked : Later runtime view asked :=
    ⟨hrely.1, fun value hvalue => by rw [hrely.2]; exact hvalue,
      fun value hvalue => by rw [hrely.2]; exact hvalue⟩
  have hbinding := h.later hasked
  rw [← hrely.1] at hanswer hcarries
  have hprovenance : Provenance runtime next.log := by
    rw [hlog]
    exact provenance_append runtime hinv.provenance (by intro _ _ h; cases h)
  have hcursors : ∀ value ∈ returnedCursors asked.log, value ∈ returnedCursors next.log := by
    intro value hvalue
    rw [hlog]
    exact mem_returnedCursors_append.mpr (.inl hvalue)
  have hcwds : ∀ value ∈ returnedCwds runtime asked.log, value ∈ returnedCwds runtime next.log := by
    intro value hvalue
    rw [hlog]
    exact mem_returnedCwds_append.mpr (.inl hvalue)
  cases answer with
  | done =>
    cases hupsert : upsert (KeyedMap.get binding.threadId asked.world.rows) binding
        asked.world.clock with
    | error error =>
      simp only [answerOp, hupsert] at hanswer
      obtain ⟨hres, hworld⟩ := Prod.mk.inj (Option.some.inj hanswer)
      refine ⟨⟨⟨hprovenance, ?_⟩, trivial⟩, ?_⟩
      · intro threadId row hrow
        rw [← hworld] at hrow
        obtain ⟨hthread, hissued⟩ := hinv.rows threadId row hrow
        exact ⟨hthread, hissued.grow hcursors hcwds⟩
      · intro hok
        rw [← hres] at hok
        cases hok
    | ok row =>
      simp only [answerOp, hupsert] at hanswer
      obtain ⟨hres, hworld⟩ := Prod.mk.inj (Option.some.inj hanswer)
      have hupserted := upserted_of_ok hupsert
      obtain ⟨hinstance, hissued⟩ := rowIssued_of_upserted hinv hbinding hcarries hupserted
      refine ⟨⟨⟨hprovenance, ?_⟩, trivial⟩, ?_⟩
      · intro threadId other hother
        rw [← hworld] at hother
        by_cases hthread : threadId = row.threadId
        · subst hthread
          rw [KeyedMap.get_set_self] at hother
          cases hother
          exact ⟨rfl, hissued.grow hcursors hcwds⟩
        · rw [KeyedMap.get_set_of_ne hthread] at hother
          obtain ⟨hkey, hold⟩ := hinv.rows threadId other hother
          exact ⟨hkey, hold.grow hcursors hcwds⟩
      · intro _
        rw [← hworld, ← hupserted.threadId]
        exact ⟨row, KeyedMap.get_set_self _ _ _, hinstance⟩
  | _ => cases hanswer

theorem keeps_directoryUpsert (h : BindingIssued runtime binding instanceId view) :
    Keeps runtime
      (fun _ next => ∃ row, KeyedMap.get binding.threadId next.world.rows = some row ∧
        bindingInstanceId row = instanceId)
      (directoryUpsert binding) view := by
  unfold directoryUpsert
  apply Keeps.bind (keeps_getByThreadId (Q := fun existing next =>
    existing = KeyedMap.get binding.threadId next.world.rows ∧
      BindingIssued runtime binding instanceId next) fun next _ hlater => ⟨rfl, h.later hlater⟩)
  rintro existing next ⟨rfl, hbinding⟩
  apply Keeps.bind (keeps_write hbinding)
  intro res last hres
  cases res with
  | ok value => exact hres rfl
  | error error => trivial

variable (runtime) in
/-- What a session tells was returned by the instance for the thread. -/
structure SessionFrom (instanceId : ProviderInstanceId) (threadId : ThreadId)
    (session : ProviderSession) (view : ServiceView) : Prop where
  cursor : ∀ cursor, session.resumeCursor = some cursor →
    ⟨instanceId, threadId, cursor⟩ ∈ returnedCursors view.log
  cwd : ∀ cwd, session.cwd = some cwd →
    ⟨instanceId, threadId, runtime.trim cwd⟩ ∈ returnedCwds runtime view.log

theorem SessionFrom.later (h : SessionFrom runtime instanceId threadId session view)
    (hlater : Later runtime view next) :
    SessionFrom runtime instanceId threadId session next where
  cursor cursor hcursor := hlater.cursors _ (h.cursor cursor hcursor)
  cwd cwd hcwd := hlater.cwds _ (h.cwd cwd hcwd)

theorem readPersistedCwd_merge {existing : Json} {entries : List (String × Json)} :
    readPersistedCwd runtime (mergeRuntimePayload existing (some (.obj entries))) =
      (((lookupEntry "cwd" entries).or (existing.field? "cwd")).bind Json.string?).bind fun rawCwd =>
        if runtime.trim rawCwd = "" then none else some (runtime.trim rawCwd) := by
  unfold readPersistedCwd
  rw [field?_mergeRuntimePayload]

theorem bindingIssued_of_session (h : SessionFrom runtime instanceId threadId session view)
    (extra : PayloadExtra) :
    BindingIssued runtime (sessionBinding session instanceId threadId extra) instanceId view where
  providerInstanceId := rfl
  cursor cursor hcursor _ := h.cursor cursor hcursor
  cwd cwd hcwd := by
    unfold sessionBinding toRuntimePayloadFromSession at hcwd
    simp only [readPersistedCwd_merge, List.cons_append, lookupEntry_cons, if_pos, Option.some_or,
      Option.bind_some] at hcwd
    cases hsession : session.cwd with
    | none =>
      rw [hsession] at hcwd
      cases hcwd
    | some directory =>
      rw [hsession] at hcwd
      simp only [nullable, Option.map_some, Option.getD_some, Json.string?, Option.bind_some] at hcwd
      split at hcwd
      · cases hcwd
      · cases hcwd
        exact h.cwd directory hsession

def Names (threadId : ThreadId) (instanceId : ProviderInstanceId) (view : ServiceView) : Prop :=
  ∃ row, KeyedMap.get threadId view.world.rows = some row ∧ bindingInstanceId row = instanceId

theorem Names.later (h : Names threadId instanceId view) (hlater : Later runtime view next) :
    Names threadId instanceId next := by
  unfold Names
  rw [hlater.rows]
  exact h

theorem bindingIssued_of_names (hissued : Issued runtime view)
    (hnames : Names binding.threadId instanceId view)
    (hinstance : binding.providerInstanceId = some instanceId)
    (hcursor : ∀ cursor, binding.resumeCursor = some cursor →
      ⟨instanceId, binding.threadId, cursor⟩ ∈ returnedCursors view.log)
    {entries : List (String × Json)} (hpayload : binding.runtimePayload = some (.obj entries))
    (hcwd : lookupEntry "cwd" entries = none) : BindingIssued runtime binding instanceId view where
  providerInstanceId := hinstance
  cursor cursor h _ := hcursor cursor h
  cwd cwd h := by
    obtain ⟨row, hrow, hnamed⟩ := hnames
    obtain ⟨hthread, hrowIssued⟩ := hissued.rows _ row hrow
    rw [hrow, hpayload, readPersistedCwd_merge, hcwd, Option.none_or] at h
    have hreturned := hrowIssued.cwd cwd h
    rw [hnamed, hthread] at hreturned
    exact hreturned

theorem keeps_upsertSessionBinding (hinstance : session.providerInstanceId = some instanceId)
    (h : SessionFrom runtime instanceId threadId session view) (extra : PayloadExtra) :
    Keeps runtime (fun _ next => Names threadId instanceId next)
      (upsertSessionBinding session threadId extra) view := by
  unfold upsertSessionBinding
  rw [hinstance]
  exact keeps_directoryUpsert (bindingIssued_of_session h extra)

theorem keeps_getByInstance :
    Keeps runtime (fun adapter next => adapter.instanceId = instanceId ∧ view = next)
      (getByInstance runtime instanceId) view := by
  unfold getByInstance
  cases hfound : findInstance runtime instanceId with
  | none => trivial
  | some entry =>
    have hkey := List.find?_some hfound
    exact ⟨of_decide_eq_true hkey, rfl⟩

theorem keeps_startSession {start : AdapterStart}
    (hhanded : HandedBack runtime instanceId start view.log) :
    Keeps runtime
      (fun res next => Later runtime view next ∧ ∀ session, res = .ok session →
        SessionFrom runtime instanceId start.input.threadId session next)
      (perform (.startSession instanceId start)) view := by
  apply keeps_perform (by intro _ _ h; cases h) (by intro _ _ h; cases h; exact hhanded)
  intro res answer next hissued hlater hanswered
  obtain ⟨world, log, hanswer, hlog⟩ := hanswered
  refine ⟨hlater, fun session hsession => ?_⟩
  subst hsession
  constructor
  · intro cursor hcursor
    rw [hlog, mem_returnedCursors_append]
    right
    unfold returnedBy
    simp [hcursor]
  · intro cwd hcwd
    rw [hlog, mem_returnedCwds_append]
    right
    unfold returnedBy
    simp [hcwd]

theorem keeps_sendTurn {input : ProviderSendTurnInput} :
    Keeps runtime
      (fun res next => Later runtime view next ∧ ∀ turn cursor, res = .ok turn →
        turn.resumeCursor = some cursor →
          ⟨instanceId, input.threadId, cursor⟩ ∈ returnedCursors next.log)
      (perform (.sendTurn instanceId input)) view := by
  apply keeps_perform (by intro _ _ h; cases h) (by intro _ _ h; cases h)
  intro res answer next hissued hlater hanswered
  obtain ⟨world, log, hanswer, hlog⟩ := hanswered
  refine ⟨hlater, fun turn cursor hturn hcursor => ?_⟩
  subst hturn
  rw [hlog, mem_returnedCursors_append]
  right
  unfold returnedBy
  simp [hcursor]

theorem keeps_listSessions :
    Keeps runtime
      (fun sessions next => (Issued runtime next ∧ Later runtime view next) ∧
        ∀ session ∈ sessions, SessionFrom runtime instanceId session.threadId session next)
      (perform (.listSessions instanceId)) view := by
  apply keeps_perform (by intro _ _ h; cases h) (by intro _ _ h; cases h)
  intro sessions answer next hissued hlater hanswered
  obtain ⟨world, log, hanswer, hlog⟩ := hanswered
  refine ⟨⟨hissued, hlater⟩, fun session hsession => ⟨fun cursor hcursor => ?_, fun cwd hcwd => ?_⟩⟩
  · rw [hlog, mem_returnedCursors_append]
    right
    unfold returnedBy
    exact List.mem_flatMap.mpr ⟨session, hsession, by simp [hcursor]⟩
  · rw [hlog, mem_returnedCwds_append]
    right
    unfold returnedBy
    exact List.mem_flatMap.mpr ⟨session, hsession, by simp [hcwd]⟩

theorem handedBack_of_row {start : AdapterStart} (hissued : Issued runtime view)
    (hrow : KeyedMap.get start.input.threadId view.world.rows = some row)
    (hcursor : start.cursorPersisted = true → ∀ cursor, start.input.resumeCursor = some cursor →
      isNull cursor = false → cursor = row.resumeCursor)
    (hcwd : start.cwdPersisted = true → ∀ cwd, start.input.cwd = some cwd →
      readPersistedCwd runtime row.runtimePayload = some cwd) :
    HandedBack runtime (bindingInstanceId row) start view.log := by
  obtain ⟨hthread, hrowIssued⟩ := hissued.rows _ row hrow
  constructor
  · intro hpersisted cursor hpassed hnull
    have hsame := hcursor hpersisted cursor hpassed hnull
    rw [hsame] at hnull ⊢
    have hreturned := hrowIssued.cursor hnull
    rw [hthread] at hreturned
    exact hreturned
  · intro hpersisted cwd hpassed
    have hreturned := hrowIssued.cwd cwd (hcwd hpersisted cwd hpassed)
    rw [hthread] at hreturned
    exact hreturned

theorem keeps_resumeSession {adapter : ProviderInstance} (hissued : Issued runtime view)
    (hrow : KeyedMap.get row.threadId view.world.rows = some row)
    (hadapter : adapter.instanceId = bindingInstanceId row) :
    Keeps runtime (fun _ next => Names row.threadId adapter.instanceId next)
      (resumeSession runtime row adapter operation) view := by
  unfold resumeSession
  refine Keeps.bind (keeps_startSession ?_) ?_
  · rw [hadapter]
    refine handedBack_of_row hissued hrow ?_ ?_
    · intro _ cursor hcursor _
      cases hcursor
      rfl
    · exact fun _ cwd hcwd => hcwd
  · rintro res next ⟨-, hsession⟩
    apply Keeps.bind (keeps_orFail (Q := fun session next =>
      SessionFrom runtime adapter.instanceId row.threadId session next) hsession)
    intro session last hfrom
    split
    · trivial
    · refine keeps_upsertSessionBinding ?_ ?_ .none
      · rfl
      · exact ⟨hfrom.cursor, hfrom.cwd⟩

theorem keeps_recoverSessionForThread
    (hrow : KeyedMap.get row.threadId view.world.rows = some row) :
    Keeps runtime (fun _ next => Names row.threadId (bindingInstanceId row) next)
      (recoverSessionForThread runtime row operation) view := by
  unfold recoverSessionForThread
  apply Keeps.bind keeps_getByInstance
  rintro adapter _ ⟨hadapter, rfl⟩
  rw [← hadapter]
  refine Keeps.bind (keeps_unread (A := fun next => Issued runtime next ∧ Later runtime view next)
    (by intro _ _ h; cases h) (by intro _ _ h; cases h) fun next hissued hlater =>
      ⟨hissued, hlater⟩) ?_
  rintro hasActiveSession next ⟨hissued, hlater⟩
  apply Keeps.bind (Q := fun sessions last => (Issued runtime last ∧ Later runtime next last) ∧
    ∀ session ∈ sessions, SessionFrom runtime adapter.instanceId session.threadId session last)
  · unfold sessionsIfActive
    split
    · exact keeps_listSessions
    · exact ⟨⟨hissued, Later.refl next⟩, fun _ h => by cases h⟩
  · rintro sessions last ⟨⟨hissuedLast, hlast⟩, hsessions⟩
    split
    · rename_i existing hexisting
      have hkey := List.find?_some hexisting
      have hthread := of_decide_eq_true hkey
      have hfrom := hsessions existing (List.mem_of_find?_eq_some hexisting)
      rw [hthread] at hfrom
      refine keeps_upsertSessionBinding ?_ ?_ .none
      · rfl
      · exact ⟨hfrom.cursor, hfrom.cwd⟩
    · split
      · trivial
      · refine keeps_resumeSession hissuedLast ?_ hadapter
        rw [hlast.rows, hlater.rows]
        exact hrow

theorem keeps_resolveRoutableSession {allowRecovery : Bool} :
    Keeps runtime (fun routed next => Names threadId routed.adapter.instanceId next)
      (resolveRoutableSession runtime threadId operation allowRecovery) view := by
  unfold resolveRoutableSession getBinding
  refine Keeps.bind (keeps_getByThreadId (Q := fun row next => Issued runtime next ∧
    row = KeyedMap.get threadId next.world.rows) fun next hissued _ => ⟨hissued, rfl⟩) ?_
  rintro found view ⟨hissued, hfound⟩
  cases found with
  | none => trivial
  | some row =>
    have hnames : Names threadId (bindingInstanceId row) view := ⟨row, hfound.symm, rfl⟩
    obtain ⟨hthread, -⟩ := hissued.rows threadId row hfound.symm
    apply Keeps.bind keeps_getByInstance
    rintro adapter _ ⟨hadapter, rfl⟩
    rw [← hadapter] at hnames
    refine Keeps.bind (keeps_unread (A := Later runtime view) (by intro _ _ h; cases h)
      (by intro _ _ h; cases h) fun next _ hlater => hlater) ?_
    intro hasRequestedSession next hlater
    split
    · exact hnames.later hlater
    · split
      · exact hnames.later hlater
      · have hrow : KeyedMap.get row.threadId next.world.rows = some row := by
          rw [hlater.rows, hthread]
          exact hfound.symm
        refine Keeps.bind (keeps_recoverSessionForThread hrow) ?_
        intro _ last hlast
        rw [hthread, ← hadapter] at hlast
        exact hlast

/-! ## Calls -/

theorem keeps_sendTurnCall {input : ProviderSendTurnInput} :
    Keeps runtime (fun _ _ => True) (sendTurnCall runtime input) view := by
  unfold sendTurnCall
  split
  · trivial
  · apply Keeps.bind keeps_resolveRoutableSession
    intro routed view hnames
    refine Keeps.bind keeps_sendTurn ?_
    rintro res next ⟨hlater, hcursor⟩
    refine Keeps.bind (keeps_orFail (Q := fun turn view => view = next ∧ res = .ok turn)
      fun turn hturn => ⟨rfl, hturn⟩) ?_
    rintro turn _ ⟨rfl, hturn⟩
    refine Keeps.bind (keeps_unread (A := fun last => Issued runtime last ∧ Later runtime _ last)
      (by intro _ _ h; cases h) (by intro _ _ h; cases h) fun last hissued hlast =>
        ⟨hissued, hlast⟩) ?_
    rintro sentAt last ⟨hissued, hlast⟩
    refine Keeps.ignore (keeps_directoryUpsert (bindingIssued_of_names hissued
      ((hnames.later hlater).later hlast) rfl ?_ rfl ?_))
    · intro cursor hcarried
      exact hlast.cursors _ (hcursor turn cursor hturn hcarried)
    · cases input.modelSelection with
      | none => rfl
      | some selection => rfl

theorem keeps_stopSession (hissued : Issued runtime view) :
    Keeps runtime (fun _ _ => True) (stopSession runtime threadId) view := by
  have hstopped : ∀ (routed : Routed) next, Issued runtime next →
      Names threadId routed.adapter.instanceId next →
      Keeps runtime (fun _ _ => True) (directoryUpsert (stoppedBinding threadId routed.adapter))
        next := by
    intro routed next hnext hnames
    refine Keeps.ignore (keeps_directoryUpsert (bindingIssued_of_names hnext hnames rfl ?_ rfl ?_))
    · exact fun _ h => by cases h
    · rfl
  unfold stopSession
  refine Keeps.bind (Safe.inv keeps_resolveRoutableSession hissued) ?_
  rintro routed view ⟨hnames, hview⟩
  split
  · refine Keeps.bind (keeps_unread (A := fun next => Issued runtime next ∧ Later runtime view next)
      (by intro _ _ h; cases h) (by intro _ _ h; cases h) fun next hnext hlater =>
        ⟨hnext, hlater⟩) ?_
    rintro res next ⟨hnext, hlater⟩
    refine Keeps.bind (keeps_orFail (Q := fun _ last => next = last) fun _ _ => rfl) ?_
    rintro _ _ rfl
    exact hstopped routed next hnext (hnames.later hlater)
  · exact hstopped routed view hview hnames

theorem keeps_stopStaleSession {currentInstanceId : ProviderInstanceId} {entry : ProviderInstance} :
    Keeps runtime (fun _ next => Later runtime view next)
      (stopStaleSession threadId currentInstanceId entry) view := by
  unfold stopStaleSession
  split
  · exact Later.refl view
  · refine Keeps.bind (keeps_unread (A := Later runtime view) (by intro _ _ h; cases h)
      (by intro _ _ h; cases h) fun next _ hlater => hlater) ?_
    intro hasSession next hlater
    split
    · exact hlater
    · refine Keeps.bind (keeps_unread (A := Later runtime view) (by intro _ _ h; cases h)
        (by intro _ _ h; cases h) fun last _ hlast => hlater.trans hlast) ?_
      exact fun _ last hlast => hlast

theorem handedBack_effectiveStart {input : ProviderSessionStartInput} {adapter : ProviderInstance}
    (hissued : Issued runtime view) :
    HandedBack runtime adapter.instanceId
      (effectiveStart runtime input adapter (KeyedMap.get input.threadId view.world.rows))
      view.log := by
  have hrequested : ∀ cursor, (input.resumeCursor.filter fun cursor => !isNull cursor) = none →
      input.resumeCursor = some cursor → isNull cursor = true := by
    intro cursor hnone hcursor
    rw [hcursor] at hnone
    simpa [Option.filter] using hnone
  cases hsame : (KeyedMap.get input.threadId view.world.rows).filter fun row =>
      bindingInstanceId row = adapter.instanceId with
  | none =>
    constructor
    · intro hpersisted cursor hpassed hnull
      have hnone := Option.isNone_iff_eq_none.mp hpersisted
      simp only [effectiveStart, hsame, Option.map_none, Option.or_none, hnone,
        Option.none_or] at hpassed
      rw [hrequested cursor hnone hpassed] at hnull
      cases hnull
    · intro hpersisted cwd hpassed
      have hnone := Option.isNone_iff_eq_none.mp hpersisted
      simp only [effectiveStart, hsame, hnone, Option.bind_none, Option.or_none] at hpassed
      cases hpassed
  | some row =>
    obtain ⟨hrow, hnamed⟩ := Option.filter_eq_some_iff.mp hsame
    rw [← of_decide_eq_true hnamed]
    apply handedBack_of_row hissued hrow
    · intro hpersisted cursor hpassed hnull
      have hnone := Option.isNone_iff_eq_none.mp hpersisted
      simp only [effectiveStart, hsame, hnone, Option.none_or, Option.map_some,
        Option.some_or, Option.some.injEq] at hpassed
      exact hpassed.symm
    · intro hpersisted cwd hpassed
      have hnone := Option.isNone_iff_eq_none.mp hpersisted
      simp only [effectiveStart, hsame, hnone, Option.none_or, Option.bind_some] at hpassed
      exact hpassed

theorem keeps_startSessionCall {input : ProviderSessionStartInput} :
    Keeps runtime (fun _ _ => True) (startSession runtime input) view := by
  unfold startSession
  split
  · trivial
  · rename_i resolvedInstanceId _
    apply Keeps.bind keeps_getByInstance
    rintro adapter _ ⟨hadapter, rfl⟩
    split
    · trivial
    · split
      · trivial
      · refine Keeps.bind (keeps_getByThreadId (Q := fun row next => Issued runtime next ∧
          row = KeyedMap.get input.threadId next.world.rows) fun next hissued _ =>
            ⟨hissued, rfl⟩) ?_
        rintro _ next ⟨hissued, rfl⟩
        refine Keeps.bind (keeps_startSession (handedBack_effectiveStart hissued)) ?_
        rintro res next ⟨-, hsession⟩
        apply Keeps.bind (keeps_orFail (Q := fun session next =>
          SessionFrom runtime adapter.instanceId input.threadId session next) hsession)
        intro session view hfrom
        split
        · trivial
        · refine Keeps.bind (Q := fun _ next =>
            SessionFrom runtime adapter.instanceId input.threadId session next) ?_ ?_
          · apply Safe.forEach (fun _ next =>
              SessionFrom runtime adapter.instanceId input.threadId session next)
            · intro _ entry _ current _ hcurrent
              exact Safe.imp keeps_stopStaleSession (fun _ last hlast => hcurrent.later hlast)
                fun _ _ _ => trivial
            · exact hfrom
          · intro _ last hlast
            apply Keeps.ignore (Q := fun _ => Names input.threadId adapter.instanceId)
            apply keeps_upsertSessionBinding
            · rfl
            · exact ⟨hlast.cursor, hlast.cwd⟩

variable (runtime) in
/-- A listed session tells what the instance it is listed under has returned. -/
def Listed (view : ServiceView) (session : ProviderSession) : Prop :=
  ∃ instanceId, session.providerInstanceId = some instanceId ∧
    SessionFrom runtime instanceId session.threadId session view

theorem Listed.grow (h : Listed runtime view session) (hgrown : view.log <+: next.log) :
    Listed runtime next session := by
  obtain ⟨instanceId, hinstance, hfrom⟩ := h
  refine ⟨instanceId, hinstance, fun cursor hcursor => ?_, fun cwd hcwd => ?_⟩
  · exact mem_returnedIn_of_prefix hgrown (hfrom.cursor cursor hcursor)
  · exact mem_returnedIn_of_prefix hgrown (hfrom.cwd cwd hcwd)

theorem Listed.later (h : Listed runtime view session) (hlater : Later runtime view next) :
    Listed runtime next session := by
  obtain ⟨instanceId, hinstance, hfrom⟩ := h
  exact ⟨instanceId, hinstance, hfrom.later hlater⟩

theorem keeps_activeSessions (instances : List ProviderInstance) :
    Keeps runtime
      (fun sessions next => Later runtime view next ∧ ∀ session ∈ sessions,
        Listed runtime next session)
      (activeSessions instances) view := by
  induction instances generalizing view with
  | nil => exact ⟨Later.refl view, fun _ h => by cases h⟩
  | cons entry rest ih =>
    unfold activeSessions
    refine Keeps.bind keeps_listSessions ?_
    rintro sessions next ⟨⟨-, hlater⟩, hsessions⟩
    refine Keeps.bind ih ?_
    rintro others last ⟨hlast, hothers⟩
    refine ⟨hlater.trans hlast, fun session hsession => ?_⟩
    rcases List.mem_append.mp hsession with hmem | hmem
    · obtain ⟨listed, hlisted, rfl⟩ := List.mem_map.mp hmem
      have hfrom := (hsessions listed hlisted).later hlast
      exact ⟨entry.instanceId, rfl, hfrom.cursor, hfrom.cwd⟩
    · exact hothers session hmem

theorem keeps_readBindings (threadIds : List ThreadId) :
    Keeps runtime (fun _ _ => True) (readBindings threadIds) view := by
  induction threadIds generalizing view with
  | nil => trivial
  | cons threadId rest ih =>
    unfold readBindings getBinding
    refine Keeps.bind (keeps_getByThreadId (Q := fun _ _ => True) fun _ _ _ => trivial) ?_
    intro row next _
    exact Keeps.bind ih fun _ _ _ => trivial

theorem keeps_listSessionsCall : Keeps runtime (fun _ _ => True) (listSessions runtime) view := by
  unfold listSessions
  refine Keeps.bind (keeps_activeSessions runtime.instances) ?_
  rintro sessions next ⟨-, hlisted⟩
  refine Keeps.bind (keeps_unread
    (A := fun next => ∀ session ∈ sessions, Listed runtime next session)
    (by intro _ _ h; cases h) (by intro _ _ h; cases h) fun next _ hlater session hsession =>
      (hlisted session hsession).later hlater) ?_
  intro listedAt view hview
  refine Keeps.bind (Q := fun _ next => ∀ session ∈ sessions, Listed runtime next session) ?_ ?_
  · apply Safe.forEach (fun _ next => ∀ session ∈ sessions, Listed runtime next session)
    · intro finished session rest view hitems hview
      have hmem : session ∈ sessions := by
        rw [hitems]
        exact List.mem_append_right _ List.mem_cons_self
      obtain ⟨instanceId, hinstance, hfrom⟩ := hview session hmem
      have hupsert := Safe.log (fun _ _ hrely => by rw [hrely.2])
        (keeps_upsertSessionBinding hinstance hfrom
          { PayloadExtra.none with
            lastRuntimeEvent := some "provider.listSessions"
            lastRuntimeEventAt := some (runtime.toISOString listedAt) })
      have hgrow : ∀ next : ServiceView, view.log <+: next.log →
          ∀ session ∈ sessions, Listed runtime next session :=
        fun next hgrown session hsession => (hview session hsession).grow hgrown
      apply Safe.orElse (Safe.imp hupsert (fun _ next h => hgrow next h.2) fun _ _ h => h)
      exact fun _ next h => hgrow next h.2
    · exact hview
  · intro _ view _
    refine Keeps.bind (keeps_unread (A := fun _ => True) (by intro _ _ h; cases h)
      (by intro _ _ h; cases h) fun _ _ _ => trivial) ?_
    intro rows view _
    refine Keeps.bind (keeps_readBindings _) ?_
    intro bindings view _
    split
    · trivial
    · trivial

theorem provenance_lawful (runtime : ServiceRuntime) :
    Sequence.Lawful (service runtime) (provenanceDiscipline runtime) (fun _ _ => True)
      fun _ _ => True where
  refl _ := ⟨rfl, rfl⟩
  trans _ _ _ h hnext := ⟨hnext.1.trans h.1, hnext.2.trans h.2⟩
  done _ _ _ _ _ := trivial
  fail _ _ _ _ _ := trivial
  call call view hissued := by
    show Keeps runtime (fun _ _ => True) (runCall runtime call) view
    unfold runCall
    split
    · trivial
    · cases call with
      | startSession input => exact keeps_startSessionCall
      | sendTurn input => exact keeps_sendTurnCall
      | stopSession threadId => exact keeps_stopSession hissued
      | listSessions => exact keeps_listSessionsCall
  external view event world _ hissued houtside := by
    have hrows : world.rows = view.world.rows := by
      cases event with
      | sessionChanged =>
        obtain ⟨session, -, rfl⟩ := Option.map_eq_some_iff.mp houtside
        rfl
      | _ =>
        cases houtside
        rfl
    refine ⟨⟨hissued.provenance, fun threadId row hrow => ?_⟩, hrows, rfl⟩
    rw [hrows] at hrow
    exact hissued.rows threadId row hrow

def unusedWorld : ServiceWorld :=
  { rows := KeyedTable.empty _, sessions := KeyedTable.empty _, clock := 0
    activeTurns := KeyedTable.empty _ }

abbrev CallSequence := Sequence ServiceWorld ProviderOp ProviderOp.Res ServiceError

abbrev CallAction := SequenceAction AdapterAnswer ServiceCall OutsideEvent

/-- Every update of the step that moves the binding to another instance carries a cursor. -/
def MovesCarryCursor (state : CallSequence) : CallAction → Prop
  | .advance _ => ∀ op rest, state.current = .ask op rest → CarriesCursor op
  | _ => True

/-- In every sequence of calls whose moves to another instance carry a cursor, what is passed on
of the binding was returned by the instance it is passed to. -/
theorem provenance_throughout (runtime : ServiceRuntime) {actions : List CallAction}
    (hmeet : StepsMeet (Sequence.step (service runtime)) MovesCarryCursor
      (Sequence.initial unusedWorld) actions) :
    Throughout (Sequence.step (service runtime)) (fun state => Provenance runtime state.view.log)
      (Sequence.initial unusedWorld) actions := by
  have hissued : Issued runtime { world := unusedWorld, log := [] } := by
    constructor
    · intro earlier entry later hlog
      cases earlier <;> cases hlog
    · exact fun _ _ h => by cases h
  have hmeets : StepsMeet (Sequence.step (service runtime))
      (Sequence.Meets (provenanceDiscipline runtime)) (Sequence.initial unusedWorld) actions := by
    apply hmeet.imp
    intro state action hcarries
    cases action with
    | call call => trivial
    | advance answer => exact hcarries
    | external event => trivial
  have hsound := Sequence.sound_throughout (provenance_lawful runtime) hissued trivial hmeets
  exact hsound.imp fun state h => h.inv.provenance

instance : ∀ op, Decidable (CarriesCursor op)
  | .write existing binding =>
    match existing with
    | none => isTrue (.inr fun _ h => nomatch h)
    | some row =>
      decidable_of_iff (binding.resumeCursor.isSome ∨
        some (bindingInstanceId row) = binding.providerInstanceId ∨
          isNull row.resumeCursor = true)
        (or_congr_right ⟨fun h other hother => by cases hother; exact h, fun h => h row rfl⟩)
  | .getByThreadId _ | .listRows | .now | .hasSession _ _ | .listSessions _ | .startSession _ _
  | .stopSession _ _ | .sendTurn _ _ | .getActiveTurn _ => isTrue trivial

instance (state : CallSequence) : ∀ action, Decidable (MovesCarryCursor state action)
  | .advance _ =>
    match h : state.current with
    | .ask op rest => decidable_of_iff (CarriesCursor op)
        ⟨fun hop other _ hother => by rw [h] at hother; cases hother; exact hop,
          fun hall => hall op rest h⟩
    | .done _ => isTrue fun _ _ hother => by rw [h] at hother; cases hother
    | .fail _ => isTrue fun _ _ hother => by rw [h] at hother; cases hother
  | .call _ => isTrue trivial
  | .external _ => isTrue trivial

def twoInstances : ServiceRuntime :=
  { instances :=
      [{ instanceId := "codex", driverKind := "codex", enabled := true },
       { instanceId := "codex_work", driverKind := "codex", enabled := true }]
    trim := fun text => text
    toISOString := fun _ => "1970-01-01T00:00:00.000Z"
    isModelSelection := fun _ => false }

def startCall (instanceId : ProviderInstanceId) : ServiceCall :=
  .startSession
    { threadId := "thread-1", provider := none, providerInstanceId := some instanceId, cwd := none
      modelSelection := none, resumeCursor := none, runtimeMode := .fullAccess }

def sessionWith (resumeCursor : Option Json) : AdapterAnswer :=
  .session
    { provider := "codex", providerInstanceId := none, status := .ready, runtimeMode := .fullAccess
      pid := none, cwd := none, model := none, threadId := "thread-1", resumeCursor := resumeCursor
      activeTurnId := none, createdAt := "", updatedAt := "", lastError := none }

/-- A session of the first instance is lost, and its turn resumes it. -/
def resumedRun : List CallAction :=
  [.call (startCall "codex"), .advance .done, .advance (sessionWith (some (.str "cursor-1"))),
   .advance .done, .advance .done, .advance .done,
   .external (.sessionExited "codex" "thread-1"),
   .call (.sendTurn
    { threadId := "thread-1", input := some "go on", attachments := [], modelSelection := none }),
   .advance .done, .advance .done, .advance .done, .advance (sessionWith none)]

theorem provenance_resumed :
    Throughout (Sequence.step (service twoInstances))
      (fun state => Provenance twoInstances state.view.log) (Sequence.initial unusedWorld)
      resumedRun :=
  provenance_throughout twoInstances (by decide +kernel)

/-- The thread moves to the other instance, whose session has no cursor, and starts there anew. -/
def movedRun : List CallAction :=
  [.call (startCall "codex"), .advance .done, .advance (sessionWith (some (.str "cursor-1"))),
   .advance .done, .advance .done, .advance .done,
   .call (startCall "codex_work"), .advance .done, .advance (sessionWith none), .advance .done,
   .advance .done, .advance .done, .advance .done,
   .call (startCall "codex_work"), .advance .done, .advance (sessionWith none)]

/-- The cursor of one instance is passed to another. -/
theorem not_provenance_throughout :
    ¬ ∀ (runtime : ServiceRuntime) (actions : List CallAction),
      Throughout (Sequence.step (service runtime)) (fun state => Provenance runtime state.view.log)
        (Sequence.initial unusedWorld) actions := by
  intro h
  have hfinal := (h twoInstances movedRun).final rfl
  have hhanded := hfinal _ _ [] (List.dropLast_append_getLast (List.cons_ne_nil _ _)).symm _ _ rfl
  have hreturned := hhanded.cursor rfl (.str "cursor-1") rfl rfl
  change _ ∈ [(⟨"codex", "thread-1", .str "cursor-1"⟩ : Returned Json)] at hreturned
  have hsame := congrArg Returned.instanceId (List.mem_singleton.mp hreturned)
  exact absurd hsame (by decide)

end GT3Code.Provider
