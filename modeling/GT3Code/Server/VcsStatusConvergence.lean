import GT3Code.Base.Announcements
import GT3Code.Base.LastWrite
import GT3Code.Server.VcsStatusBroadcaster

/-! # Convergence of VCS status subscribers

Each part of the status is a cell: the cache is its value, streams are its readers,
and an operation between its update and its publish has an announcement to make. A
stream shows the cached status at the end as long as what is written without a publish,
published late or never published cannot leave it behind.
-/

namespace GT3Code.Server

open GT3Code.Base GT3Code.Base.Json GT3Code.Contracts

def CachedVcsStatus.shown (cache : CachedVcsStatus) : StatusPart → Option StatusValue
  | .loc => cache.localValue.map .loc
  | .remote => some (.remote cache.remoteValue)

def carried? (part : StatusPart) : VcsStatusStreamEvent → Option StatusValue
  | .snapshot loc remote =>
    match part with
    | .loc => some (.loc loc)
    | .remote => some (.remote remote)
  | .localUpdated loc => if part = .loc then some (.loc loc) else none
  | .remoteUpdated remote => if part = .remote then some (.remote remote) else none

def StreamStage.read (part : StatusPart) : StreamStage → Option StatusValue
  | .readRemote loc => if part = .loc then some (.loc loc) else none
  | .retain loc remote => carried? part (.snapshot loc remote)
  | _ => none

/-- What the client shows of the part once it was sent everything in the queue. -/
def StatusStream.known (part : StatusPart) (stream : StatusStream) : Option StatusValue :=
  match stream.stage with
  | .idle => none
  | .streaming => lastWrite (carried? part) (stream.received ++ stream.queue)
  | stage => (lastWrite (carried? part) stream.queue).or (stage.read part)

def unpublished (part : StatusPart) : List Instruction → Option StatusValue
  | .publish value :: _ => if value.part = part then some value else none
  | _ => none

namespace BroadcasterState

def cell (state : BroadcasterState) (part : StatusPart) : Cell Nat Writer StatusValue where
  value := state.cache.shown part
  known := fun i => (state.streams i).known part
  pending := fun writer => unpublished part (state.code writer)

def Listens (state : BroadcasterState) (i : Nat) : Prop := (state.streams i).stage ≠ .idle

/-- Values written without a publish, outdated values that are published and operations that end
between their update and their publish leave no subscriber behind. -/
def Announced (state : BroadcasterState) : BroadcasterAction → Prop
  | .run writer =>
    match state.code writer with
    | .update value false :: _ => (state.cell value.part).MayWrite value
    | .publish value :: _ => (state.cell value.part).MayPublish writer state.Listens value
    | _ => True
  | .advance i =>
    match (state.streams i).stage with
    | .updateLocal loc => (state.cell .loc).MayWrite (.loc loc)
    | _ => True
  | .interrupt id => ∀ part, (state.cell part).MayDrop (.request id)
  | .close i => ∀ part, ((state.cell part).forget i).MayDrop .poller
  | _ => True

end BroadcasterState

theorem applyGitStatusStreamEvent_merge (loc : VcsStatusLocalResult)
    (remote : Option VcsStatusRemoteResult) (event : VcsStatusStreamEvent) :
    ∃ loc' remote',
      applyGitStatusStreamEvent (some (mergeGitStatusParts loc remote)) event =
        mergeGitStatusParts loc' remote' ∧
      (carried? .loc event).or (some (.loc loc)) = some (.loc loc') ∧
      (carried? .remote event).or (some (.remote remote)) = some (.remote remote') := by
  cases event with
  | snapshot next nextRemote => exact ⟨next, nextRemote, rfl, rfl, rfl⟩
  | localUpdated next => exact ⟨next, remote, rfl, rfl, rfl⟩
  | remoteUpdated next => exact ⟨loc, next, rfl, rfl, rfl⟩

theorem foldEvents_snapshot (loc : VcsStatusLocalResult) (remote : Option VcsStatusRemoteResult)
    (rest : List VcsStatusStreamEvent) :
    ∃ loc' remote',
      foldEvents (.snapshot loc remote :: rest) = some (mergeGitStatusParts loc' remote') ∧
      lastWrite (carried? .loc) (.snapshot loc remote :: rest) = some (.loc loc') ∧
      lastWrite (carried? .remote) (.snapshot loc remote :: rest) = some (.remote remote') := by
  induction rest using List.reverseRecOn with
  | nil => exact ⟨loc, remote, rfl, rfl, rfl⟩
  | append_singleton rest event ih =>
    obtain ⟨loc', remote', hfold, hloc, hremote⟩ := ih
    obtain ⟨next, nextRemote, happly, hnext, hnextRemote⟩ :=
      applyGitStatusStreamEvent_merge loc' remote' event
    refine ⟨next, nextRemote, ?_, ?_, ?_⟩
    · rw [foldEvents] at hfold ⊢
      rw [← List.cons_append, List.foldl_append, hfold, List.foldl_cons, List.foldl_nil, happly]
    · rw [← List.cons_append, lastWrite_append, hloc]
      simpa [lastWrite] using hnext
    · rw [← List.cons_append, lastWrite_append, hremote]
      simpa [lastWrite] using hnextRemote

/-! ## What a step does to the cells -/

@[simp] theorem carried_event (part : StatusPart) (value : StatusValue) :
    carried? part value.event = if value.part = part then some value else none := by
  cases value <;> cases part <;> rfl

theorem fingerprintLocal_injective : Function.Injective fingerprintLocal := by
  intro first second h
  have hvalue := congrArg Subtype.val (stringify_injective 0 h)
  exact VcsStatusLocalResult.encode_injective hvalue

theorem fingerprintRemote_injective : Function.Injective fingerprintRemote := by
  intro first second h
  have hvalue := congrArg Subtype.val (stringify_injective 0 h)
  have hnull : ∀ remote : VcsStatusRemoteResult, remote.encode ≠ .scalar .null := by
    intro remote hremote
    cases hremote
  exact (orNull_inj VcsStatusRemoteResult.encode_injective hnull).mp hvalue

theorem shown_updateCachedStatus (cache : CachedVcsStatus) (value : StatusValue)
    (part : StatusPart) :
    (updateCachedStatus cache value).2.shown part =
      if value.part = part then some value else cache.shown part := by
  cases value <;> cases part <;> rfl

theorem shown_of_not_shouldPublish {cache : CachedVcsStatus} {value : StatusValue}
    (h : (updateCachedStatus cache value).1 = false) : cache.shown value.part = some value := by
  cases value with
  | loc status =>
    have hsame : cache.loc.map CachedValue.fingerprint = some (fingerprintLocal status) := by
      simpa [updateCachedStatus, updateCachedLocalStatus, cachedValue] using h
    obtain ⟨cached, hcached, hfingerprint⟩ := Option.map_eq_some_iff.mp hsame
    rw [cached.matched] at hfingerprint
    have hvalue := fingerprintLocal_injective hfingerprint
    simp [StatusValue.part, CachedVcsStatus.shown, CachedVcsStatus.localValue, hcached, hvalue]
  | remote status =>
    have hsame : cache.remote.map CachedValue.fingerprint = some (fingerprintRemote status) := by
      simpa [updateCachedStatus, updateCachedRemoteStatus, cachedValue] using h
    obtain ⟨cached, hcached, hfingerprint⟩ := Option.map_eq_some_iff.mp hsame
    rw [cached.matched] at hfingerprint
    have hvalue := fingerprintRemote_injective hfingerprint
    simp [StatusValue.part, CachedVcsStatus.shown, CachedVcsStatus.remoteValue, hcached, hvalue]

theorem unpublished_eq_none {code : List Instruction} (h : ∀ value, .publish value ∉ code)
    (part : StatusPart) : unpublished part code = none := by
  cases code with
  | nil => rfl
  | cons instruction rest =>
    cases instruction with
    | publish value => exact absurd List.mem_cons_self (h value)
    | _ => rfl

namespace BroadcasterState

variable {state next : BroadcasterState}

theorem cell_setCode (state : BroadcasterState) (writer : Writer) (code : List Instruction)
    (part : StatusPart) :
    (state.setCode writer code).cell part =
      { state.cell part with
        pending :=
          Function.update (state.cell part).pending writer (unpublished part code) } := by
  have hpending : (fun other => unpublished part ((state.setCode writer code).code other)) =
      Function.update (state.cell part).pending writer (unpublished part code) := by
    funext other
    by_cases h : other = writer
    · subst h
      simp [setCode]
    · simp [setCode, cell, h]
  rw [cell, hpending]
  rfl

theorem cell_setStream (state : BroadcasterState) (i : Nat) (stream : StatusStream)
    (part : StatusPart) :
    (state.setStream i stream).cell part =
      { state.cell part with
        known := Function.update (state.cell part).known i (stream.known part) } := by
  have hknown : (fun j => ((state.setStream i stream).streams j).known part) =
      Function.update (state.cell part).known i (stream.known part) := by
    funext j
    by_cases h : j = i
    · subst h
      simp [setStream]
    · simp [setStream, cell, h]
  rw [cell, hknown]
  rfl

variable {writer : Writer} {code rest : List Instruction} {part : StatusPart} {i : Nat}
  {stream : StatusStream} {instruction : Instruction} {value : StatusValue}

theorem cell_setCode_of_none (hold : unpublished part (state.code writer) = none)
    (hnew : unpublished part code = none) :
    (state.setCode writer code).cell part = state.cell part := by
  have hpending : (state.cell part).pending writer = none := hold
  rw [cell_setCode, hnew, ← hpending, Function.update_eq_self]

theorem cell_setCode_nil (state : BroadcasterState) (writer : Writer) (part : StatusPart) :
    (state.setCode writer []).cell part = (state.cell part).drop writer :=
  cell_setCode state writer [] part

theorem cell_setStream_closed (state : BroadcasterState) (i : Nat) (part : StatusPart) :
    (state.setStream i .closed).cell part = (state.cell part).forget i :=
  cell_setStream state i .closed part

theorem cell_setStream_of_known (h : stream.known part = (state.streams i).known part) :
    (state.setStream i stream).cell part = state.cell part := by
  have hknown : (state.cell part).known i = stream.known part := h.symm
  rw [cell_setStream, ← hknown, Function.update_eq_self]

theorem cell_setStream_of_read
    (h : stream.known part = ((state.streams i).known part).or (state.cache.shown part)) :
    (state.setStream i stream).cell part = (state.cell part).read i := by
  rw [cell_setStream, h]
  rfl

/-- Only the next instruction of an operation is a publish, without a poller there is nothing of
it left to do, and a stream that runs has sent its snapshot first. -/
structure WellFormed (state : BroadcasterState) : Prop where
  tail : ∀ writer value, .publish value ∉ (state.code writer).tail
  poller : state.subscriberCount = none → state.code .poller = []
  started : ∀ i, (state.streams i).stage = .streaming →
    ∃ loc remote rest, (state.streams i).received = .snapshot loc remote :: rest

theorem wellFormed_initial : initial.WellFormed := by
  constructor
  · exact fun _ _ h => by cases h
  · intro _
    rfl
  · exact fun _ h => by cases h

theorem WellFormed.setCode (h : state.WellFormed) (writer : Writer) (code : List Instruction)
    (hcode : ∀ value, .publish value ∉ code.tail)
    (hpoller : writer = .poller → state.subscriberCount = none → code = []) :
    (state.setCode writer code).WellFormed := by
  constructor
  · intro other value
    by_cases hother : other = writer
    · subst hother
      simpa [BroadcasterState.setCode] using hcode value
    · simpa [BroadcasterState.setCode, hother] using h.tail other value
  · intro hcount
    by_cases hwriter : .poller = writer
    · subst hwriter
      simpa [BroadcasterState.setCode] using hpoller rfl hcount
    · simpa [BroadcasterState.setCode, hwriter] using h.poller hcount
  · exact h.started

theorem WellFormed.not_absent (h : state.WellFormed)
    (hcode : state.code writer = instruction :: rest) :
    writer = .poller → state.subscriberCount = none → code = [] := by
  intro hwriter hcount
  rw [hwriter, h.poller hcount] at hcode
  cases hcode

theorem WellFormed.setStream (h : state.WellFormed) (i : Nat) (stream : StatusStream)
    (hstream : stream.stage = .streaming →
      ∃ loc remote rest, stream.received = .snapshot loc remote :: rest) :
    (state.setStream i stream).WellFormed := by
  refine ⟨h.tail, h.poller, ?_⟩
  · intro j
    by_cases hj : j = i
    · subst hj
      simpa [BroadcasterState.setStream] using hstream
    · simpa [BroadcasterState.setStream, hj] using h.started j

theorem WellFormed.retain (h : state.WellFormed) : state.retainRemotePoller.WellFormed := by
  unfold retainRemotePoller
  cases hcount : state.subscriberCount with
  | none =>
    refine ⟨?_, ?_, h.started⟩
    · intro writer value
      by_cases hwriter : writer = .poller
      · subst hwriter
        simp [BroadcasterState.setCode, Server.refreshRemoteStatus]
      · simpa [BroadcasterState.setCode, hwriter] using h.tail writer value
    · exact fun h => by cases h
  | some count =>
    refine ⟨h.tail, ?_, h.started⟩
    intro hnone
    cases hnone

theorem WellFormed.release (h : state.WellFormed) : state.releaseRemotePoller.WellFormed := by
  have hset := h.setCode .poller [] (fun value => by simp) (fun _ _ => rfl)
  unfold releaseRemotePoller
  cases hcount : state.subscriberCount with
  | none => exact h
  | some count =>
    by_cases hlast : count > 1
    · simp only [hlast, if_true]
      refine ⟨h.tail, ?_, h.started⟩
      intro hnone
      cases hnone
    · simp only [hlast, if_false]
      refine ⟨hset.tail, ?_, hset.started⟩
      intro _
      simp [BroadcasterState.setCode]

theorem run_eq_some (h : state.run writer = some next) :
    (∃ part rest code, state.code writer = .getOrLoad part :: rest ∧
      (code = rest ∨ code = loadStatus part ++ rest) ∧ next = state.setCode writer code) ∨
    (∃ value publish rest, state.code writer = .update value publish :: rest ∧
      next = { state.setCode writer
        (if publish && (updateCachedStatus state.cache value).1 then .publish value :: rest
          else rest) with
        cache := (updateCachedStatus state.cache value).2 }) ∨
    (∃ value rest, state.code writer = .publish value :: rest ∧
      next = { state.setCode writer rest with
        streams := fun i => (state.streams i).send value.event }) := by
  unfold run at h
  split at h
  · rename_i part rest hcode
    refine Or.inl ⟨part, rest, _, hcode, ?_, (Option.some.inj h).symm⟩
    cases state.cache.has part
    · exact Or.inr rfl
    · exact Or.inl rfl
  · rename_i value publish rest hcode
    exact Or.inr (Or.inl ⟨value, publish, rest, hcode, (Option.some.inj h).symm⟩)
  · rename_i value rest hcode
    exact Or.inr (Or.inr ⟨value, rest, hcode, (Option.some.inj h).symm⟩)
  · cases h

theorem advance_eq_some (h : state.advance i = some next) :
    ((state.streams i).stage = .getCached ∧
      ∃ stage, (stage = .localStatus ∨
          ∃ loc, state.cache.localValue = some loc ∧ stage = .readRemote loc) ∧
        next = state.setStream i { state.streams i with stage }) ∨
    (∃ loc, (state.streams i).stage = .updateLocal loc ∧
      next = { state.setStream i { state.streams i with stage := .readRemote loc } with
        cache := (updateCachedStatus state.cache (.loc loc)).2 }) ∨
    (∃ loc, (state.streams i).stage = .readRemote loc ∧
      next = state.setStream i
        { state.streams i with stage := .retain loc state.cache.remoteValue }) ∨
    (∃ loc remote, (state.streams i).stage = .retain loc remote ∧
      next = state.retainRemotePoller.setStream i
        { state.streams i with stage := .streaming, received := [.snapshot loc remote] }) := by
  simp only [advance] at h
  split at h
  · rename_i hstage
    left
    split at h
    · rename_i loc hloc
      exact ⟨hstage, _, Or.inr ⟨loc, hloc, rfl⟩, (Option.some.inj h).symm⟩
    · exact ⟨hstage, _, Or.inl rfl, (Option.some.inj h).symm⟩
  · rename_i loc hstage
    exact Or.inr (Or.inl ⟨loc, hstage, (Option.some.inj h).symm⟩)
  · rename_i loc hstage
    exact Or.inr (Or.inr (Or.inl ⟨loc, hstage, (Option.some.inj h).symm⟩))
  · rename_i loc remote hstage
    exact Or.inr (Or.inr (Or.inr ⟨loc, remote, hstage, (Option.some.inj h).symm⟩))
  · cases h

theorem notMem_of_tail (h : .publish value ∉ code.tail) (hcode : code = instruction :: rest) :
    .publish value ∉ rest := by
  rwa [hcode] at h

theorem notMem_tail_of_notMem (h : .publish value ∉ code) : .publish value ∉ code.tail :=
  fun hmem => h (List.mem_of_mem_tail hmem)

theorem WellFormed.run (h : state.WellFormed) (hrun : state.run writer = some next) :
    next.WellFormed := by
  rcases run_eq_some hrun with ⟨part, rest, code, hcode, hnext, rfl⟩ |
    ⟨value, publish, rest, hcode, rfl⟩ | ⟨value, rest, hcode, rfl⟩
  · refine h.setCode writer code (fun other => ?_) (h.not_absent hcode)
    have hrest := notMem_of_tail (h.tail writer other) hcode
    rcases hnext with rfl | rfl
    · exact notMem_tail_of_notMem hrest
    · simpa [loadStatus] using hrest
  · have hset := h.setCode writer
      (if publish && (updateCachedStatus state.cache value).1 then .publish value :: rest
        else rest) (fun other => by
        have hrest := notMem_of_tail (h.tail writer other) hcode
        split
        · exact hrest
        · exact notMem_tail_of_notMem hrest) (h.not_absent hcode)
    exact ⟨hset.tail, hset.poller, hset.started⟩
  · have hset := h.setCode writer rest
      (fun other => notMem_tail_of_notMem (notMem_of_tail (h.tail writer other) hcode))
      (h.not_absent hcode)
    refine ⟨hset.tail, hset.poller, fun i hstage => ?_⟩
    simp only [StatusStream.send] at hstage ⊢
    split at hstage
    · exact absurd hstage (by simp [*])
    · rename_i hidle
      rw [if_neg hidle]
      exact h.started i hstage

theorem WellFormed.advance (h : state.WellFormed) (hadvance : state.advance i = some next) :
    next.WellFormed := by
  rcases advance_eq_some hadvance with ⟨-, stage, hstage, rfl⟩ | ⟨loc, -, rfl⟩ | ⟨loc, -, rfl⟩ |
    ⟨loc, remote, -, rfl⟩
  · refine h.setStream i _ (fun hstreaming => ?_)
    rcases hstage with rfl | ⟨loc, -, rfl⟩ <;> cases hstreaming
  · have hset := h.setStream i { state.streams i with stage := .readRemote loc }
      fun h => by cases h
    exact ⟨hset.tail, hset.poller, hset.started⟩
  · exact h.setStream i _ fun h => by cases h
  · exact h.retain.setStream i _ (fun _ => ⟨loc, remote, [], rfl⟩)

variable {action : BroadcasterAction}

theorem WellFormed.step (h : state.WellFormed) (hstep : state.step action = some next) :
    next.WellFormed := by
  have hstart : ∀ id code, (∀ value, .publish value ∉ code.tail) → state.start id code = some next →
      next.WellFormed := by
    intro id code hcode hstart
    simp only [start, Option.ite_none_right_eq_some, Option.some.injEq] at hstart
    rw [← hstart.2]
    exact h.setCode (.request id) code hcode fun h => by cases h
  cases action with
  | getStatus id => exact hstart id _ (by simp [Server.getStatus]) hstep
  | refreshLocalStatus id => exact hstart id _ (by simp [Server.refreshLocalStatus]) hstep
  | refreshStatus id =>
    exact hstart id _ (by simp [Server.refreshStatus, Server.refreshLocalStatus,
      Server.refreshRemoteStatus]) hstep
  | streamStatus i | answerLocal i | failLocal i =>
    simp only [BroadcasterState.step, Option.ite_none_right_eq_some, Option.some.injEq] at hstep
    rw [← hstep.2]
    exact h.setStream i _ fun h => by cases h
  | run writer => exact h.run hstep
  | answer writer value =>
    simp only [BroadcasterState.step, answer] at hstep
    split at hstep
    · rename_i part publish rest hcode
      simp only [Option.ite_none_right_eq_some, Option.some.injEq] at hstep
      rw [← hstep.2]
      exact h.setCode writer _ (fun other => notMem_of_tail (h.tail writer other) hcode)
        (h.not_absent hcode)
    · cases hstep
  | fail writer =>
    simp only [BroadcasterState.step, fail] at hstep
    split at hstep
    · cases hstep
      exact h.setCode writer [] (fun value => by simp) (fun _ _ => rfl)
    · cases hstep
  | interrupt id =>
    cases hstep
    exact h.setCode (.request id) [] (fun value => by simp) (fun _ _ => rfl)
  | wake =>
    simp only [BroadcasterState.step, Option.ite_none_right_eq_some, Option.some.injEq] at hstep
    obtain ⟨hawake, rfl⟩ := hstep
    refine h.setCode .poller _ (fun value => by simp [Server.refreshRemoteStatus]) ?_
    intro _ hnone
    rw [hnone] at hawake
    cases hawake
  | advance i => exact h.advance hstep
  | deliver i =>
    simp only [BroadcasterState.step, deliver] at hstep
    split at hstep
    · rename_i event rest hstage hqueue
      cases hstep
      obtain ⟨loc, remote, sent, hreceived⟩ := h.started i hstage
      exact h.setStream i _ (fun _ => ⟨loc, remote, sent ++ [event], by simp [hreceived]⟩)
    · cases hstep
  | close i =>
    simp only [BroadcasterState.step, close] at hstep
    split at hstep
    · cases hstep
    · cases hstep
      exact h.release.setStream i _ fun h => by cases h
    · cases hstep
      exact h.setStream i _ fun h => by cases h

/-! ## Subscribers are caught up -/

def CaughtUp (state : BroadcasterState) : Prop := ∀ part, (state.cell part).CaughtUp

theorem unpublished_of_ne (hcode : code = instruction :: rest)
    (h : ∀ value, instruction ≠ .publish value) (part : StatusPart) :
    unpublished part code = none := by
  subst hcode
  cases instruction with
  | publish value => exact absurd rfl (h value)
  | _ => rfl

theorem cell_withCache (state : BroadcasterState) (cache : CachedVcsStatus) (part : StatusPart) :
    cell { state with cache } part = { state.cell part with value := cache.shown part } := rfl

theorem CaughtUp.setCode (h : state.CaughtUp)
    (hold : ∀ part, unpublished part (state.code writer) = none)
    (hnew : ∀ part, unpublished part code = none) : (state.setCode writer code).CaughtUp := by
  intro part
  rw [cell_setCode_of_none (hold part) (hnew part)]
  exact h part

theorem CaughtUp.update (h : state.CaughtUp) (hwf : state.WellFormed) {publish : Bool}
    (hcode : state.code writer = .update value publish :: rest)
    (hsilent : publish = false → (state.cell value.part).MayWrite value) :
    CaughtUp { state.setCode writer
      (if publish && (updateCachedStatus state.cache value).1 then .publish value :: rest
        else rest) with
      cache := (updateCachedStatus state.cache value).2 } := by
  have hold := unpublished_of_ne hcode (fun _ => Instruction.noConfusion)
  have hrest := unpublished_eq_none (fun other => notMem_of_tail (hwf.tail writer other) hcode)
  intro part
  have hshown := shown_updateCachedStatus state.cache value part
  by_cases hpublish : (publish && (updateCachedStatus state.cache value).1) = true
  · rw [if_pos hpublish]
    by_cases hpart : value.part = part
    · have hnew : unpublished part (.publish value :: rest) = some value := if_pos hpart
      rw [cell_withCache, cell_setCode, hnew, hshown, if_pos hpart]
      exact (state.cell part).caughtUp_announce writer value
    · have hnew : unpublished part (.publish value :: rest) = none := if_neg hpart
      rw [cell_withCache, cell_setCode_of_none (hold part) hnew, hshown, if_neg hpart]
      exact h part
  · rw [if_neg hpublish, cell_withCache, cell_setCode_of_none (hold part) (hrest part), hshown]
    by_cases hpart : value.part = part
    · subst hpart
      have hwrite : (state.cell value.part).MayWrite value := by
        cases publish with
        | false => exact hsilent rfl
        | true => exact Or.inl (shown_of_not_shouldPublish (by simpa using hpublish))
      rw [if_pos rfl]
      exact (h value.part).write hwrite
    · rw [if_neg hpart]
      exact h part

theorem known_send (part : StatusPart) (value : StatusValue) (stream : StatusStream) :
    (stream.send value.event).known part =
      if value.part = part ∧ stream.stage ≠ .idle then some value else stream.known part := by
  obtain ⟨stage, received, queue⟩ := stream
  by_cases hpart : value.part = part <;> cases stage <;>
    simp [StatusStream.send, StatusStream.known, lastWrite_append, lastWrite, hpart]

theorem listens_of_known (h : (state.cell part).known i = some value) : state.Listens i := by
  intro hidle
  have hknown : (state.streams i).known part = some value := h
  rw [StatusStream.known, hidle] at hknown
  cases hknown

instance : DecidablePred state.Listens := fun _ => inferInstanceAs (Decidable (_ ≠ _))

theorem CaughtUp.publish (h : state.CaughtUp) (hwf : state.WellFormed)
    (hcode : state.code writer = .publish value :: rest)
    (hpublish : (state.cell value.part).MayPublish writer state.Listens value) :
    CaughtUp { state.setCode writer rest with
      streams := fun i => (state.streams i).send value.event } := by
  have hrest := unpublished_eq_none (fun other => notMem_of_tail (hwf.tail writer other) hcode)
  intro part
  by_cases hpart : value.part = part
  · subst hpart
    have hpending : (state.cell value.part).pending writer = some value := by
      simp [cell, hcode, unpublished]
    have hcell : cell { state.setCode writer rest with
        streams := fun i => (state.streams i).send value.event } value.part =
          (state.cell value.part).publish writer state.Listens := by
      have hset := congrArg Cell.pending (cell_setCode state writer rest value.part)
      have hknown : (fun i => ((state.streams i).send value.event).known value.part) =
          ((state.cell value.part).publish writer state.Listens).known := by
        funext i
        simp only [known_send, true_and, Cell.publish, hpending, Option.some_or]
        rfl
      simp only [hrest] at hset
      exact Cell.ext rfl hknown hset
    rw [hcell]
    exact Cell.caughtUp_publish hpending (fun _ _ => listens_of_known) hpublish
  · have hold : unpublished part (state.code writer) = none := by
      rw [hcode]
      exact if_neg hpart
    have hcell : cell { state.setCode writer rest with
        streams := fun i => (state.streams i).send value.event } part = state.cell part := by
      have hset := congrArg Cell.pending (cell_setCode_of_none hold (hrest part))
      have hknown : (fun i => ((state.streams i).send value.event).known part) =
          (state.cell part).known := by
        funext i
        simp only [known_send, hpart, false_and, if_false]
        rfl
      exact Cell.ext rfl hknown hset
    rw [hcell]
    exact h part

theorem cell_retain (hwf : state.WellFormed) (part : StatusPart) :
    state.retainRemotePoller.cell part = state.cell part := by
  unfold retainRemotePoller
  cases hcount : state.subscriberCount with
  | none =>
    have hold : unpublished part (state.code .poller) = none := by
      rw [hwf.poller hcount]
      rfl
    have hset : (state.setCode .poller Server.refreshRemoteStatus).cell part =
        state.cell part := cell_setCode_of_none hold rfl
    exact hset
  | some count => rfl

theorem streams_retain (state : BroadcasterState) :
    state.retainRemotePoller.streams = state.streams := by
  unfold retainRemotePoller
  cases state.subscriberCount <;> rfl

theorem CaughtUp.advance (h : state.CaughtUp) (hwf : state.WellFormed)
    (hannounced : state.Announced (.advance i)) (hadvance : state.advance i = some next) :
    next.CaughtUp := by
  intro part
  rcases advance_eq_some hadvance with ⟨hstage, stage, hnext, rfl⟩ | ⟨loc, hstage, rfl⟩ |
    ⟨loc, hstage, rfl⟩ | ⟨loc, remote, hstage, rfl⟩
  · rcases hnext with rfl | ⟨loc, hloc, rfl⟩
    · have hknown : StatusStream.known part { state.streams i with stage := .localStatus } =
          (state.streams i).known part := by
        simp [StatusStream.known, hstage, StreamStage.read]
      rw [cell_setStream_of_known hknown]
      exact h part
    · cases part with
      | loc =>
        have hknown : StatusStream.known .loc { state.streams i with stage := .readRemote loc } =
            ((state.streams i).known .loc).or (state.cache.shown .loc) := by
          simp [StatusStream.known, hstage, StreamStage.read, CachedVcsStatus.shown, hloc]
        rw [cell_setStream_of_read hknown]
        exact (h .loc).read i
      | remote =>
        have hknown : StatusStream.known .remote
            { state.streams i with stage := .readRemote loc } =
              (state.streams i).known .remote := by
          simp [StatusStream.known, hstage, StreamStage.read]
        rw [cell_setStream_of_known hknown]
        exact h .remote
  · simp only [Announced, hstage] at hannounced
    have hshown := shown_updateCachedStatus state.cache (.loc loc) part
    rw [cell_withCache, hshown]
    cases part with
    | loc =>
      have hknown : StatusStream.known .loc { state.streams i with stage := .readRemote loc } =
          ((state.streams i).known .loc).or (some (.loc loc)) := by
        simp [StatusStream.known, hstage, StreamStage.read]
      rw [cell_setStream, hknown]
      exact ((h .loc).write hannounced).read i
    | remote =>
      have hknown : StatusStream.known .remote { state.streams i with stage := .readRemote loc } =
          (state.streams i).known .remote := by
        simp [StatusStream.known, hstage, StreamStage.read]
      rw [cell_setStream_of_known hknown]
      exact h .remote
  · cases part with
    | loc =>
      have hknown : StatusStream.known .loc
          { state.streams i with stage := .retain loc state.cache.remoteValue } =
            (state.streams i).known .loc := by
        simp [StatusStream.known, hstage, StreamStage.read, carried?]
      rw [cell_setStream_of_known hknown]
      exact h .loc
    | remote =>
      have hknown : StatusStream.known .remote
          { state.streams i with stage := .retain loc state.cache.remoteValue } =
            ((state.streams i).known .remote).or (state.cache.shown .remote) := by
        simp [StatusStream.known, hstage, StreamStage.read, carried?, CachedVcsStatus.shown]
      rw [cell_setStream_of_read hknown]
      exact (h .remote).read i
  · have hknown : StatusStream.known part
        { state.streams i with stage := .streaming, received := [.snapshot loc remote] } =
          (state.retainRemotePoller.streams i).known part := by
      rw [streams_retain]
      simp [StatusStream.known, hstage, StreamStage.read, lastWrite]
    rw [cell_setStream_of_known hknown, cell_retain hwf]
    exact h part

theorem cell_release (state : BroadcasterState) (part : StatusPart) :
    state.releaseRemotePoller.cell part = state.cell part ∨
      state.releaseRemotePoller.cell part = (state.cell part).drop .poller := by
  unfold releaseRemotePoller
  cases state.subscriberCount with
  | none => exact Or.inl rfl
  | some count =>
    by_cases hlast : count > 1
    · simp only [hlast, if_true]
      exact Or.inl rfl
    · simp only [hlast, if_false]
      exact Or.inr (cell_setCode_nil state .poller part)

theorem CaughtUp.close (h : state.CaughtUp) (hannounced : state.Announced (.close i))
    (hclose : state.close i = some next) : next.CaughtUp := by
  intro part
  have hforget := (h part).forget i
  simp only [BroadcasterState.close] at hclose
  split at hclose
  · cases hclose
  · cases hclose
    rw [cell_setStream_closed]
    rcases cell_release state part with hcell | hcell
    · rw [hcell]
      exact hforget
    · rw [hcell]
      exact hforget.drop (hannounced part)
  · cases hclose
    rw [cell_setStream_closed]
    exact hforget

theorem CaughtUp.setStream (h : state.CaughtUp)
    (hknown : ∀ part, stream.known part = (state.streams i).known part) :
    (state.setStream i stream).CaughtUp := by
  intro part
  rw [cell_setStream_of_known (hknown part)]
  exact h part

theorem CaughtUp.step (h : state.CaughtUp) (hwf : state.WellFormed)
    (hannounced : state.Announced action) (hstep : state.step action = some next) :
    next.CaughtUp := by
  have hstart : ∀ id code, (∀ part, unpublished part code = none) → state.start id code = some next →
      next.CaughtUp := by
    intro id code hcode hstart
    simp only [start, Option.ite_none_right_eq_some, Option.some.injEq] at hstart
    obtain ⟨hidle, rfl⟩ := hstart
    refine h.setCode (fun part => ?_) hcode
    rw [hidle]
    rfl
  cases action with
  | getStatus id | refreshLocalStatus id | refreshStatus id =>
    exact hstart id _ (fun _ => rfl) hstep
  | streamStatus i =>
    simp only [BroadcasterState.step, Option.ite_none_right_eq_some, Option.some.injEq] at hstep
    obtain ⟨hidle, rfl⟩ := hstep
    refine h.setStream (fun part => ?_)
    simp [StatusStream.known, hidle, StreamStage.read]
  | run writer =>
    rcases run_eq_some hstep with ⟨part, rest, code, hcode, hnext, rfl⟩ |
      ⟨value, publish, rest, hcode, rfl⟩ | ⟨value, rest, hcode, rfl⟩
    · have hrest := unpublished_eq_none
        (fun other => notMem_of_tail (hwf.tail writer other) hcode)
      refine h.setCode (unpublished_of_ne hcode (fun _ => Instruction.noConfusion)) ?_
      rcases hnext with rfl | rfl
      · exact hrest
      · exact fun _ => rfl
    · refine h.update hwf hcode (fun hsilent => ?_)
      subst hsilent
      simpa only [Announced, hcode] using hannounced
    · refine h.publish hwf hcode ?_
      simpa only [Announced, hcode] using hannounced
  | answer writer value =>
    simp only [BroadcasterState.step, answer] at hstep
    split at hstep
    · rename_i part publish rest hcode
      simp only [Option.ite_none_right_eq_some, Option.some.injEq] at hstep
      obtain ⟨-, rfl⟩ := hstep
      exact h.setCode (unpublished_of_ne hcode (fun _ => Instruction.noConfusion)) (fun _ => rfl)
    · cases hstep
  | fail writer =>
    simp only [BroadcasterState.step, fail] at hstep
    split at hstep
    · rename_i hcode
      cases hstep
      exact h.setCode (unpublished_of_ne hcode (fun _ => Instruction.noConfusion)) (fun _ => rfl)
    · cases hstep
  | interrupt id =>
    cases hstep
    intro part
    rw [cell_setCode_nil]
    exact (h part).drop (hannounced part)
  | wake =>
    simp only [BroadcasterState.step, Option.ite_none_right_eq_some, Option.some.injEq] at hstep
    obtain ⟨hawake, rfl⟩ := hstep
    refine h.setCode (fun part => ?_) (fun _ => rfl)
    rw [List.isEmpty_iff.mp (Bool.and_eq_true_iff.mp hawake).2]
    rfl
  | advance i => exact h.advance hwf hannounced hstep
  | answerLocal i loc =>
    simp only [BroadcasterState.step, Option.ite_none_right_eq_some, Option.some.injEq] at hstep
    obtain ⟨hstage, rfl⟩ := hstep
    refine h.setStream (fun part => ?_)
    simp [StatusStream.known, hstage, StreamStage.read]
  | failLocal i =>
    simp only [BroadcasterState.step, Option.ite_none_right_eq_some, Option.some.injEq] at hstep
    obtain ⟨-, rfl⟩ := hstep
    intro part
    rw [cell_setStream_closed]
    exact (h part).forget i
  | deliver i =>
    simp only [BroadcasterState.step, deliver] at hstep
    split at hstep
    · rename_i event rest hstage hqueue
      cases hstep
      refine h.setStream (fun part => ?_)
      simp [StatusStream.known, hstage, hqueue]
    · cases hstep
  | close i => exact h.close hannounced hstep

theorem CaughtUp.converged (h : state.CaughtUp) (hwf : state.WellFormed) : state.Converged := by
  intro hquiescent i hstage
  obtain ⟨loc, remote, rest, hreceived⟩ := hwf.started i hstage
  obtain ⟨loc', remote', hfold, hloc, hremote⟩ := foldEvents_snapshot loc remote rest
  rw [← hreceived] at hfold hloc hremote
  have hpending : ∀ part writer, (state.cell part).pending writer = none := by
    intro part writer
    simp only [cell, hquiescent.code writer]
    rfl
  have hknown : ∀ part, (state.streams i).known part =
      lastWrite (carried? part) (state.streams i).received := by
    intro part
    simp [StatusStream.known, hstage, hquiescent.queue i]
  have hcachedLocal := (h .loc).settled (hpending .loc) ((hknown .loc).trans hloc)
  have hcachedRemote := (h .remote).settled (hpending .remote) ((hknown .remote).trans hremote)
  have hvalueLocal : state.cache.localValue = some loc' := by
    simpa [cell, CachedVcsStatus.shown] using hcachedLocal
  have hvalueRemote : state.cache.remoteValue = remote' := by
    simpa [cell, CachedVcsStatus.shown] using hcachedRemote
  exact ⟨loc', hvalueLocal, by rw [hfold, hvalueRemote]⟩

theorem caughtUp_initial : initial.CaughtUp :=
  fun _ => Cell.caughtUp_of_unknown (fun _ => rfl)

/-- In a run that leaves nothing unannounced, subscribers converge to the cache in every state. -/
theorem converged_throughout (actions : List BroadcasterAction)
    (h : StepsMeet step Announced initial actions) :
    Throughout step Converged initial actions := by
  have hkept : ∀ (state : BroadcasterState) action next, state.WellFormed ∧ state.CaughtUp →
      state.Announced action → state.step action = some next →
        next.WellFormed ∧ next.CaughtUp := by
    intro state action next hinv hannounced hstep
    exact ⟨hinv.1.step hstep, hinv.2.step hinv.1 hannounced hstep⟩
  have hrun := throughout_of_stepsMeet hkept ⟨wellFormed_initial, caughtUp_initial⟩ h
  exact hrun.imp (fun state hinv => hinv.2.converged hinv.1)

def mainBranch : VcsStatusLocalResult where
  kind := .git
  isRepo := true
  sourceControlProvider := none
  hasPrimaryRemote := true
  isDefaultRef := true
  refName := some (ascii "main")
  hasWorkingTreeChanges := false
  workingTree := { files := [], insertions := 0, deletions := 0 }

def oneAhead : VcsStatusRemoteResult where
  hasUpstream := true
  aheadCount := 1
  behindCount := 0
  aheadOfDefaultCount := none
  pr := none

/-- A stream of an empty cache: it loads the local status and starts the poller. -/
def subscribeRun : List BroadcasterAction :=
  [.streamStatus 0, .advance 0, .answerLocal 0 mainBranch, .advance 0, .advance 0, .advance 0]

def pollerRun : List BroadcasterAction :=
  subscribeRun ++ [.answer .poller (.remote (some oneAhead)), .run .poller, .run .poller,
    .deliver 0]

/-- A request loads the remote status while the poller's query is under way, so that the poller
finds its fingerprint unchanged. -/
def overtakenRun : List BroadcasterAction :=
  subscribeRun ++ [.getStatus 0, .run (.request 0), .run (.request 0),
    .answer (.request 0) (.remote (some oneAhead)), .run (.request 0),
    .answer .poller (.remote (some oneAhead)), .run .poller]

/-- The subscriber is left without the remote status. -/
theorem overtakenRun_not_converged :
    ∃ final, exec step initial overtakenRun = some final ∧ ¬final.Converged := by
  refine ⟨_, rfl, ?_⟩
  intro h
  obtain ⟨loc, hloc, hfold⟩ := h
    { code := by
        intro writer
        cases writer with
        | request id => cases id <;> rfl
        | poller => rfl
      stage := by
        intro i
        cases i with
        | zero => exact Or.inr rfl
        | succ i => exact Or.inl rfl
      queue := by
        intro i
        cases i <;> rfl } 0 rfl
  cases hloc
  have hahead := congrArg (Option.map (fun status => status.aheadCount)) hfold
  cases hahead

/-- Without the request nothing is left unannounced: the local status is loaded before any
stream has one, and the remote status is published. -/
theorem pollerRun_converged : Throughout step Converged initial pollerRun := by
  have hunknown : ∀ i, ((((initial.setStream 0 ⟨.getCached, [], []⟩).setStream 0
      ⟨.localStatus, [], []⟩).setStream 0 ⟨.updateLocal mainBranch, [], []⟩).cell .loc).known i =
        none := by
    intro i
    cases i <;> rfl
  refine converged_throughout pollerRun ?_
  iterate 3 refine (stepsMeet_cons rfl).mpr ⟨trivial, ?_⟩
  refine (stepsMeet_cons rfl).mpr ⟨Or.inr (Or.inl hunknown), ?_⟩
  iterate 4 refine (stepsMeet_cons rfl).mpr ⟨trivial, ?_⟩
  refine (stepsMeet_cons rfl).mpr ⟨Or.inl rfl, ?_⟩
  exact (stepsMeet_cons rfl).mpr ⟨trivial, trivial⟩

end BroadcasterState

end GT3Code.Server
