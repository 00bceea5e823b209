import GT3Code.Orchestration.Decider

/-! # What an accepted command plans

Every event of an accepted command passed the decider's guards on the model it is
folded into. `Admissible` names those guards per event, `Emits` the events each
command can plan, and later invariants are derived from the two alone.
-/

namespace GT3Code.Orchestration

open GT3Code.Base GT3Code.Contracts GT3Code.Gc

theorem bind_eq_ok {ε α β : Type} {x : Except ε α} {f : α → Except ε β} {b : β} :
    (x >>= f) = .ok b ↔ ∃ a, x = .ok a ∧ f a = .ok b := by
  cases x <;> simp [bind, Except.bind]

/-- What one event does to the identity of a thread it does not create. -/
structure KeepsThread (payload : EventPayload) (before after : OrchestrationThread) : Prop where
  id : after.id = before.id
  projectId : after.projectId = before.projectId
  deletedAt : after.deletedAt = before.deletedAt ∨
    ∃ p deletedAt, payload = .threadDeleted p ∧ before.id = p.threadId ∧
      after.deletedAt = some deletedAt

theorem KeepsThread.refl (payload : EventPayload) (thread : OrchestrationThread) :
    KeepsThread payload thread thread :=
  ⟨rfl, rfl, Or.inl rfl⟩

variable {payload : EventPayload} {threads : List OrchestrationThread} {threadId : ThreadId}
  {readModel : OrchestrationReadModel} {sequence : Nat}
  {events planned : List PlannedOrchestrationEvent} {env : DecideEnv}
  {command : OrchestrationCommand} {commands : List OrchestrationCommand}

theorem KeepsThread.of_eq {before after : OrchestrationThread} (hid : after.id = before.id)
    (hproject : after.projectId = before.projectId)
    (hdeleted : after.deletedAt = before.deletedAt) : KeepsThread payload before after :=
  ⟨hid, hproject, Or.inl hdeleted⟩

theorem updateThread_keeps {patch : OrchestrationThread → OrchestrationThread}
    (h : ∀ thread, thread.id = threadId → KeepsThread payload thread (patch thread)) :
    ∃ f : OrchestrationThread → OrchestrationThread,
      (∀ thread, KeepsThread payload thread (f thread)) ∧
        updateThread threads threadId patch = threads.map f := by
  refine ⟨fun thread => if thread.id = threadId then patch thread else thread, ?_, rfl⟩
  intro thread
  by_cases hid : thread.id = threadId
  · simpa [hid] using h thread hid
  · simpa [hid] using KeepsThread.refl payload thread

theorem updateFound_keeps
    {patch : OrchestrationThread → OrchestrationThread → OrchestrationThread}
    (h : ∀ found thread, thread.id = threadId → KeepsThread payload thread (patch found thread)) :
    ∃ f : OrchestrationThread → OrchestrationThread,
      (∀ thread, KeepsThread payload thread (f thread)) ∧
        updateFound threads threadId patch = threads.map f := by
  unfold updateFound
  cases threads.find? (fun entry => entry.id = threadId) with
  | none => exact ⟨id, KeepsThread.refl payload, by simp⟩
  | some found => exact updateThread_keeps (h found)

variable [Collation]

theorem projectThreads_cases (threads : List OrchestrationThread) (event : OrchestrationEvent) :
    (∃ payload, event.payload = .threadCreated payload ∧
      projectThreads threads event =
        upsertEntry OrchestrationThread.id (threadFromCreated payload) threads) ∨
    ((∀ payload, event.payload ≠ .threadCreated payload) ∧
      ∃ f : OrchestrationThread → OrchestrationThread,
        (∀ thread, KeepsThread event.payload thread (f thread)) ∧
          projectThreads threads event = threads.map f) := by
  unfold projectThreads
  cases event.payload with
  | threadCreated payload => exact Or.inl ⟨payload, rfl, rfl⟩
  | threadDeleted payload =>
    exact Or.inr ⟨by simp, updateThread_keeps (fun thread hid =>
      ⟨rfl, rfl, Or.inr ⟨payload, _, rfl, hid, rfl⟩⟩)⟩
  | threadArchived | threadUnarchived | threadMetaUpdated | threadRuntimeModeSet
  | threadInteractionModeSet =>
    exact Or.inr ⟨by simp, updateThread_keeps (fun _ _ => .of_eq rfl rfl rfl)⟩
  | threadMessageSent | threadSessionSet | threadProposedPlanUpserted | threadActivityAppended =>
    exact Or.inr ⟨by simp, updateFound_keeps (fun _ _ _ => by constructor <;> simp)⟩
  | threadReverted payload =>
    exact Or.inr ⟨by simp, updateFound_keeps (fun _ _ _ => by
      constructor <;> simp [revertThread])⟩
  | threadTurnDiffCompleted payload =>
    refine Or.inr ⟨by simp, updateFound_keeps (fun found thread _ => ?_)⟩
    split
    · exact KeepsThread.refl _ thread
    · exact .of_eq rfl rfl rfl
  | _ => exact Or.inr ⟨by simp, id, KeepsThread.refl _, by simp⟩

theorem mem_ids_projectThreads (event : OrchestrationEvent)
    (h : threadId ∈ threads.map OrchestrationThread.id) :
    threadId ∈ (projectThreads threads event).map OrchestrationThread.id := by
  rcases projectThreads_cases threads event with ⟨payload, -, heq⟩ | ⟨-, f, hf, heq⟩
  · rw [heq]
    unfold upsertEntry
    split
    · rename_i hfound
      obtain ⟨thread, hmem, hid⟩ := List.mem_map.mp h
      refine List.mem_map.mpr ⟨_, List.mem_map.mpr ⟨thread, hmem, rfl⟩, ?_⟩
      split
      · rename_i hsame
        rw [← hid, ← hsame]
      · exact hid
    · simp only [List.map_append, List.mem_append]
      exact Or.inl h
  · obtain ⟨thread, hmem, hid⟩ := List.mem_map.mp h
    rw [heq, List.map_map]
    exact List.mem_map.mpr ⟨thread, hmem, by simpa [(hf thread).id] using hid⟩

omit [Collation] in
theorem findThreadById_isSome {readModel : OrchestrationReadModel} {threadId : ThreadId} :
    (findThreadById readModel threadId).isSome ↔
      threadId ∈ readModel.threads.map OrchestrationThread.id := by
  simp [findThreadById, List.find?_isSome]

/-! ## Guards per event -/

/-- What the decider has checked of the model an event is folded into. -/
def Admissible (readModel : OrchestrationReadModel) : EventPayload → Prop
  | .projectCreated payload =>
    findProjectById readModel payload.projectId = none ∧
      findActiveProjectByWorkspaceRoot readModel payload.workspaceRoot = none
  | .projectMetaUpdated payload => (findProjectById readModel payload.projectId).isSome
  | .projectDeleted payload =>
    (findProjectById readModel payload.projectId).isSome ∧
      activeThreads readModel payload.projectId = []
  | .threadCreated payload =>
    (findProjectById readModel payload.projectId).isSome ∧
      findThreadById readModel payload.threadId = none
  | payload => ∀ threadId, payload.threadId = some threadId →
      (findThreadById readModel threadId).isSome

omit [Collation] in
theorem admissible_of_found {readModel : OrchestrationReadModel} {payload : EventPayload}
    {threadId : ThreadId} (hid : payload.threadId = some threadId)
    (hcreated : ∀ created, payload ≠ .threadCreated created)
    (hfound : (findThreadById readModel threadId).isSome) : Admissible readModel payload := by
  cases payload with
  | projectCreated | projectMetaUpdated | projectDeleted => cases hid
  | threadCreated created => exact absurd rfl (hcreated created)
  | _ =>
    intro other hother
    cases hid.symm.trans hother
    exact hfound

def AdmissiblePlan : OrchestrationReadModel → Nat → List PlannedOrchestrationEvent → Prop
  | _, _, [] => True
  | readModel, sequence, event :: events =>
    Admissible readModel event.payload ∧
      AdmissiblePlan (projectEvent readModel (event.withSequence (sequence + 1))) (sequence + 1)
        events

theorem projectPlanned_append (readModel : OrchestrationReadModel) (sequence : Nat)
    (events rest : List PlannedOrchestrationEvent) :
    projectPlanned readModel sequence (events ++ rest) =
      projectPlanned (projectPlanned readModel sequence events) (sequence + events.length)
        rest := by
  induction events generalizing readModel sequence with
  | nil => rfl
  | cons event events ih =>
    simp only [List.cons_append, projectPlanned, ih, List.length_cons]
    rw [Nat.add_right_comm, Nat.add_assoc]

theorem AdmissiblePlan.append {rest : List PlannedOrchestrationEvent}
    (h : AdmissiblePlan readModel sequence events)
    (hrest : AdmissiblePlan (projectPlanned readModel sequence events)
      (sequence + events.length) rest) :
    AdmissiblePlan readModel sequence (events ++ rest) := by
  induction events generalizing readModel sequence with
  | nil => simpa [projectPlanned] using hrest
  | cons event events ih =>
    refine ⟨h.1, ih h.2 ?_⟩
    simpa [projectPlanned, Nat.add_right_comm, Nat.add_assoc] using hrest

variable [TextRuntime]

theorem admissiblePlan_decideWith {decideSequence : List OrchestrationCommand → Decided}
    (sequence : Nat)
    (hsequence : ∀ c planned, command.body = .projectDelete c →
      decideSequence (forcedDeleteCommands command c.projectId
        (activeThreads readModel c.projectId)) = .ok planned →
      AdmissiblePlan readModel sequence planned)
    (h : decideWith decideSequence env readModel command = .ok events) :
    AdmissiblePlan readModel sequence events := by
  unfold decideWith at h
  cases hbody : command.body with
  | projectCreate c =>
    simp only [hbody, bind_eq_ok, requireProjectAbsent_eq_ok,
      requireProjectWorkspaceRootAbsent_eq_ok, Except.ok.injEq] at h
    obtain ⟨-, habsent, -, hroot, rfl⟩ := h
    exact ⟨⟨habsent, hroot⟩, trivial⟩
  | projectMetaUpdate c =>
    simp only [hbody, bind_eq_ok, requireProject_eq_ok, Except.ok.injEq] at h
    obtain ⟨project, hfound, rfl⟩ := h
    exact ⟨by simp [Admissible, hfound], trivial⟩
  | projectDelete c =>
    simp only [hbody, bind_eq_ok, requireProject_eq_ok] at h
    obtain ⟨project, hfound, h⟩ := h
    split at h
    · cases h
    · split at h
      · exact hsequence c events hbody h
      · rename_i hactive
        cases h
        refine ⟨⟨by simp [hfound], ?_⟩, trivial⟩
        exact List.length_eq_zero_iff.mp (Nat.eq_zero_of_not_pos hactive)
  | threadCreate c =>
    simp only [hbody, bind_eq_ok, requireProject_eq_ok, requireThreadAbsent_eq_ok,
      Except.ok.injEq] at h
    obtain ⟨project, hfound, -, habsent, rfl⟩ := h
    exact ⟨⟨by simp [hfound], habsent⟩, trivial⟩
  | threadArchive c =>
    simp only [hbody, bind_eq_ok, requireThreadNotArchived_eq_ok, Except.ok.injEq] at h
    obtain ⟨thread, ⟨hfound, -⟩, rfl⟩ := h
    exact ⟨admissible_of_found rfl (by simp) (by simp [hfound]), trivial⟩
  | threadUnarchive c =>
    simp only [hbody, bind_eq_ok, requireThreadArchived_eq_ok, Except.ok.injEq] at h
    obtain ⟨thread, ⟨hfound, -⟩, rfl⟩ := h
    exact ⟨admissible_of_found rfl (by simp) (by simp [hfound]), trivial⟩
  | threadTurnStart c =>
    simp only [hbody, bind_eq_ok, requireThread_eq_ok, Except.ok.injEq] at h
    obtain ⟨thread, hfound, -, -, rfl⟩ := h
    have hid := findThreadById_isSome.mp (Option.isSome_of_eq_some hfound)
    refine ⟨admissible_of_found rfl (by simp) (by simp [hfound]),
      admissible_of_found rfl (by simp) ?_, trivial⟩
    rw [findThreadById_isSome, projectEvent_threads]
    exact mem_ids_projectThreads _ hid
  | _ c =>
    simp only [hbody, bind_eq_ok, requireThread_eq_ok, Except.ok.injEq] at h
    obtain ⟨thread, hfound, rfl⟩ := h
    exact ⟨admissible_of_found rfl (by simp) (by simp [hfound]), trivial⟩

theorem admissiblePlan_decideUnforced (sequence : Nat)
    (h : decideUnforced env readModel command = .ok events) :
    AdmissiblePlan readModel sequence events := by
  refine admissiblePlan_decideWith sequence ?_ h
  intro c planned _ hplanned
  cases hplanned
  trivial

theorem admissiblePlan_sequence
    (h : decideCommandSequence decideUnforced env readModel sequence planned commands =
      .ok events) :
    ∃ rest, events = planned ++ rest ∧ AdmissiblePlan readModel sequence rest := by
  induction commands generalizing readModel sequence planned with
  | nil =>
    cases h
    exact ⟨[], by simp, trivial⟩
  | cons command commands ih =>
    simp only [decideCommandSequence, bind_eq_ok] at h
    obtain ⟨next, hnext, h⟩ := h
    obtain ⟨rest, rfl, hrest⟩ := ih h
    exact ⟨next ++ rest, by simp,
      (admissiblePlan_decideUnforced sequence hnext).append hrest⟩

theorem admissiblePlan_decide (h : decideOrchestrationCommand env readModel command = .ok events) :
    AdmissiblePlan readModel readModel.snapshotSequence events := by
  refine admissiblePlan_decideWith readModel.snapshotSequence ?_ h
  intro c planned _ hplanned
  obtain ⟨rest, rfl, hrest⟩ := admissiblePlan_sequence hplanned
  exact hrest

def PlannedBy : CommandBody → EventPayload → Prop
  | .projectCreate c, payload =>
    ∃ p, payload = .projectCreated p ∧ p.projectId = c.projectId ∧
      p.workspaceRoot = c.workspaceRoot
  | .projectMetaUpdate c, payload =>
    ∃ p, payload = .projectMetaUpdated p ∧ p.projectId = c.projectId ∧
      p.workspaceRoot = c.workspaceRoot
  | .projectDelete c, payload =>
    (∃ p, payload = .projectDeleted p ∧ p.projectId = c.projectId) ∨
      ∃ p, payload = .threadDeleted p
  | .threadCreate c, payload =>
    ∃ p, payload = .threadCreated p ∧ p.threadId = c.threadId ∧ p.projectId = c.projectId
  | _, payload => (∃ threadId, payload.threadId = some threadId) ∧ ∀ p, payload ≠ .threadCreated p

omit [Collation] in
theorem planned_decideWith {decideSequence : List OrchestrationCommand → Decided}
    {env : DecideEnv} {readModel : OrchestrationReadModel} {command : OrchestrationCommand}
    {events : List PlannedOrchestrationEvent}
    (hsequence : ∀ c planned, command.body = .projectDelete c →
      decideSequence (forcedDeleteCommands command c.projectId
        (activeThreads readModel c.projectId)) = .ok planned →
      ∀ event ∈ planned,
        PlannedBy command.body event.payload ∧ event.commandId = some command.commandId)
    (h : decideWith decideSequence env readModel command = .ok events) :
    ∀ event ∈ events,
      PlannedBy command.body event.payload ∧ event.commandId = some command.commandId := by
  unfold decideWith at h
  cases hbody : command.body with
  | projectCreate c =>
    simp only [hbody, bind_eq_ok, Except.ok.injEq] at h
    obtain ⟨-, -, -, -, rfl⟩ := h
    simp [PlannedBy, planProject, withEventBase]
  | projectDelete c =>
    simp only [hbody, bind_eq_ok] at h
    obtain ⟨-, -, h⟩ := h
    split at h
    · cases h
    · split at h
      · exact hbody ▸ hsequence c events hbody h
      · cases h
        simp [PlannedBy, planProject, withEventBase]
  | threadCreate c =>
    simp only [hbody, bind_eq_ok, Except.ok.injEq] at h
    obtain ⟨-, -, -, -, rfl⟩ := h
    simp [PlannedBy, planThread, withEventBase]
  | threadTurnStart c =>
    simp only [hbody, bind_eq_ok, Except.ok.injEq] at h
    obtain ⟨-, -, -, -, rfl⟩ := h
    simp [PlannedBy, EventPayload.threadId, withEventBase]
  | _ c =>
    simp only [hbody, bind_eq_ok, Except.ok.injEq] at h
    obtain ⟨-, -, rfl⟩ := h
    simp [PlannedBy, planProject, planThread, EventPayload.threadId, withEventBase]

theorem planned_sequence {c : ProjectDeleteCommand} {commandId : CommandId}
    (hcommands : ∀ command ∈ commands, command.commandId = commandId ∧
      ((∃ d, command.body = .threadDelete d) ∨
        ∃ d, command.body = .projectDelete d ∧ d.projectId = c.projectId))
    (hplanned : ∀ event ∈ planned,
      PlannedBy (.projectDelete c) event.payload ∧ event.commandId = some commandId)
    (h : decideCommandSequence decideUnforced env readModel sequence planned commands =
      .ok events) :
    ∀ event ∈ events,
      PlannedBy (.projectDelete c) event.payload ∧ event.commandId = some commandId := by
  induction commands generalizing readModel sequence planned with
  | nil =>
    cases h
    exact hplanned
  | cons command commands ih =>
    simp only [decideCommandSequence, bind_eq_ok] at h
    obtain ⟨next, hnext, h⟩ := h
    refine ih (fun other hother => hcommands other (List.mem_cons_of_mem _ hother)) ?_ h
    intro event hevent
    rcases List.mem_append.mp hevent with hold | hnew
    · exact hplanned event hold
    · obtain ⟨hplans, hid⟩ :=
        planned_decideWith (fun _ _ _ h => by cases h; simp) hnext event hnew
      obtain ⟨hcommand, hdeletes⟩ := hcommands command List.mem_cons_self
      refine ⟨?_, hcommand ▸ hid⟩
      rcases hdeletes with ⟨d, hd⟩ | ⟨d, hd, hproject⟩
      · simp only [decideUnforced, decideWith, hd, bind_eq_ok, Except.ok.injEq] at hnext
        obtain ⟨-, -, rfl⟩ := hnext
        rw [planThread, List.mem_singleton] at hnew
        subst hnew
        exact Or.inr ⟨_, rfl⟩
      · rw [hd] at hplans
        rcases hplans with ⟨p, hp, hpid⟩ | hthread
        · exact Or.inl ⟨p, hp, hpid.trans hproject⟩
        · exact Or.inr hthread

theorem planned_decide (h : decideOrchestrationCommand env readModel command = .ok events) :
    ∀ event ∈ events,
      PlannedBy command.body event.payload ∧ event.commandId = some command.commandId := by
  refine planned_decideWith ?_ h
  intro c planned hbody hplanned
  rw [hbody]
  refine planned_sequence ?_ (by simp) hplanned
  intro inner hinner
  rcases List.mem_append.mp hinner with hthread | hproject
  · obtain ⟨thread, -, rfl⟩ := List.mem_map.mp hthread
    exact ⟨rfl, Or.inl ⟨_, rfl⟩⟩
  · rw [List.mem_singleton] at hproject
    subst hproject
    exact ⟨rfl, Or.inr ⟨_, rfl, rfl⟩⟩

theorem plannedBy_decide (h : decideOrchestrationCommand env readModel command = .ok events) :
    ∀ event ∈ events, PlannedBy command.body event.payload :=
  fun event hevent => (planned_decide h event hevent).1

theorem commandId_decide (h : decideOrchestrationCommand env readModel command = .ok events) :
    ∀ event ∈ events, event.commandId = some command.commandId :=
  fun event hevent => (planned_decide h event hevent).2

omit [Collation] [TextRuntime] in
theorem projectMetaUpdate_of_plannedBy {body : CommandBody} {payload : ProjectMetaUpdatedPayload}
    (h : PlannedBy body (.projectMetaUpdated payload)) : ∃ c, body = .projectMetaUpdate c := by
  cases body <;> simp [PlannedBy, EventPayload.threadId] at h ⊢

omit [Collation] [TextRuntime] in
theorem threadCreate_of_plannedBy {body : CommandBody} {payload : ThreadCreatedPayload}
    (h : PlannedBy body (.threadCreated payload)) : ∃ c, body = .threadCreate c := by
  cases body <;> simp [PlannedBy, EventPayload.threadId] at h ⊢

theorem decide_projectMetaUpdate {c : ProjectMetaUpdateCommand}
    (hbody : command.body = .projectMetaUpdate c)
    (h : decideOrchestrationCommand env readModel command = .ok events) :
    ∃ event payload, events = [event] ∧ event.payload = .projectMetaUpdated payload ∧
      payload.projectId = c.projectId ∧ payload.workspaceRoot = c.workspaceRoot := by
  simp only [decideOrchestrationCommand, decideWith, hbody, bind_eq_ok, Except.ok.injEq] at h
  obtain ⟨-, -, rfl⟩ := h
  exact ⟨_, _, rfl, rfl, rfl, rfl⟩

theorem decide_threadCreate {c : ThreadCreateCommand} (hbody : command.body = .threadCreate c)
    (h : decideOrchestrationCommand env readModel command = .ok events) :
    ∃ event payload, events = [event] ∧ event.payload = .threadCreated payload ∧
      payload.threadId = c.threadId ∧ payload.projectId = c.projectId := by
  simp only [decideOrchestrationCommand, decideWith, hbody, bind_eq_ok, Except.ok.injEq] at h
  obtain ⟨-, -, -, -, rfl⟩ := h
  exact ⟨_, _, rfl, rfl, rfl, rfl⟩

end GT3Code.Orchestration
