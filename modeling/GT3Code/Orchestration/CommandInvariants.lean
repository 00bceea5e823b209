import GT3Code.Contracts.Events

/-! # Command invariants

The lookups and guards a command goes through before it plans an event.
-/

namespace GT3Code.Orchestration

open GT3Code.Contracts

structure OrchestrationCommandInvariantError where
  commandType : String
  detail : String

def invariantError (commandType detail : String) : OrchestrationCommandInvariantError :=
  ⟨commandType, detail⟩

def findThreadById (readModel : OrchestrationReadModel) (threadId : ThreadId) :
    Option OrchestrationThread :=
  readModel.threads.find? (fun thread => thread.id = threadId)

def findProjectById (readModel : OrchestrationReadModel) (projectId : ProjectId) :
    Option OrchestrationProject :=
  readModel.projects.find? (fun project => project.id = projectId)

def findActiveProjectByWorkspaceRoot (readModel : OrchestrationReadModel) (workspaceRoot : String) :
    Option OrchestrationProject :=
  readModel.projects.find? (fun project =>
    project.deletedAt = none ∧ project.workspaceRoot = workspaceRoot)

def listThreadsByProjectId (readModel : OrchestrationReadModel) (projectId : ProjectId) :
    List OrchestrationThread :=
  readModel.threads.filter (fun thread => thread.projectId = projectId)

def requireFound {α : Type} (commandType detail : String) :
    Option α → Except OrchestrationCommandInvariantError α
  | some value => .ok value
  | none => .error (invariantError commandType detail)

def requireAbsent {α : Type} (commandType : String) (detail : α → String) :
    Option α → Except OrchestrationCommandInvariantError Unit
  | none => .ok ()
  | some value => .error (invariantError commandType (detail value))

def requireProject (readModel : OrchestrationReadModel) (command : OrchestrationCommand)
    (projectId : ProjectId) : Except OrchestrationCommandInvariantError OrchestrationProject :=
  requireFound command.body.type
    ("Project '" ++ projectId ++ "' does not exist for command '" ++ command.body.type ++ "'.")
    (findProjectById readModel projectId)

def requireProjectAbsent (readModel : OrchestrationReadModel) (command : OrchestrationCommand)
    (projectId : ProjectId) : Except OrchestrationCommandInvariantError Unit :=
  requireAbsent command.body.type
    (fun _ => "Project '" ++ projectId ++ "' already exists and cannot be created twice.")
    (findProjectById readModel projectId)

def requireProjectWorkspaceRootAbsent (readModel : OrchestrationReadModel)
    (command : OrchestrationCommand) (workspaceRoot : String) :
    Except OrchestrationCommandInvariantError Unit :=
  requireAbsent command.body.type
    (fun existingProject => "Project workspace root '" ++ workspaceRoot ++
      "' is already active for project '" ++ existingProject.id ++ "'.")
    (findActiveProjectByWorkspaceRoot readModel workspaceRoot)

def requireThread (readModel : OrchestrationReadModel) (command : OrchestrationCommand)
    (threadId : ThreadId) : Except OrchestrationCommandInvariantError OrchestrationThread :=
  requireFound command.body.type
    ("Thread '" ++ threadId ++ "' does not exist for command '" ++ command.body.type ++ "'.")
    (findThreadById readModel threadId)

def requireThreadArchived (readModel : OrchestrationReadModel) (command : OrchestrationCommand)
    (threadId : ThreadId) : Except OrchestrationCommandInvariantError OrchestrationThread :=
  (requireThread readModel command threadId).bind (fun thread =>
    if thread.archivedAt ≠ none then .ok thread
    else .error (invariantError command.body.type
      ("Thread '" ++ threadId ++ "' is not archived for command '" ++ command.body.type ++ "'.")))

def requireThreadNotArchived (readModel : OrchestrationReadModel) (command : OrchestrationCommand)
    (threadId : ThreadId) : Except OrchestrationCommandInvariantError OrchestrationThread :=
  (requireThread readModel command threadId).bind (fun thread =>
    if thread.archivedAt = none then .ok thread
    else .error (invariantError command.body.type
      ("Thread '" ++ threadId ++ "' is already archived and cannot handle command '" ++
        command.body.type ++ "'.")))

def requireThreadAbsent (readModel : OrchestrationReadModel) (command : OrchestrationCommand)
    (threadId : ThreadId) : Except OrchestrationCommandInvariantError Unit :=
  requireAbsent command.body.type
    (fun _ => "Thread '" ++ threadId ++ "' already exists and cannot be created twice.")
    (findThreadById readModel threadId)

variable {commandType : String} {projectId : ProjectId}

@[simp] theorem requireFound_eq_ok {α : Type} {detail : String} {found : Option α} {value : α} :
    requireFound commandType detail found = .ok value ↔ found = some value := by
  cases found <;> simp [requireFound]

variable {u : Unit} {threadId : ThreadId} {thread : OrchestrationThread}

@[simp] theorem requireAbsent_eq_ok {α : Type} {detail : α → String} {found : Option α} :
    requireAbsent commandType detail found = .ok u ↔ found = none := by
  cases found <;> simp [requireAbsent]

variable {readModel : OrchestrationReadModel} {command : OrchestrationCommand}

@[simp] theorem requireProject_eq_ok {project : OrchestrationProject} :
    requireProject readModel command projectId = .ok project ↔
      findProjectById readModel projectId = some project :=
  requireFound_eq_ok

@[simp] theorem requireProjectAbsent_eq_ok :
    requireProjectAbsent readModel command projectId = .ok u ↔
      findProjectById readModel projectId = none :=
  requireAbsent_eq_ok

@[simp] theorem requireProjectWorkspaceRootAbsent_eq_ok {workspaceRoot : String} :
    requireProjectWorkspaceRootAbsent readModel command workspaceRoot = .ok u ↔
      findActiveProjectByWorkspaceRoot readModel workspaceRoot = none :=
  requireAbsent_eq_ok

@[simp] theorem requireThread_eq_ok :
    requireThread readModel command threadId = .ok thread ↔
      findThreadById readModel threadId = some thread :=
  requireFound_eq_ok

@[simp] theorem requireThreadAbsent_eq_ok :
    requireThreadAbsent readModel command threadId = .ok u ↔
      findThreadById readModel threadId = none :=
  requireAbsent_eq_ok

@[simp] theorem requireThreadArchived_eq_ok :
    requireThreadArchived readModel command threadId = .ok thread ↔
      findThreadById readModel threadId = some thread ∧ thread.archivedAt ≠ none := by
  simp only [requireThreadArchived, requireThread]
  cases findThreadById readModel threadId with
  | none => simp [requireFound, Except.bind]
  | some found =>
    by_cases h : found.archivedAt = none <;> simp [requireFound, Except.bind, h]
    · rintro rfl
      exact h
    · rintro rfl
      exact h

@[simp] theorem requireThreadNotArchived_eq_ok :
    requireThreadNotArchived readModel command threadId = .ok thread ↔
      findThreadById readModel threadId = some thread ∧ thread.archivedAt = none := by
  simp only [requireThreadNotArchived, requireThread]
  cases findThreadById readModel threadId with
  | none => simp [requireFound, Except.bind]
  | some found =>
    by_cases h : found.archivedAt = none <;> simp [requireFound, Except.bind, h]
    · rintro rfl
      exact h
    · rintro rfl
      exact h

end GT3Code.Orchestration
