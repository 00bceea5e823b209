import GT3Code.Base.PartialUpdates
import GT3Code.Provider.ProviderSessionDirectory

/-! # Overlapping updates of a binding

The updates of one thread's binding that name the same instance, each a read of the row and a
later write of the row merged from what was read.
-/

namespace GT3Code.Provider

open GT3Code.Base GT3Code.Contracts

inductive BindingField where
  | resumeCursor
  | runtimeMode
  | status
  | payload (key : String)

inductive BindingValue where
  | cursor (value : Json)
  | mode (value : RuntimeMode)
  | status (value : ProviderSessionRuntimeStatus)
  | entry (value : Option Json)

/-- The field of a row; a row that is not there has the values a first update starts from. -/
def fieldOf (row : Option ProviderSessionRuntime) : BindingField → BindingValue
  | .resumeCursor => .cursor ((row.map ProviderSessionRuntime.resumeCursor).getD .null)
  | .runtimeMode => .mode ((row.map ProviderSessionRuntime.runtimeMode).getD .fullAccess)
  | .status => .status ((row.map ProviderSessionRuntime.status).getD .running)
  | .payload key =>
    .entry (((row.map ProviderSessionRuntime.runtimePayload).getD .null).field? key)

/-- What an update sets. A payload that is no object replaces every key. -/
def setBy (binding : ProviderRuntimeBinding) : BindingField → Option BindingValue
  | .resumeCursor => binding.resumeCursor.map .cursor
  | .runtimeMode => binding.runtimeMode.map .mode
  | .status => binding.status.map .status
  | .payload key =>
    match binding.runtimePayload with
    | none => none
    | some (.obj entries) => (lookupEntry key entries).map fun value => .entry (some value)
    | some _ => some (.entry none)

/-- An update of the thread's binding under the name of the instance. -/
structure InstanceUpdate (threadId : ThreadId) (instanceId : ProviderInstanceId) where
  binding : ProviderRuntimeBinding
  threadId_eq : binding.threadId = threadId
  threadId_ne : threadId ≠ ""
  providerInstanceId_eq : binding.providerInstanceId = some instanceId

variable {threadId : ThreadId} {instanceId : ProviderInstanceId}

/-- An update that names its instance is written; one that is refused leaves the row. -/
def mergeUpdate (now : Nat) (row : Option ProviderSessionRuntime)
    (update : InstanceUpdate threadId instanceId) : Option ProviderSessionRuntime :=
  match upsert row update.binding now with
  | .ok next => some next
  | .error _ => row

theorem fieldOf_mergeUpdate (now : Nat) (row : Option ProviderSessionRuntime)
    (update : InstanceUpdate threadId instanceId) (f : BindingField) :
    fieldOf (mergeUpdate now row update) f = (setBy update.binding f).getD (fieldOf row f) := by
  have hthread : update.binding.threadId ≠ "" := by
    rw [update.threadId_eq]
    exact update.threadId_ne
  unfold mergeUpdate upsert
  rw [if_neg hthread]
  simp only [update.providerInstanceId_eq, Option.some_or]
  cases f with
  | resumeCursor =>
    unfold fieldOf setBy
    cases update.binding.resumeCursor with
    | none => rfl
    | some value => rfl
  | runtimeMode =>
    unfold fieldOf setBy
    cases update.binding.runtimeMode with
    | none => rfl
    | some value => rfl
  | status =>
    unfold fieldOf setBy
    cases update.binding.status with
    | none => rfl
    | some value => rfl
  | payload key =>
    unfold fieldOf setBy
    simp only [Option.map_some, Option.getD_some, field?_mergeRuntimePayload]
    cases update.binding.runtimePayload with
    | none => rfl
    | some next =>
      cases next with
      | obj entries =>
        simp only
        cases lookupEntry key entries with
        | none => rfl
        | some value => rfl
      | _ => rfl

def bindingMerging (threadId : ThreadId) (instanceId : ProviderInstanceId) :
    Merging (Option ProviderSessionRuntime) (InstanceUpdate threadId instanceId) Nat BindingField
      BindingValue where
  merge := mergeUpdate
  field := fieldOf
  sets update := setBy update.binding
  field_merge := fieldOf_mergeUpdate

/-- Overlapping updates of the binding lose nothing exactly where an update writes only while
the fields it does not carry are as it has read them. -/
theorem bindingUpdates_throughout_iff (threadId : ThreadId) (instanceId : ProviderInstanceId)
    (row : Option ProviderSessionRuntime)
    (actions : List (UpdateAction (InstanceUpdate threadId instanceId) Nat)) :
    Throughout (Updates.step (bindingMerging threadId instanceId))
        (Updates.NothingLost (bindingMerging threadId instanceId)) (Updates.initial row) actions ↔
      StepsMeet (Updates.step (bindingMerging threadId instanceId))
        (Updates.Undisturbed (bindingMerging threadId instanceId)) (Updates.initial row) actions :=
  Updates.nothingLost_throughout_iff row actions

def boundRow : ProviderSessionRuntime :=
  { threadId := "thread-1", providerName := "codex", providerInstanceId := some "codex"
    adapterKey := "codex", runtimeMode := .fullAccess, status := .running, lastSeenAt := 0
    resumeCursor := .str "cursor-1", runtimePayload := .null }

def sentTurn : InstanceUpdate "thread-1" "codex" where
  binding :=
    { threadId := "thread-1", provider := "codex", providerInstanceId := some "codex"
      adapterKey := none, status := some .running, resumeCursor := some (.str "cursor-2")
      runtimePayload := some (.obj [("activeTurnId", .str "turn-2")]), runtimeMode := none }
  threadId_eq := rfl
  threadId_ne := by decide
  providerInstanceId_eq := rfl

def listedSession : InstanceUpdate "thread-1" "codex" where
  binding :=
    { threadId := "thread-1", provider := "codex", providerInstanceId := some "codex"
      adapterKey := none, status := some .running, resumeCursor := none
      runtimePayload := some (.obj [("cwd", .null)]), runtimeMode := some .fullAccess }
  threadId_eq := rfl
  threadId_ne := by decide
  providerInstanceId_eq := rfl

def overlapped : List (UpdateAction (InstanceUpdate "thread-1" "codex") Nat) :=
  [.start listedSession, .start sentTurn, .finish 1 1, .finish 0 2]

/-- The cursor of a turn is lost to an update that read the row before. -/
theorem not_bindingUpdates_settled :
    ¬ ∀ (threadId : ThreadId) (instanceId : ProviderInstanceId)
        (row : Option ProviderSessionRuntime)
        (actions : List (UpdateAction (InstanceUpdate threadId instanceId) Nat))
        (state : Updates (Option ProviderSessionRuntime) (InstanceUpdate threadId instanceId)),
      exec (Updates.step (bindingMerging threadId instanceId)) (Updates.initial row) actions =
        some state → state.pending = [] → ∀ f,
          (∃ call ∈ state.finished, (setBy call.update.binding f).isSome) →
            state.Settled (bindingMerging threadId instanceId) f := by
  intro h
  obtain ⟨i, call, hcall, hset, -⟩ := h "thread-1" "codex" (some boundRow) overlapped _ rfl rfl
    .resumeCursor ⟨_, List.mem_cons_self, rfl⟩
  change setBy call.update.binding .resumeCursor =
    some (BindingValue.cursor (.str "cursor-1")) at hset
  rcases List.mem_cons.mp (List.mem_of_getElem? hcall) with rfl | hmem
  · have hvalue : Json.str "cursor-2" = .str "cursor-1" :=
      BindingValue.cursor.inj (Option.some.inj hset)
    exact absurd (Json.str.inj hvalue) (by decide)
  · rcases List.mem_cons.mp hmem with rfl | hmem
    · cases hset
    · cases hmem

end GT3Code.Provider
