import GT3Code.Contracts.ProviderSession

/-! # Provider session directory

The persisted binding of a thread to a provider instance, and how an update is merged into it.
-/

namespace GT3Code.Provider

open GT3Code.Contracts

inductive ProviderSessionRuntimeStatus where
  | starting
  | running
  | stopped
  | error

/-- A persisted row. A value that is `null` is the value `.null`. -/
structure ProviderSessionRuntime where
  threadId : ThreadId
  providerName : String
  providerInstanceId : Option ProviderInstanceId
  adapterKey : String
  runtimeMode : RuntimeMode
  status : ProviderSessionRuntimeStatus
  lastSeenAt : Nat
  resumeCursor : Json
  runtimePayload : Json

structure ProviderRuntimeBinding where
  threadId : ThreadId
  provider : ProviderDriverKind
  providerInstanceId : Option ProviderInstanceId
  adapterKey : Option String
  status : Option ProviderSessionRuntimeStatus
  resumeCursor : Option Json
  runtimePayload : Option Json
  runtimeMode : Option RuntimeMode

structure ProviderValidationError where
  operation : String
  issue : String

/-- `object[key]`. -/
def lookupEntry (key : String) (entries : List (String × Json)) : Option Json :=
  (entries.find? fun entry => entry.1 = key).map Prod.snd

/-- `{ ...existing, ...next }`: a key that is there keeps its place. -/
def spreadEntries (existing next : List (String × Json)) : List (String × Json) :=
  existing.map (fun entry => (entry.1, (lookupEntry entry.1 next).getD entry.2)) ++
    next.filter fun entry => (lookupEntry entry.1 existing).isNone

def mergeRuntimePayload (existing : Json) : Option Json → Json
  | none => existing
  | some next =>
    match existing, next with
    | .obj existingEntries, .obj nextEntries => .obj (spreadEntries existingEntries nextEntries)
    | _, _ => next

theorem lookupEntry_cons (key : String) (entry : String × Json) (rest : List (String × Json)) :
    lookupEntry key (entry :: rest) = if entry.1 = key then some entry.2 else lookupEntry key rest := by
  unfold lookupEntry
  rw [List.find?_cons]
  by_cases h : entry.1 = key
  · simp [h]
  · simp [h]

theorem lookupEntry_append (key : String) (first second : List (String × Json)) :
    lookupEntry key (first ++ second) = (lookupEntry key first).or (lookupEntry key second) := by
  unfold lookupEntry
  rw [List.find?_append]
  cases first.find? fun entry => entry.1 = key with
  | none => rfl
  | some entry => rfl

theorem lookupEntry_overwrite (key : String) (existing next : List (String × Json)) :
    lookupEntry key (existing.map fun entry =>
        (entry.1, (lookupEntry entry.1 next).getD entry.2)) =
      (lookupEntry key existing).map fun value => (lookupEntry key next).getD value := by
  induction existing with
  | nil => rfl
  | cons entry rest ih =>
    rw [List.map_cons, lookupEntry_cons, lookupEntry_cons]
    by_cases h : entry.1 = key
    · rw [if_pos h, if_pos h, h]
      rfl
    · rw [if_neg h, if_neg h, ih]

theorem lookupEntry_filter {key : String} {p : String → Bool} (h : p key = true)
    (entries : List (String × Json)) :
    lookupEntry key (entries.filter fun entry => p entry.1) = lookupEntry key entries := by
  induction entries with
  | nil => rfl
  | cons entry rest ih =>
    rw [lookupEntry_cons, List.filter_cons]
    by_cases hkey : entry.1 = key
    · rw [if_pos hkey, hkey, if_pos h, lookupEntry_cons, if_pos hkey]
    · rw [if_neg hkey]
      split
      · rw [lookupEntry_cons, if_neg hkey, ih]
      · exact ih

theorem lookupEntry_spreadEntries (key : String) (existing next : List (String × Json)) :
    lookupEntry key (spreadEntries existing next) =
      (lookupEntry key next).or (lookupEntry key existing) := by
  unfold spreadEntries
  rw [lookupEntry_append, lookupEntry_overwrite]
  cases hexisting : lookupEntry key existing with
  | some value =>
    cases lookupEntry key next with
    | none => rfl
    | some overwritten => rfl
  | none =>
    have hfilter := @lookupEntry_filter key (fun key => (lookupEntry key existing).isNone)
      (by rw [hexisting]; rfl) next
    rw [hfilter, Option.map_none, Option.none_or, Option.or_none]

theorem field?_mergeRuntimePayload (existing : Json) (next : Option Json) (key : String) :
    (mergeRuntimePayload existing next).field? key =
      match next with
      | none => existing.field? key
      | some (.obj entries) => (lookupEntry key entries).or (existing.field? key)
      | some _ => none := by
  cases next with
  | none => rfl
  | some next =>
    cases next with
    | obj entries =>
      cases existing with
      | obj existingEntries => exact lookupEntry_spreadEntries key existingEntries entries
      | _ => exact (Option.or_none).symm
    | _ => cases existing <;> rfl

def upsert (existing : Option ProviderSessionRuntime) (binding : ProviderRuntimeBinding) (now : Nat) :
    Except ProviderValidationError ProviderSessionRuntime :=
  if binding.threadId = "" then
    .error { operation := "ProviderSessionDirectory.upsert"
             issue := "threadId must be a non-empty string." }
  else
    let providerChanged := existing.any fun row => row.providerName ≠ binding.provider
    let providerInstanceId := binding.providerInstanceId.or
      (if providerChanged then none
       else existing.bind ProviderSessionRuntime.providerInstanceId)
    match providerInstanceId with
    | none =>
      .error { operation := "ProviderSessionDirectory.upsert"
               issue := "providerInstanceId is required for provider session runtime bindings." }
    | some instanceId =>
      .ok {
        threadId := binding.threadId
        providerName := binding.provider
        providerInstanceId := some instanceId
        adapterKey := binding.adapterKey.getD
          (if providerChanged then binding.provider
           else (existing.map ProviderSessionRuntime.adapterKey).getD binding.provider)
        runtimeMode := (binding.runtimeMode.or
          (existing.map ProviderSessionRuntime.runtimeMode)).getD .fullAccess
        status := (binding.status.or (existing.map ProviderSessionRuntime.status)).getD .running
        lastSeenAt := now
        resumeCursor := binding.resumeCursor.getD
          ((existing.map ProviderSessionRuntime.resumeCursor).getD .null)
        runtimePayload := mergeRuntimePayload
          ((existing.map ProviderSessionRuntime.runtimePayload).getD .null)
          binding.runtimePayload }

structure Upserted (existing : Option ProviderSessionRuntime) (binding : ProviderRuntimeBinding)
    (now : Nat) (row : ProviderSessionRuntime) : Prop where
  threadId : row.threadId = binding.threadId
  providerName : row.providerName = binding.provider
  providerInstanceId : ∀ instanceId, binding.providerInstanceId = some instanceId →
    row.providerInstanceId = some instanceId
  lastSeenAt : row.lastSeenAt = now
  resumeCursor : row.resumeCursor = binding.resumeCursor.getD
    ((existing.map ProviderSessionRuntime.resumeCursor).getD .null)
  runtimePayload : row.runtimePayload = mergeRuntimePayload
    ((existing.map ProviderSessionRuntime.runtimePayload).getD .null) binding.runtimePayload

theorem upserted_of_ok {existing : Option ProviderSessionRuntime} {binding : ProviderRuntimeBinding}
    {now : Nat} {row : ProviderSessionRuntime} (h : upsert existing binding now = .ok row) :
    Upserted existing binding now row := by
  unfold upsert at h
  split at h
  · cases h
  · simp only at h
    split at h
    · cases h
    · rename_i instanceId hinstance
      cases h
      refine ⟨rfl, rfl, ?_, rfl, rfl, rfl⟩
      intro named hnamed
      rw [hnamed, Option.some_or] at hinstance
      rw [hinstance]

end GT3Code.Provider
