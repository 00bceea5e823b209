import GT3Code.Server.SettingsUpdate

/-! # Secrecy of sensitive variables

Two runs of updates that differ in the values of sensitive variables only leave the same
cache and the same file, and differ in the secret store alone. What a client is given is read
from the cache and the secret store, and redacting it removes what came from the store.
-/

namespace GT3Code.Server

open GT3Code.Base GT3Code.Base.Json GT3Code.Contracts

structure SameButSecret (left right : ProviderInstanceEnvironmentVariable) : Prop where
  name : left.name = right.name
  sensitive : left.sensitive = right.sensitive
  valueRedacted : left.valueRedacted = right.valueRedacted
  value : left.value = right.value ∨
    left.sensitive = true ∧ 0 < left.value.length ∧ 0 < right.value.length

structure SameConfig (left right : ProviderInstanceConfig) : Prop where
  driver : left.driver = right.driver
  displayName : left.displayName = right.displayName
  accentColor : left.accentColor = right.accentColor
  environment : Option.Rel (List.Forall₂ SameButSecret) left.environment right.environment
  enabled : left.enabled = right.enabled
  config : left.config = right.config

def SameInstances (left right : ProviderInstances) : Prop :=
  List.Forall₂ (fun entry other => entry.1 = other.1 ∧ SameConfig entry.2 other.2)
    left.rows right.rows

structure SamePatch (left right : ServerSettingsPatch) : Prop where
  textGenerationModelSelection :
    left.textGenerationModelSelection = right.textGenerationModelSelection
  providerInstances : Option.Rel SameInstances left.providerInstances right.providerInstances
  fields : left.fields = right.fields

theorem SameButSecret.persistVariable {left right : ProviderInstanceEnvironmentVariable}
    (h : SameButSecret left right) (id : ProviderInstanceId) :
    persistVariable id left = persistVariable id right := by
  obtain ⟨name, value, sensitive, valueRedacted⟩ := left
  obtain ⟨name', value', sensitive', valueRedacted'⟩ := right
  obtain ⟨rfl, rfl, rfl, hvalue⟩ := h
  rcases hvalue with rfl | ⟨rfl, hleft, hright⟩
  · rfl
  · simp only [Server.persistVariable, redactProviderEnvironmentVariable,
      ProviderInstanceEnvironmentVariable.redacted, hleft, hright]
    by_cases hredacted : valueRedacted = some true <;> simp [hredacted]

theorem SameConfig.mapEnvironment {left right : ProviderInstanceConfig}
    (h : SameConfig left right) (id : ProviderInstanceId) :
    { left with environment := left.environment.map (List.map (persistVariable id)) } =
      { right with environment := right.environment.map (List.map (persistVariable id)) } := by
  obtain ⟨driver, displayName, accentColor, environment, enabled, config⟩ := left
  obtain ⟨driver', displayName', accentColor', environment', enabled', config'⟩ := right
  obtain ⟨rfl, rfl, rfl, henvironment, rfl, rfl⟩ := h
  have hmap : environment.map (List.map (persistVariable id)) =
      environment'.map (List.map (persistVariable id)) := by
    cases henvironment with
    | none => rfl
    | some hvariables =>
      refine congrArg some ?_
      induction hvariables with
      | nil => rfl
      | cons hvariable _ ih => rw [List.map_cons, List.map_cons, hvariable.persistVariable, ih]
  simp only [hmap]

theorem SameInstances.persist {left right : ProviderInstances} (h : SameInstances left right) :
    mapEnvironments persistVariable left = mapEnvironments persistVariable right := by
  apply KeyedTable.ext
  rw [mapEnvironments, mapEnvironments, KeyedTable.rows_amend, KeyedTable.rows_amend]
  unfold SameInstances at h
  generalize left.rows = rows at h ⊢
  generalize right.rows = rows' at h ⊢
  induction h with
  | nil => rfl
  | cons hentry _ ih =>
    rw [List.map_cons, List.map_cons, ih, hentry.2.mapEnvironment, hentry.1]

theorem SamePatch.nextSettings (runtime : SettingsRuntime) (current : ServerSettings)
    {left right : ServerSettingsPatch} (h : SamePatch left right) :
    nextSettings runtime current left = nextSettings runtime current right := by
  obtain ⟨selection, instances, fields⟩ := left
  obtain ⟨selection', instances', fields'⟩ := right
  obtain ⟨rfl, hinstances, rfl⟩ := h
  have hpersist : mapEnvironments persistVariable (instances.getD current.providerInstances) =
      mapEnvironments persistVariable (instances'.getD current.providerInstances) := by
    cases hinstances with
    | none => rfl
    | some hsame => exact hsame.persist
  cases selection <;>
    simp only [Server.nextSettings, persistProviderEnvironmentSecrets, applyServerSettingsPatch,
      hpersist]

theorem redact_materialize (secrets : Secrets) (id : ProviderInstanceId)
    (envVar : ProviderInstanceEnvironmentVariable) :
    redactProviderEnvironmentVariable (materializeVariable secrets id envVar) =
      redactProviderEnvironmentVariable envVar := by
  obtain ⟨name, value, sensitive, valueRedacted⟩ := envVar
  cases sensitive with
  | false => rfl
  | true =>
    by_cases hredacted : valueRedacted = some true <;>
      simp [materializeVariable, redactProviderEnvironmentVariable,
        ProviderInstanceEnvironmentVariable.redacted, hredacted]

theorem mapEnvironments_mapEnvironments (f g : ProviderInstanceId →
      ProviderInstanceEnvironmentVariable → ProviderInstanceEnvironmentVariable)
    (instances : ProviderInstances) :
    mapEnvironments f (mapEnvironments g instances) =
      mapEnvironments (fun id envVar => f id (g id envVar)) instances := by
  apply KeyedTable.ext
  simp only [mapEnvironments, KeyedTable.rows_amend, List.map_map]
  refine List.map_congr_left (fun entry _ => ?_)
  simp [Function.comp_def]

theorem resolve_mapEnvironments (f : ProviderInstanceId → ProviderInstanceEnvironmentVariable →
      ProviderInstanceEnvironmentVariable) (settings : ServerSettings) :
    resolveTextGenerationProvider
        { settings with providerInstances := mapEnvironments f settings.providerInstances } =
      { resolveTextGenerationProvider settings with
        providerInstances := mapEnvironments f settings.providerInstances } := by
  have hfallback : fallbackTextGenerationProvider
      { settings with providerInstances := mapEnvironments f settings.providerInstances } =
        { fallbackTextGenerationProvider settings with
          providerInstances := mapEnvironments f settings.providerInstances } := by
    simp only [fallbackTextGenerationProvider, legacyProviders]
    split <;> rfl
  have hget : ∀ id, KeyedMap.get id (mapEnvironments f settings.providerInstances) =
      (KeyedMap.get id settings.providerInstances).map (fun config =>
        { config with environment := config.environment.map (List.map (f id)) }) := by
    intro id
    rw [KeyedMap.get, mapEnvironments, KeyedTable.lookup_amend, KeyedMap.get, Option.map_map,
      Option.map_map]
    refine Option.map_congr (fun entry hentry => ?_)
    have hkey : entry.1 = id := Option.some.inj (KeyedTable.lookup_eq_some_iff.mp hentry).2
    rw [← hkey]
    rfl
  have hlegacy : legacyProviders
      { settings with providerInstances := mapEnvironments f settings.providerInstances } =
        legacyProviders settings := rfl
  unfold resolveTextGenerationProvider
  simp only [hget, hfallback, hlegacy]
  cases KeyedMap.get settings.textGenerationModelSelection.instanceId settings.providerInstances with
  | some config =>
    simp only [Option.map_some]
    split <;> rfl
  | none =>
    simp only [Option.map_none]
    cases (legacyProviders settings).find?
        (fun entry => entry.1 = settings.textGenerationModelSelection.instanceId) with
    | some entry => simp only; split <;> rfl
    | none => rfl

theorem redact_getSettings (state : SettingsState) :
    redactServerSettingsForClient (getSettings state) =
      redactServerSettingsForClient (resolveTextGenerationProvider state.cache) := by
  unfold getSettings materializeProviderEnvironmentSecrets
  rw [resolve_mapEnvironments]
  simp only [redactServerSettingsForClient, providerInstances_resolve,
    mapEnvironments_mapEnvironments, redact_materialize]

def updateAll (runtime : SettingsRuntime) (state : SettingsState)
    (patches : List ServerSettingsPatch) : SettingsState :=
  patches.foldl (fun state patch => updateSettings runtime state patch none) state

/-- The states have the same settings, in the cache and in the file. -/
def SameSettings (left right : SettingsState) : Prop :=
  left.cache = right.cache ∧ left.file = right.file

theorem settings_updateSettings (runtime : SettingsRuntime) (state : SettingsState)
    (patch : ServerSettingsPatch) :
    (updateSettings runtime state patch none).cache = nextSettings runtime state.cache patch ∧
      (updateSettings runtime state patch none).file =
        runtime.fileContents (nextSettings runtime state.cache patch) := by
  rw [updateSettings, cache_applyAll, file_applyAll, lastWrite_cache_updateOperations,
    lastWrite_file_updateOperations]
  exact ⟨rfl, rfl⟩

variable {left right : SettingsState}

theorem SameSettings.update (runtime : SettingsRuntime) (h : SameSettings left right)
    {patch patch' : ServerSettingsPatch} (hpatch : SamePatch patch patch') :
    SameSettings (updateSettings runtime left patch none)
      (updateSettings runtime right patch' none) := by
  obtain ⟨hcache, hfile⟩ := settings_updateSettings runtime left patch
  obtain ⟨hcache', hfile'⟩ := settings_updateSettings runtime right patch'
  have hnext : nextSettings runtime left.cache patch = nextSettings runtime right.cache patch' := by
    rw [h.1, hpatch.nextSettings]
  exact ⟨by rw [hcache, hcache', hnext], by rw [hfile, hfile', hnext]⟩

theorem SameSettings.updateAll (runtime : SettingsRuntime) (h : SameSettings left right)
    {patches patches' : List ServerSettingsPatch}
    (hpatches : List.Forall₂ SamePatch patches patches') :
    SameSettings (Server.updateAll runtime left patches)
      (Server.updateAll runtime right patches') := by
  induction hpatches generalizing left right with
  | nil => exact h
  | cons hpatch _ ih => exact ih (h.update runtime hpatch)

/-- Two sequences of successful updates that differ in non-empty values of sensitive variables
leave the same file and the same cache, and give a client the same settings. -/
theorem secrets_stay_hidden (runtime : SettingsRuntime) (state : SettingsState)
    (patches patches' : List ServerSettingsPatch)
    (hpatches : List.Forall₂ SamePatch patches patches') :
    (updateAll runtime state patches).file = (updateAll runtime state patches').file ∧
      (updateAll runtime state patches).cache = (updateAll runtime state patches').cache ∧
      redactServerSettingsForClient (getSettings (updateAll runtime state patches)) =
        redactServerSettingsForClient (getSettings (updateAll runtime state patches')) := by
  have hstart : SameSettings state state := ⟨rfl, rfl⟩
  obtain ⟨hcache, hfile⟩ := hstart.updateAll runtime hpatches
  refine ⟨hfile, hcache, ?_⟩
  rw [redact_getSettings, redact_getSettings, hcache]

/-- `replaceKey` with another value. -/
def replaceKeyElse : ServerSettingsPatch where
  textGenerationModelSelection := none
  providerInstances := some (instanceWith "codex"
    { name := "API_KEY", value := "other", sensitive := true, valueRedacted := none })
  fields := .obj []

/-- Two values for one variable. -/
theorem secrets_stay_hidden_replaced :
    (updateAll plainRuntime keyStored [replaceKey]).file =
        (updateAll plainRuntime keyStored [replaceKeyElse]).file ∧
      (updateAll plainRuntime keyStored [replaceKey]).cache =
        (updateAll plainRuntime keyStored [replaceKeyElse]).cache ∧
      redactServerSettingsForClient (getSettings (updateAll plainRuntime keyStored [replaceKey])) =
        redactServerSettingsForClient
          (getSettings (updateAll plainRuntime keyStored [replaceKeyElse])) := by
  refine secrets_stay_hidden plainRuntime keyStored [replaceKey] [replaceKeyElse]
    (.cons ⟨rfl, .some (.cons ⟨rfl, ?_⟩ .nil), rfl⟩ .nil)
  have hvariable : SameButSecret
      { name := "API_KEY", value := "new", sensitive := true, valueRedacted := none }
      { name := "API_KEY", value := "other", sensitive := true, valueRedacted := none } :=
    ⟨rfl, rfl, rfl, Or.inr ⟨rfl, by decide, by decide⟩⟩
  exact ⟨rfl, rfl, rfl, .some (.cons hvariable .nil), rfl, rfl⟩

end GT3Code.Server
