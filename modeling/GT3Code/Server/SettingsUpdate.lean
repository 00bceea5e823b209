import GT3Code.Base.LastWrite
import GT3Code.Server.ServerSettings

/-! # What an update of the settings leaves

The three stores after a list of calls are given by the last call that sets each of
them. From this follow when a failed update has left everything as it was, and what
a successful one makes readable.
-/

namespace GT3Code.Server

open GT3Code.Base GT3Code.Base.Json GT3Code.Contracts
open GT3Code.Base.Base64Url (Byte)

section Calls

variable (runtime : SettingsRuntime)

def Operation.secretWritten? (secretName : String) : Operation → Option (Option (List Byte))
  | .renameSecret name value => if name = secretName then some (some value) else none
  | .removeSecret name => if name = secretName then some none else none
  | _ => none

def Operation.fileWritten? : Operation → Option String
  | .writeSettings settings => some (runtime.fileContents settings)
  | _ => none

def Operation.cacheWritten? : Operation → Option ServerSettings
  | .cacheSettings settings => some settings
  | _ => none

theorem get_applyAll (secretName : String) (state : SettingsState) (operations : List Operation) :
    KeyedMap.get secretName (applyAll runtime state operations).secrets =
      (lastWrite (Operation.secretWritten? secretName) operations).getD
        (KeyedMap.get secretName state.secrets) := by
  refine component_foldl (fun state => KeyedMap.get secretName state.secrets) ?_ state operations
  intro state operation
  cases operation with
  | renameSecret name value =>
    by_cases h : name = secretName
    · subst h
      simp [Operation.apply, Operation.secretWritten?]
    · simp [Operation.apply, Operation.secretWritten?, h, KeyedMap.get_set_of_ne (Ne.symm h)]
  | removeSecret name =>
    by_cases h : name = secretName
    · subst h
      simp [Operation.apply, Operation.secretWritten?]
    · simp [Operation.apply, Operation.secretWritten?, h, KeyedMap.get_delete_of_ne (Ne.symm h)]
  | _ => rfl

theorem file_applyAll (state : SettingsState) (operations : List Operation) :
    (applyAll runtime state operations).file =
      (lastWrite (Operation.fileWritten? runtime) operations).getD state.file := by
  refine component_foldl SettingsState.file ?_ state operations
  intro state operation
  cases operation <;> rfl

theorem cache_applyAll (state : SettingsState) (operations : List Operation) :
    (applyAll runtime state operations).cache =
      (lastWrite Operation.cacheWritten? operations).getD state.cache := by
  refine component_foldl SettingsState.cache ?_ state operations
  intro state operation
  cases operation <;> rfl

end Calls

theorem providerInstances_fallback (settings : ServerSettings) :
    (fallbackTextGenerationProvider settings).providerInstances = settings.providerInstances := by
  unfold fallbackTextGenerationProvider
  split <;> rfl

theorem providerInstances_resolve (settings : ServerSettings) :
    (resolveTextGenerationProvider settings).providerInstances = settings.providerInstances := by
  simp only [resolveTextGenerationProvider]
  split
  · split
    · rfl
    · exact providerInstances_fallback settings
  · split
    · split
      · rfl
      · exact providerInstances_fallback settings
    · exact providerInstances_fallback settings

variable {settings : ServerSettings} {envVar : ProviderInstanceEnvironmentVariable}
  {config : ProviderInstanceConfig} {environment : List ProviderInstanceEnvironmentVariable}
  {index : Nat}

theorem mem_environmentVariables {id : ProviderInstanceId} :
    (id, envVar) ∈ environmentVariables settings ↔
      ∃ config environment, (id, config) ∈ settings.providerInstances.rows ∧
        config.environment = some environment ∧ envVar ∈ environment := by
  simp only [environmentVariables, List.mem_flatMap, List.mem_map, Prod.mk.injEq, Prod.exists]
  constructor
  · rintro ⟨id, config, hrow, other, hmem, rfl, rfl⟩
    cases henvironment : config.environment with
    | none => simp [henvironment] at hmem
    | some environment =>
      rw [henvironment] at hmem
      exact ⟨config, environment, hrow, henvironment, hmem⟩
  · rintro ⟨config, environment, hrow, henvironment, hmem⟩
    exact ⟨id, config, hrow, envVar, by simpa [henvironment] using hmem, rfl, rfl⟩

theorem mapEnvironments_eq_iff
    {f g : ProviderInstanceId → ProviderInstanceEnvironmentVariable →
      ProviderInstanceEnvironmentVariable} :
    mapEnvironments f settings.providerInstances = mapEnvironments g settings.providerInstances ↔
      ∀ entry ∈ environmentVariables settings, f entry.1 entry.2 = g entry.1 entry.2 := by
  rw [KeyedTable.ext_iff, mapEnvironments, mapEnvironments, KeyedTable.rows_amend,
    KeyedTable.rows_amend, List.map_inj_left]
  constructor
  · rintro h ⟨id, envVar⟩ hmem
    obtain ⟨config, environment, hrow, henvironment, hvariable⟩ :=
      mem_environmentVariables.mp hmem
    have hrows := congrArg (fun entry => entry.2.environment) (h (id, config) hrow)
    simp only [henvironment, Option.map_some, Option.some.injEq, List.map_inj_left] at hrows
    exact hrows envVar hvariable
  · rintro h ⟨id, config⟩ hrow
    cases henvironment : config.environment with
    | none => simp
    | some environment =>
      have hmap : environment.map (f id) = environment.map (g id) := by
        refine List.map_congr_left (fun envVar hvariable => ?_)
        exact h (id, envVar)
          (mem_environmentVariables.mpr ⟨config, environment, hrow, henvironment, hvariable⟩)
      simp [hmap]

def secretsRead (settings : ServerSettings) : List String :=
  ((environmentVariables settings).filter
    (fun entry => entry.2.sensitive && entry.2.redacted)).map secretNameOf

theorem getSettings_eq_iff {state after : SettingsState} (hcache : after.cache = state.cache) :
    getSettings after = getSettings state ↔
      ∀ secretName ∈ secretsRead state.cache,
        secretValue (KeyedMap.get secretName after.secrets) =
          secretValue (KeyedMap.get secretName state.secrets) := by
  have hmaterialized : getSettings after = getSettings state ↔
      mapEnvironments (materializeVariable after.secrets) state.cache.providerInstances =
        mapEnvironments (materializeVariable state.secrets) state.cache.providerInstances := by
    constructor
    · intro h
      have hinstances := congrArg ServerSettings.providerInstances h
      simp only [getSettings, providerInstances_resolve, hcache] at hinstances
      exact hinstances
    · intro h
      simp only [getSettings, materializeProviderEnvironmentSecrets, hcache, h]
  rw [hmaterialized, mapEnvironments_eq_iff]
  constructor
  · intro h secretName hname
    obtain ⟨entry, hentry, rfl⟩ := List.mem_map.mp hname
    obtain ⟨hmem, hread⟩ := List.mem_filter.mp hentry
    have hvalue := congrArg ProviderInstanceEnvironmentVariable.value (h entry hmem)
    simpa [materializeVariable, hread, secretNameOf] using hvalue
  · intro h entry hmem
    unfold materializeVariable
    split
    · rename_i hread
      have hvalue := h (secretNameOf entry)
        (List.mem_map_of_mem (List.mem_filter.mpr ⟨hmem, hread⟩))
      rw [secretNameOf] at hvalue
      rw [hvalue]
    · rfl

/-- Cache and file are as they were, and so is everything that is read of the settings. -/
def Unchanged (before after : SettingsState) : Prop :=
  after.cache = before.cache ∧ after.file = before.file ∧
    getSettings after = getSettings before

/-! ## Successful updates -/

/-- What a variable that is not redacted leaves as the secret under its name. -/
def givenSecret (envVar : ProviderInstanceEnvironmentVariable) : Option (List Byte) :=
  if envVar.sensitive && decide (envVar.value.length > 0) then some (encodeText envVar.value)
  else none

/-- The last of the variables under this secret name that is not redacted. -/
def lastGiven (secretName : String)
    (entries : List (ProviderInstanceId × ProviderInstanceEnvironmentVariable)) :
    Option ProviderInstanceEnvironmentVariable :=
  lastWrite (fun entry =>
    if secretNameOf entry = secretName ∧ (entry.2.sensitive && entry.2.redacted) = false then
      some entry.2
    else none) entries

theorem lastWrite_persistOperations (secretName : String)
    (entry : ProviderInstanceId × ProviderInstanceEnvironmentVariable) :
    lastWrite (Operation.secretWritten? secretName) (persistOperations entry.1 entry.2) =
      (if secretNameOf entry = secretName ∧ (entry.2.sensitive && entry.2.redacted) = false then
        some entry.2
      else none).map givenSecret := by
  obtain ⟨id, envVar⟩ := entry
  have hremove : ∀ name, lastWrite (Operation.secretWritten? secretName) [.removeSecret name] =
      if name = secretName then some none else none := fun name => rfl
  cases hsensitive : envVar.sensitive
  · simp only [persistOperations, secretNameOf, hsensitive, Bool.not_false, if_true, hremove,
      Bool.false_and, and_true]
    split <;> simp [givenSecret, hsensitive]
  · cases hredacted : envVar.redacted
    · by_cases hvalue : envVar.value.length > 0
      · have hset : ∀ name value, lastWrite (Operation.secretWritten? secretName)
            [.prepareSecret name, .renameSecret name value, .chmodSecret name] =
              if name = secretName then some (some value) else none := by
          intro name value
          simp [lastWrite, Operation.secretWritten?]
        simp only [persistOperations, secretNameOf, hsensitive, hredacted, Bool.not_true,
          Bool.not_false, if_true, Bool.false_eq_true, if_false, hvalue, hset, Bool.and_false,
          and_true]
        split <;> simp [givenSecret, hsensitive, hvalue]
      · simp only [persistOperations, secretNameOf, hsensitive, hredacted, Bool.not_true,
          Bool.not_false, if_true, Bool.false_eq_true, if_false, hvalue, hremove, Bool.and_false,
          and_true]
        split <;> simp [givenSecret, hvalue]
    · simp [persistOperations, hsensitive, hredacted]

theorem eq_readSecret_of_mem_readOperations {operation : Operation}
    (h : operation ∈ readOperations settings) : ∃ name, operation = .readSecret name := by
  obtain ⟨entry, -, hentry⟩ := List.mem_flatMap.mp h
  split at hentry
  · exact ⟨_, List.mem_singleton.mp hentry⟩
  · cases hentry

theorem lastWrite_readOperations {α : Type} {written? : Operation → Option α}
    (h : ∀ secretName, written? (.readSecret secretName) = none) (settings : ServerSettings) :
    lastWrite written? (readOperations settings) = none := by
  refine lastWrite_eq_none_iff.mpr (fun operation hmem => ?_)
  obtain ⟨name, rfl⟩ := eq_readSecret_of_mem_readOperations hmem
  exact h name

theorem lastWrite_updateOperations (runtime : SettingsRuntime) (current : ServerSettings)
    (patch : ServerSettingsPatch) {secretName : String}
    (hname : secretName ∈ nextSecretKeys (applyServerSettingsPatch current patch)) :
    lastWrite (Operation.secretWritten? secretName) (updateOperations runtime current patch) =
      (lastGiven secretName (environmentVariables (applyServerSettingsPatch current patch))).map
        givenSecret := by
  have hstale : lastWrite (Operation.secretWritten? secretName)
      (staleOperations current (applyServerSettingsPatch current patch)) = none := by
    refine lastWrite_eq_none_iff.mpr (fun operation hmem => ?_)
    obtain ⟨entry, -, hentry⟩ := List.mem_flatMap.mp hmem
    split at hentry
    · rename_i hremoved
      rw [List.mem_singleton.mp hentry]
      have hne : secretNameOf entry ≠ secretName := by
        rintro rfl
        simp [hname] at hremoved
      simp [Operation.secretWritten?, hne]
    · cases hentry
  have hread := @lastWrite_readOperations _ (Operation.secretWritten? secretName)
    (fun _ => rfl) (nextSettings runtime current patch)
  have hmiddle : lastWrite (Operation.secretWritten? secretName)
      [.normalize, .writeSettings (nextSettings runtime current patch),
        .cacheSettings (nextSettings runtime current patch)] = none := rfl
  simp only [updateOperations, persistProviderEnvironmentSecrets, lastWrite_append, hread, hmiddle,
    hstale, Option.none_or, lastWrite_flatMap]
  rw [lastGiven, ← lastWrite_map]
  congr 1
  funext entry
  exact lastWrite_persistOperations secretName entry

theorem lastWrite_cache_updateOperations (runtime : SettingsRuntime) (current : ServerSettings)
    (patch : ServerSettingsPatch) :
    lastWrite Operation.cacheWritten? (updateOperations runtime current patch) =
      some (nextSettings runtime current patch) := by
  simp only [updateOperations, lastWrite_append, Option.none_or,
    @lastWrite_readOperations _ Operation.cacheWritten? (fun _ => rfl)]
  rfl

theorem lastWrite_file_updateOperations (runtime : SettingsRuntime) (current : ServerSettings)
    (patch : ServerSettingsPatch) :
    lastWrite (Operation.fileWritten? runtime) (updateOperations runtime current patch) =
      some (runtime.fileContents (nextSettings runtime current patch)) := by
  simp only [updateOperations, lastWrite_append, Option.none_or,
    @lastWrite_readOperations _ (Operation.fileWritten? runtime) (fun _ => rfl)]
  rfl

/-- Value of the variable at this place of the environment of an instance. -/
def valueAt (settings : ServerSettings) (id : ProviderInstanceId) (index : Nat) : Option Text16 :=
  (((KeyedMap.get id settings.providerInstances).bind ProviderInstanceConfig.environment).bind
    (fun environment => environment[index]?)).map ProviderInstanceEnvironmentVariable.value

/-- The value given in clear, or the one stored before where the variable is redacted. -/
def expectedValue (state : SettingsState) (id : ProviderInstanceId)
    (envVar : ProviderInstanceEnvironmentVariable) : Text16 :=
  if envVar.redacted then
    secretValue (KeyedMap.get (providerEnvironmentSecretName id envVar.name) state.secrets)
  else envVar.value

/-- The variable is given in clear and empty, or it is redacted and no variable under its secret
name is not, or the last one under this name that is not redacted stores the expected value. -/
def KeepsValue (state : SettingsState) (next : ServerSettings) (id : ProviderInstanceId)
    (envVar : ProviderInstanceEnvironmentVariable) : Prop :=
  (envVar.redacted = false ∧ envVar.value = []) ∨
    match lastGiven (providerEnvironmentSecretName id envVar.name) (environmentVariables next) with
    | none => envVar.redacted = true
    | some given => secretValue (givenSecret given) = expectedValue state id envVar

theorem get_mapEnvironments (f : ProviderInstanceId → ProviderInstanceEnvironmentVariable →
      ProviderInstanceEnvironmentVariable) (instances : ProviderInstances)
    (id : ProviderInstanceId) :
    KeyedMap.get id (mapEnvironments f instances) =
      (KeyedMap.get id instances).map (fun config =>
        { config with environment := config.environment.map (List.map (f id)) }) := by
  rw [KeyedMap.get, mapEnvironments, KeyedTable.lookup_amend, KeyedMap.get]
  cases hlookup : KeyedTable.lookup id instances with
  | none => rfl
  | some entry =>
    have hid : entry.1 = id := by
      simpa using (KeyedTable.lookup_eq_some_iff.mp hlookup).2
    simp [hid]

theorem valueAt_getSettings {state : SettingsState} {id : ProviderInstanceId}
    (hconfig : KeyedMap.get id state.cache.providerInstances = some config)
    (henvironment : config.environment = some environment)
    (hindex : environment[index]? = some envVar) :
    valueAt (getSettings state) id index =
      some (materializeVariable state.secrets id envVar).value := by
  have hinstances : (getSettings state).providerInstances =
      mapEnvironments (materializeVariable state.secrets) state.cache.providerInstances :=
    providerInstances_resolve _
  simp [valueAt, hinstances, get_mapEnvironments, hconfig, henvironment, hindex]

theorem mem_environmentVariables_of_get {id : ProviderInstanceId}
    (hconfig : KeyedMap.get id settings.providerInstances = some config)
    (henvironment : config.environment = some environment)
    (hindex : environment[index]? = some envVar) :
    (id, envVar) ∈ environmentVariables settings := by
  obtain ⟨entry, hlookup, rfl⟩ := Option.map_eq_some_iff.mp hconfig
  obtain ⟨hrow, hid⟩ := KeyedTable.lookup_eq_some_iff.mp hlookup
  have hkey : entry.1 = id := Option.some.inj hid
  subst hkey
  exact mem_environmentVariables.mpr
    ⟨entry.2, environment, hrow, henvironment, List.mem_of_getElem? hindex⟩

theorem secretName_mem_nextSecretKeys {id : ProviderInstanceId}
    (hconfig : KeyedMap.get id settings.providerInstances = some config)
    (henvironment : config.environment = some environment)
    (hindex : environment[index]? = some envVar) (hsensitive : envVar.sensitive = true) :
    providerEnvironmentSecretName id envVar.name ∈ nextSecretKeys settings := by
  have hfiltered : (id, envVar) ∈
      (environmentVariables settings).filter (fun entry => entry.2.sensitive) :=
    List.mem_filter.mpr
      ⟨mem_environmentVariables_of_get hconfig henvironment hindex, hsensitive⟩
  rw [nextSecretKeys, List.mem_map]
  exact ⟨(id, envVar), hfiltered, by rw [secretNameOf]⟩

theorem lastGiven_ne_none {id : ProviderInstanceId}
    (hconfig : KeyedMap.get id settings.providerInstances = some config)
    (henvironment : config.environment = some environment)
    (hindex : environment[index]? = some envVar) (hredacted : envVar.redacted = false) :
    lastGiven (providerEnvironmentSecretName id envVar.name) (environmentVariables settings) ≠
      none := by
  intro h
  have hnone := lastWrite_eq_none_iff.mp h (id, envVar)
    (mem_environmentVariables_of_get hconfig henvironment hindex)
  simp [secretNameOf, hredacted] at hnone

theorem materializeVariable_persist {secrets : Secrets} {id : ProviderInstanceId}
    (hsensitive : envVar.sensitive = true) (h : envVar.redacted = true ∨ envVar.value ≠ []) :
    (materializeVariable secrets id (persistVariable id envVar)).value =
      secretValue (KeyedMap.get (providerEnvironmentSecretName id envVar.name) secrets) := by
  cases hredacted : envVar.redacted
  · have hlength : 0 < envVar.value.length := by
      have hvalue : envVar.value ≠ [] := by simpa [hredacted] using h
      exact List.length_pos_iff.mpr hvalue
    have hpersist : persistVariable id envVar =
        { envVar with value := [], valueRedacted := some true } := by
      simp [persistVariable, hsensitive, hredacted, hlength]
    simp [hpersist, hsensitive, materializeVariable, ProviderInstanceEnvironmentVariable.redacted]
  · have hpersist : persistVariable id envVar =
        { envVar with value := [], valueRedacted := some true } := by
      simp [persistVariable, hsensitive, hredacted, redactProviderEnvironmentVariable]
    simp [hpersist, hsensitive, materializeVariable, ProviderInstanceEnvironmentVariable.redacted]

theorem valueAt_updateSettings_iff (runtime : SettingsRuntime) (state : SettingsState)
    (patch : ServerSettingsPatch) {id : ProviderInstanceId}
    (hconfig : KeyedMap.get id (applyServerSettingsPatch state.cache patch).providerInstances =
      some config)
    (henvironment : config.environment = some environment)
    (hindex : environment[index]? = some envVar) (hsensitive : envVar.sensitive = true) :
    valueAt (getSettings (updateSettings runtime state patch none)) id index =
        some (expectedValue state id envVar) ↔
      KeepsValue state (applyServerSettingsPatch state.cache patch) id envVar := by
  have hname := secretName_mem_nextSecretKeys hconfig henvironment hindex hsensitive
  have hsecret := get_applyAll runtime (providerEnvironmentSecretName id envVar.name) state
    (updateOperations runtime state.cache patch)
  rw [lastWrite_updateOperations runtime state.cache patch hname] at hsecret
  have hcache := cache_applyAll runtime state (updateOperations runtime state.cache patch)
  rw [lastWrite_cache_updateOperations, Option.getD_some] at hcache
  have hinstances : (nextSettings runtime state.cache patch).providerInstances =
      mapEnvironments persistVariable
        (applyServerSettingsPatch state.cache patch).providerInstances := rfl
  have hnext : KeyedMap.get id
      (updateSettings runtime state patch none).cache.providerInstances =
        some { config with environment := some (environment.map (persistVariable id)) } := by
    rw [updateSettings, hcache, hinstances, get_mapEnvironments, hconfig, Option.map_some,
      henvironment, Option.map_some]
  have hpersisted : (environment.map (persistVariable id))[index]? =
      some (persistVariable id envVar) := by
    rw [List.getElem?_map, hindex, Option.map_some]
  rw [valueAt_getSettings hnext rfl hpersisted, Option.some_inj]
  change KeyedMap.get _ (updateSettings runtime state patch none).secrets = _ at hsecret
  cases hredacted : envVar.redacted
  · by_cases hvalue : envVar.value = []
    · have hclear : persistVariable id envVar = { envVar with valueRedacted := none } := by
        simp [persistVariable, hsensitive, hredacted, hvalue]
      have hread : (materializeVariable (updateSettings runtime state patch none).secrets id
          (persistVariable id envVar)).value = [] := by
        simp [hclear, materializeVariable, ProviderInstanceEnvironmentVariable.redacted, hvalue]
      have hexpected : expectedValue state id envVar = [] := by
        simp [expectedValue, hredacted, hvalue]
      exact iff_of_true (hread.trans hexpected.symm) (Or.inl ⟨hredacted, hvalue⟩)
    · -- the secret just written is read back, unless a later variable has the same name
      have hgiven := lastGiven_ne_none hconfig henvironment hindex hredacted
      rw [materializeVariable_persist hsensitive (Or.inr hvalue), hsecret]
      obtain ⟨given, hlast⟩ := Option.ne_none_iff_exists'.mp hgiven
      simp [KeepsValue, hlast, hvalue]
  · rw [materializeVariable_persist hsensitive (Or.inl hredacted), hsecret]
    cases hlast : lastGiven (providerEnvironmentSecretName id envVar.name)
        (environmentVariables (applyServerSettingsPatch state.cache patch)) with
    | none => simp [KeepsValue, hlast, hredacted, expectedValue]
    | some given => simp [KeepsValue, hlast, hredacted]

/-! ## Failed updates -/

/-- How many calls the store takes for a variable of the new settings. -/
def callCount (envVar : ProviderInstanceEnvironmentVariable) : Nat :=
  if envVar.sensitive && envVar.redacted then 0
  else if envVar.sensitive && decide (envVar.value.length > 0) then 3
  else 1

/-- The variables whose calls have changed the secret by then. Of three calls the second does. -/
def changedBefore : Nat → List (ProviderInstanceId × ProviderInstanceEnvironmentVariable) →
    List (ProviderInstanceId × ProviderInstanceEnvironmentVariable)
  | _, [] => []
  | n, entry :: rest =>
    if callCount entry.2 / 2 < n then entry :: changedBefore (n - callCount entry.2) rest else []

/-- The secrets of the current settings that no sensitive variable of the new ones has. -/
def staleSecrets (current : ServerSettings) (patch : ServerSettingsPatch) : List String :=
  ((environmentVariables current).filter (fun entry => entry.2.sensitive &&
    !(nextSecretKeys (applyServerSettingsPatch current patch)).contains
      (secretNameOf entry))).map secretNameOf

def persistCount (current : ServerSettings) (patch : ServerSettingsPatch) : Nat :=
  ((environmentVariables (applyServerSettingsPatch current patch)).map
    (fun entry => callCount entry.2)).sum

/-- How many calls there are before the new settings are checked. -/
def secretCallCount (current : ServerSettings) (patch : ServerSettingsPatch) : Nat :=
  persistCount current patch + (staleSecrets current patch).length

/-- The patch gives the settings that are there, and the file is theirs. -/
structure ChangesNothing (runtime : SettingsRuntime) (state : SettingsState)
    (patch : ServerSettingsPatch) : Prop where
  selection : (applyServerSettingsPatch state.cache patch).textGenerationModelSelection =
    state.cache.textGenerationModelSelection
  providerInstances : mapEnvironments persistVariable
    (patch.providerInstances.getD state.cache.providerInstances) = state.cache.providerInstances
  fields : runtime.decodeFields (deepMerge state.cache.fields patch.fields) = state.cache.fields
  file : runtime.fileContents state.cache = state.file

/-- Of the secrets the current settings read, those given before this call were given the value
they had, and those removed as stale had none. Where a read fails at last, the patch changes
nothing. -/
structure FailsCleanly (runtime : SettingsRuntime) (state : SettingsState)
    (patch : ServerSettingsPatch) (n : Nat) : Prop where
  given : ∀ secretName ∈ secretsRead state.cache, ∀ envVar ∈ lastGiven secretName
    (changedBefore n (environmentVariables (applyServerSettingsPatch state.cache patch))),
    secretValue (givenSecret envVar) = secretValue (KeyedMap.get secretName state.secrets)
  stale : ∀ secretName ∈ secretsRead state.cache,
    secretName ∈ (staleSecrets state.cache patch).take (n - persistCount state.cache patch) →
    secretValue (KeyedMap.get secretName state.secrets) = []
  settings : secretCallCount state.cache patch + 2 < n → ChangesNothing runtime state patch

theorem persistOperations_cases
    (entry : ProviderInstanceId × ProviderInstanceEnvironmentVariable) :
    (callCount entry.2 = 0 ∧ persistOperations entry.1 entry.2 = []) ∨
    (callCount entry.2 = 1 ∧
      persistOperations entry.1 entry.2 = [.removeSecret (secretNameOf entry)]) ∨
    (callCount entry.2 = 3 ∧ ∃ value, persistOperations entry.1 entry.2 =
      [.prepareSecret (secretNameOf entry), .renameSecret (secretNameOf entry) value,
        .chmodSecret (secretNameOf entry)]) := by
  obtain ⟨id, envVar⟩ := entry
  cases hsensitive : envVar.sensitive
  · exact Or.inr (Or.inl (by simp [callCount, persistOperations, secretNameOf, hsensitive]))
  · cases hredacted : envVar.redacted
    · by_cases hvalue : envVar.value.length > 0
      · refine Or.inr (Or.inr ⟨?_, encodeText envVar.value, ?_⟩)
        · simp [callCount, hsensitive, hredacted, hvalue]
        · simp [persistOperations, secretNameOf, hsensitive, hredacted, hvalue]
      · exact Or.inr (Or.inl (by
          simp [callCount, persistOperations, secretNameOf, hsensitive, hredacted, hvalue]))
    · exact Or.inl (by simp [callCount, persistOperations, hsensitive, hredacted])

theorem length_persistOperations
    (entry : ProviderInstanceId × ProviderInstanceEnvironmentVariable) :
    (persistOperations entry.1 entry.2).length = callCount entry.2 := by
  rcases persistOperations_cases entry with ⟨hcount, hcalls⟩ | ⟨hcount, hcalls⟩ |
    ⟨hcount, value, hcalls⟩ <;> rw [hcount, hcalls] <;> rfl

theorem length_flatMap_persistOperations (current : ServerSettings)
    (patch : ServerSettingsPatch) :
    ((environmentVariables (applyServerSettingsPatch current patch)).flatMap
      (fun entry => persistOperations entry.1 entry.2)).length = persistCount current patch := by
  rw [List.length_flatMap, persistCount]
  simp only [length_persistOperations]

theorem staleOperations_eq (current : ServerSettings) (patch : ServerSettingsPatch) :
    staleOperations current (applyServerSettingsPatch current patch) =
      (staleSecrets current patch).map Operation.removeSecret := by
  unfold staleOperations staleSecrets
  induction environmentVariables current with
  | nil => rfl
  | cons entry rest ih =>
    rw [List.flatMap_cons, ih, List.filter_cons]
    split <;> simp

theorem lastWrite_take_persistOperations (secretName : String) (n : Nat)
    (entry : ProviderInstanceId × ProviderInstanceEnvironmentVariable) :
    lastWrite (Operation.secretWritten? secretName)
        ((persistOperations entry.1 entry.2).take n) =
      if callCount entry.2 / 2 < n then
        lastWrite (Operation.secretWritten? secretName) (persistOperations entry.1 entry.2)
      else none := by
  rcases persistOperations_cases entry with ⟨hcount, hcalls⟩ | ⟨hcount, hcalls⟩ |
    ⟨hcount, value, hcalls⟩ <;> rw [hcount, hcalls]
  · simp
  · cases n <;> simp
  · rcases n with _ | _ | _ | n <;> simp [lastWrite, Operation.secretWritten?]

/-- The variables up to a failing call give a secret what the last of them that has changed it
gives. -/
theorem lastWrite_take_persist (secretName : String) (n : Nat)
    (entries : List (ProviderInstanceId × ProviderInstanceEnvironmentVariable)) :
    lastWrite (Operation.secretWritten? secretName)
        ((entries.flatMap (fun entry => persistOperations entry.1 entry.2)).take n) =
      (lastGiven secretName (changedBefore n entries)).map givenSecret := by
  induction entries generalizing n with
  | nil => simp [lastGiven, changedBefore]
  | cons entry rest ih =>
    rw [List.flatMap_cons, List.take_append, lastWrite_append, length_persistOperations, ih,
      lastWrite_take_persistOperations, lastWrite_persistOperations, changedBefore]
    by_cases hchanged : callCount entry.2 / 2 < n
    · rw [if_pos hchanged, if_pos hchanged, lastGiven, lastGiven, lastWrite, Option.map_or]
    · have hnone : n - callCount entry.2 = 0 := by omega
      have hempty : changedBefore 0 rest = [] := by
        cases rest with
        | nil => rfl
        | cons next later => rw [changedBefore, if_neg (Nat.not_lt_zero _)]
      rw [if_neg hchanged, if_neg hchanged, hnone, hempty]
      rfl

theorem lastWrite_removals (secretName : String) (names : List String) :
    lastWrite (Operation.secretWritten? secretName) (names.map Operation.removeSecret) =
      if secretName ∈ names then some none else none := by
  induction names with
  | nil => rfl
  | cons name rest ih =>
    rw [List.map_cons, lastWrite, ih]
    by_cases hrest : secretName ∈ rest
    · simp [hrest]
    · by_cases hname : name = secretName <;>
        simp [hrest, hname, Ne.symm, Operation.secretWritten?]

/-- The calls that settle the settings once the secrets are stored. -/
def settingsOperations (runtime : SettingsRuntime) (current : ServerSettings)
    (patch : ServerSettingsPatch) : List Operation :=
  [.normalize, .writeSettings (nextSettings runtime current patch),
    .cacheSettings (nextSettings runtime current patch)] ++
    readOperations (nextSettings runtime current patch)

theorem take_updateOperations (runtime : SettingsRuntime) (current : ServerSettings)
    (patch : ServerSettingsPatch) (n : Nat) :
    (updateOperations runtime current patch).take n =
      ((environmentVariables (applyServerSettingsPatch current patch)).flatMap
          (fun entry => persistOperations entry.1 entry.2)).take n ++
        ((staleSecrets current patch).take (n - persistCount current patch)).map
          Operation.removeSecret ++
        (settingsOperations runtime current patch).take
          (n - secretCallCount current patch) := by
  rw [updateOperations, persistProviderEnvironmentSecrets, staleOperations_eq, List.append_assoc,
    ← settingsOperations, List.take_append, List.take_append, List.length_append,
    length_flatMap_persistOperations, List.length_map, List.map_take, secretCallCount]

theorem mem_of_mem_changedBefore
    {entries : List (ProviderInstanceId × ProviderInstanceEnvironmentVariable)}
    {entry : ProviderInstanceId × ProviderInstanceEnvironmentVariable} {n : Nat}
    (h : entry ∈ changedBefore n entries) : entry ∈ entries := by
  induction entries generalizing n with
  | nil => exact h
  | cons first rest ih =>
    rw [changedBefore] at h
    split at h
    · rcases List.mem_cons.mp h with rfl | hrest
      · exact List.mem_cons_self
      · exact List.mem_cons_of_mem _ (ih hrest)
    · cases h

section FailingCall

variable {runtime : SettingsRuntime} {state : SettingsState} {patch : ServerSettingsPatch}
  {n : Nat} {secretName : String}

/-- A stale secret is given by no sensitive variable, so it is removed in any case. -/
theorem givenSecret_of_stale (hstale : secretName ∈ staleSecrets state.cache patch)
    (hgiven : lastGiven secretName (changedBefore n
      (environmentVariables (applyServerSettingsPatch state.cache patch))) = some envVar) :
    givenSecret envVar = none := by
  obtain ⟨entry, hmem, hentry⟩ := exists_of_lastWrite_eq_some hgiven
  obtain ⟨⟨hname, -⟩, henvVar⟩ := Option.ite_none_right_eq_some.mp hentry
  cases henvVar
  obtain ⟨stale, hstale, hstaleName⟩ := List.mem_map.mp hstale
  have hunused : secretNameOf stale ∉
      nextSecretKeys (applyServerSettingsPatch state.cache patch) := by
    simpa using (Bool.and_eq_true_iff.mp (List.mem_filter.mp hstale).2).2
  cases hsensitive : entry.2.sensitive with
  | false => simp [givenSecret, hsensitive]
  | true =>
    have hused : secretNameOf entry ∈
        nextSecretKeys (applyServerSettingsPatch state.cache patch) :=
      List.mem_map_of_mem (List.mem_filter.mpr ⟨mem_of_mem_changedBefore hmem, hsensitive⟩)
    rw [hname, ← hstaleName] at hused
    exact absurd hused hunused

theorem secretValue_failing_iff :
    secretValue (KeyedMap.get secretName (updateSettings runtime state patch (some n)).secrets) =
        secretValue (KeyedMap.get secretName state.secrets) ↔
      (∀ envVar, lastGiven secretName (changedBefore n
          (environmentVariables (applyServerSettingsPatch state.cache patch))) = some envVar →
        secretValue (givenSecret envVar) = secretValue (KeyedMap.get secretName state.secrets)) ∧
      (secretName ∈ (staleSecrets state.cache patch).take (n - persistCount state.cache patch) →
        secretValue (KeyedMap.get secretName state.secrets) = []) := by
  have hsettings : ∀ m, lastWrite (Operation.secretWritten? secretName)
      ((settingsOperations runtime state.cache patch).take m) = none := by
    intro m
    refine lastWrite_eq_none_iff.mpr fun operation hmem => ?_
    rcases List.mem_append.mp (List.mem_of_mem_take hmem) with hhead | hread
    · simp only [List.mem_cons, List.not_mem_nil, or_false] at hhead
      rcases hhead with rfl | rfl | rfl <;> rfl
    · obtain ⟨name, rfl⟩ := eq_readSecret_of_mem_readOperations hread
      rfl
  have hget := get_applyAll runtime secretName state
    ((updateOperations runtime state.cache patch).take n)
  rw [take_updateOperations, lastWrite_append, lastWrite_append, hsettings, Option.none_or,
    lastWrite_removals, lastWrite_take_persist] at hget
  rw [updateSettings, take_updateOperations, hget]
  by_cases hstale : secretName ∈
      (staleSecrets state.cache patch).take (n - persistCount state.cache patch)
  · rw [if_pos hstale]
    constructor
    · intro hvalue
      refine ⟨fun envVar hgiven => ?_, fun _ => hvalue.symm⟩
      rw [givenSecret_of_stale (List.mem_of_mem_take hstale) hgiven]
      exact hvalue
    · exact fun h => (h.2 hstale).symm
  · rw [if_neg hstale, Option.none_or, getD_eq_iff]
    simp [hstale]

/-- What the calls on the secrets leave alone. -/
theorem lastWrite_take_of_settingsOperations {α : Type} {written? : Operation → Option α}
    (hprepare : ∀ name, written? (.prepareSecret name) = none)
    (hrename : ∀ name value, written? (.renameSecret name value) = none)
    (hchmod : ∀ name, written? (.chmodSecret name) = none)
    (hremove : ∀ name, written? (.removeSecret name) = none) :
    lastWrite written? ((updateOperations runtime state.cache patch).take n) =
      lastWrite written? ((settingsOperations runtime state.cache patch).take
        (n - secretCallCount state.cache patch)) := by
  rw [take_updateOperations, lastWrite_append, lastWrite_append]
  have hremovals : ∀ names : List String,
      lastWrite written? (names.map Operation.removeSecret) = none := by
    refine fun names => lastWrite_eq_none_iff.mpr fun operation hmem => ?_
    obtain ⟨name, -, rfl⟩ := List.mem_map.mp hmem
    exact hremove name
  have hpersist : ∀ m, lastWrite written? (((environmentVariables
      (applyServerSettingsPatch state.cache patch)).flatMap
        (fun entry => persistOperations entry.1 entry.2)).take m) = none := by
    refine fun m => lastWrite_eq_none_iff.mpr fun operation hmem => ?_
    obtain ⟨entry, -, hcall⟩ := List.mem_flatMap.mp (List.mem_of_mem_take hmem)
    rcases persistOperations_cases entry with ⟨-, hcalls⟩ | ⟨-, hcalls⟩ | ⟨-, value, hcalls⟩ <;>
      rw [hcalls] at hcall
    · cases hcall
    · rw [List.mem_singleton.mp hcall, hremove]
    · simp only [List.mem_cons, List.not_mem_nil, or_false] at hcall
      rcases hcall with rfl | rfl | rfl
      · exact hprepare _
      · exact hrename _ _
      · exact hchmod _
  rw [hremovals, hpersist, Option.or_none, Option.or_none]

theorem settings_failing :
    (updateSettings runtime state patch (some n)).cache =
        (lastWrite Operation.cacheWritten? ((settingsOperations runtime state.cache patch).take
          (n - secretCallCount state.cache patch))).getD state.cache ∧
      (updateSettings runtime state patch (some n)).file =
        (lastWrite (Operation.fileWritten? runtime) ((settingsOperations runtime state.cache
          patch).take (n - secretCallCount state.cache patch))).getD state.file := by
  rw [updateSettings, cache_applyAll, file_applyAll]
  constructor <;> rw [lastWrite_take_of_settingsOperations (fun _ => rfl) (fun _ _ => rfl)
    (fun _ => rfl) (fun _ => rfl)]

/-- Up to the replacement of the file a failing call leaves cache and file alone. -/
theorem settings_failing_before (hn : n < secretCallCount state.cache patch + 2) :
    (updateSettings runtime state patch (some n)).cache = state.cache ∧
      (updateSettings runtime state patch (some n)).file = state.file := by
  have hcalls : (settingsOperations runtime state.cache patch).take
      (n - secretCallCount state.cache patch) = [] ∨
      (settingsOperations runtime state.cache patch).take
        (n - secretCallCount state.cache patch) = [.normalize] := by
    rcases (by omega : n - secretCallCount state.cache patch = 0 ∨
      n - secretCallCount state.cache patch = 1) with hnone | hone
    · exact Or.inl (by rw [hnone, List.take_zero])
    · exact Or.inr (by rw [hone]; rfl)
  rw [settings_failing.1, settings_failing.2]
  rcases hcalls with hcalls | hcalls <;> rw [hcalls] <;> exact ⟨rfl, rfl⟩

theorem settings_failing_after (hn : secretCallCount state.cache patch + 2 < n) :
    (updateSettings runtime state patch (some n)).cache = nextSettings runtime state.cache patch ∧
      (updateSettings runtime state patch (some n)).file =
        runtime.fileContents (nextSettings runtime state.cache patch) := by
  obtain ⟨m, hm⟩ : ∃ m, n - secretCallCount state.cache patch = m + 3 :=
    ⟨_, (Nat.sub_add_cancel (by omega)).symm⟩
  have hreads : ∀ {α : Type} (written? : Operation → Option α),
      (∀ name, written? (.readSecret name) = none) →
      lastWrite written? ((readOperations (nextSettings runtime state.cache patch)).take m) =
        none := by
    refine fun written? h => lastWrite_eq_none_iff.mpr fun operation hmem => ?_
    obtain ⟨name, rfl⟩ := eq_readSecret_of_mem_readOperations (List.mem_of_mem_take hmem)
    exact h name
  rw [settings_failing.1, settings_failing.2, hm]
  have hcache := hreads Operation.cacheWritten? (fun _ => rfl)
  have hfile := hreads (Operation.fileWritten? runtime) (fun _ => rfl)
  simp only [settingsOperations, List.cons_append, List.nil_append, List.take_succ_cons,
    lastWrite, hcache, hfile]
  exact ⟨rfl, rfl⟩

theorem nextSettings_eq_iff :
    (nextSettings runtime state.cache patch = state.cache ∧
      runtime.fileContents (nextSettings runtime state.cache patch) = state.file) ↔
      ChangesNothing runtime state patch := by
  have hinstances : (applyServerSettingsPatch state.cache patch).providerInstances =
      patch.providerInstances.getD state.cache.providerInstances := by
    unfold applyServerSettingsPatch
    cases patch.textGenerationModelSelection <;> rfl
  have hfields : (applyServerSettingsPatch state.cache patch).fields =
      deepMerge state.cache.fields patch.fields := by
    unfold applyServerSettingsPatch
    cases patch.textGenerationModelSelection <;> rfl
  constructor
  · rintro ⟨hcache, hfile⟩
    rw [hcache] at hfile
    have hselection := congrArg ServerSettings.textGenerationModelSelection hcache
    refine ⟨hselection, ?_, ?_, hfile⟩
    · rw [← hinstances]
      exact congrArg ServerSettings.providerInstances hcache
    · rw [← hfields]
      exact congrArg ServerSettings.fields hcache
  · rintro ⟨hselection, hinst, hfield, hfile⟩
    have hcache : nextSettings runtime state.cache patch = state.cache := by
      rw [← hinstances] at hinst
      rw [← hfields] at hfield
      simp only [nextSettings, persistProviderEnvironmentSecrets, hselection, hinst, hfield]
    exact ⟨hcache, by rw [hcache]; exact hfile⟩

/-- `hn`: the failing call is not the one that replaces the cache, which cannot fail. -/
theorem unchanged_failing_iff (hn : n ≠ secretCallCount state.cache patch + 2) :
    Unchanged state (updateSettings runtime state patch (some n)) ↔
      FailsCleanly runtime state patch n := by
  have hsecrets : (updateSettings runtime state patch (some n)).cache = state.cache →
      (getSettings (updateSettings runtime state patch (some n)) = getSettings state ↔ _) :=
    fun hcache => (getSettings_eq_iff hcache).trans
      (forall₂_congr fun _ _ => secretValue_failing_iff)
  rcases Nat.lt_or_gt_of_ne hn with hbefore | hafter
  · obtain ⟨hcache, hfile⟩ := @settings_failing_before runtime _ _ _ hbefore
    rw [Unchanged, hsecrets hcache, hcache, hfile]
    constructor
    · rintro ⟨-, -, hread⟩
      exact ⟨fun name hname => (hread name hname).1, fun name hname => (hread name hname).2,
        fun hlate => absurd hlate (by omega)⟩
    · exact fun h => ⟨rfl, rfl, fun name hname => ⟨h.given name hname, h.stale name hname⟩⟩
  · obtain ⟨hcache, hfile⟩ := @settings_failing_after runtime _ _ _ hafter
    constructor
    · rintro ⟨hsame, hsameFile, hread⟩
      rw [hsecrets hsame] at hread
      rw [hcache] at hsame
      rw [hfile] at hsameFile
      exact ⟨fun name hname => (hread name hname).1, fun name hname => (hread name hname).2,
        fun _ => nextSettings_eq_iff.mp ⟨hsame, hsameFile⟩⟩
    · intro h
      obtain ⟨hsame, hsameFile⟩ := nextSettings_eq_iff.mpr (h.settings hafter)
      rw [← hcache] at hsame
      rw [← hfile] at hsameFile
      exact ⟨hsame, hsameFile, (hsecrets hsame).mpr
        fun name hname => ⟨h.given name hname, h.stale name hname⟩⟩

end FailingCall

/-- After a failing call everything is as it was exactly when it fails cleanly, and after a
successful update a sensitive variable has the expected value exactly when it keeps its value. -/
theorem updateSettings_atomic_iff (runtime : SettingsRuntime) (state : SettingsState)
    (patch : ServerSettingsPatch) :
    (∀ n operation, (updateOperations runtime state.cache patch)[n]? = some operation →
      operation.fallible = true →
      (Unchanged state (updateSettings runtime state patch (some n)) ↔
        FailsCleanly runtime state patch n)) ∧
    ∀ id config environment index envVar,
      KeyedMap.get id (applyServerSettingsPatch state.cache patch).providerInstances =
        some config →
      config.environment = some environment → environment[index]? = some envVar →
      envVar.sensitive = true →
      (valueAt (getSettings (updateSettings runtime state patch none)) id index =
          some (expectedValue state id envVar) ↔
        KeepsValue state (applyServerSettingsPatch state.cache patch) id envVar) := by
  constructor
  · intro n operation hoperation hfallible
    refine unchanged_failing_iff fun hn => ?_
    have hcache : (updateOperations runtime state.cache patch)[n]? =
        some (.cacheSettings (nextSettings runtime state.cache patch)) := by
      rw [secretCallCount] at hn
      rw [updateOperations, persistProviderEnvironmentSecrets, staleOperations_eq,
        List.append_assoc, List.getElem?_append_right, List.length_append,
        length_flatMap_persistOperations, List.length_map, hn, Nat.add_sub_cancel_left]
      · rfl
      · rw [List.length_append, length_flatMap_persistOperations, List.length_map, hn]
        omega
    cases hcache.symm.trans hoperation
    cases hfallible
  · intro id config environment index envVar hconfig henvironment hindex hsensitive
    exact valueAt_updateSettings_iff runtime state patch hconfig henvironment hindex hsensitive

def instanceWith (id : ProviderInstanceId) (envVar : ProviderInstanceEnvironmentVariable) :
    ProviderInstances :=
  KeyedMap.set id
    { driver := id
      displayName := none
      accentColor := none
      environment := some [envVar]
      enabled := none
      config := none } (KeyedTable.empty _)

/-- Settings with one sensitive variable, whose value is in the secret store. -/
def keyStored : SettingsState where
  cache := {
    textGenerationModelSelection :=
      { instanceId := "codex", model := DEFAULT_GIT_TEXT_GENERATION_MODEL, options := none }
    providerInstances := instanceWith "codex"
      { name := "API_KEY", value := "", sensitive := true, valueRedacted := some true }
    fields := .obj [] }
  file := ""
  secrets := KeyedMap.set (providerEnvironmentSecretName "codex" "API_KEY") (encodeText "old")
    (KeyedTable.empty _)

/-- Gives the variable this value in clear. -/
def keyPatch (value : Text16) : ServerSettingsPatch where
  textGenerationModelSelection := none
  providerInstances := some (instanceWith "codex"
    { name := "API_KEY", value := value, sensitive := true, valueRedacted := none })
  fields := .obj []

def replaceKey : ServerSettingsPatch := keyPatch "new"

def plainRuntime : SettingsRuntime where
  fileContents := fun _ => ""
  decodeFields := id

theorem valueAt_keyStored : valueAt (getSettings keyStored) "codex" 0 = some (units "old") := by
  decide +kernel

/-- The check of the new settings fails after the secret was replaced. -/
theorem failed_normalize_replaces_secret :
    (updateOperations plainRuntime keyStored.cache replaceKey)[3]? = some .normalize ∧
      ¬Unchanged keyStored (updateSettings plainRuntime keyStored replaceKey (some 3)) := by
  constructor
  · have hstale : staleOperations keyStored.cache
        (applyServerSettingsPatch keyStored.cache replaceKey) = [] :=
      List.eq_nil_of_length_eq_zero (by decide +kernel)
    rw [updateOperations, persistProviderEnvironmentSecrets, hstale]
    rfl
  · rintro ⟨-, -, hsettings⟩
    have hafter : valueAt (getSettings (updateSettings plainRuntime keyStored replaceKey (some 3)))
        "codex" 0 = some (units "new") := by
      decide +kernel
    rw [hsettings, valueAt_keyStored] at hafter
    exact absurd (Option.some.inj hafter) (by decide)

/-- The value it has is given again, and then the check of the new settings fails; and a new
value is given. -/
theorem updateSettings_atomic_replaceKey :
    Unchanged keyStored (updateSettings plainRuntime keyStored (keyPatch "old") (some 3)) ∧
      valueAt (getSettings (updateSettings plainRuntime keyStored replaceKey none)) "codex" 0 =
        some (units "new") := by
  constructor
  · have hstale : staleOperations keyStored.cache
        (applyServerSettingsPatch keyStored.cache (keyPatch "old")) = [] :=
      List.eq_nil_of_length_eq_zero (by decide +kernel)
    have hindex : (updateOperations plainRuntime keyStored.cache (keyPatch "old"))[3]? =
        some .normalize := by
      rw [updateOperations, persistProviderEnvironmentSecrets, hstale]
      rfl
    refine ((updateSettings_atomic_iff plainRuntime keyStored (keyPatch "old")).1 3 _ hindex
      rfl).mpr ⟨?_, ?_, fun hlate => absurd hlate ?_⟩ <;> decide +kernel
  · have hgiven : lastGiven (providerEnvironmentSecretName "codex" "API_KEY")
        (environmentVariables (applyServerSettingsPatch keyStored.cache replaceKey)) =
          some { name := "API_KEY", value := "new", sensitive := true, valueRedacted := none } := by
      decide +kernel
    refine ((updateSettings_atomic_iff plainRuntime keyStored replaceKey).2 "codex" _ _ 0 _
      rfl rfl rfl rfl).mpr (Or.inr ?_)
    rw [hgiven]
    decide +kernel

end GT3Code.Server
