import GT3Code.Base.Base64Url
import GT3Code.Base.KeyedMap
import GT3Code.Base.StoredText
import GT3Code.Base.TextDecoder
import GT3Code.Contracts.ReadModel

/-! # Server settings

The settings service keeps its settings in a cache and in a file, and the values of
sensitive environment variables of provider instances in a secret store. An update
is the list of its calls: it writes and removes secrets one by one, then checks the
new settings, then replaces the file and the cache, and reads the secrets again.
-/

namespace GT3Code.Server

open GT3Code.Base GT3Code.Base.Json GT3Code.Contracts
open GT3Code.Base.Base64Url (Byte)

structure ProviderInstanceEnvironmentVariable where
  name : String
  value : Text16
  sensitive : Bool
  valueRedacted : Option Bool
  deriving DecidableEq

/-- `variable.valueRedacted` as a condition. -/
def ProviderInstanceEnvironmentVariable.redacted (envVar : ProviderInstanceEnvironmentVariable) :
    Bool :=
  envVar.valueRedacted = some true

structure ProviderInstanceConfig where
  driver : String
  displayName : Option String
  accentColor : Option String
  environment : Option (List ProviderInstanceEnvironmentVariable)
  enabled : Option Bool
  config : Option (Doc String)

abbrev ProviderInstances := KeyedMap ProviderInstanceId ProviderInstanceConfig

/-- `fields` is the object of all other settings. -/
structure ServerSettings where
  textGenerationModelSelection : ModelSelection
  providerInstances : ProviderInstances
  fields : Doc String

structure ModelSelectionPatch where
  instanceId : Option ProviderInstanceId
  model : Option String
  options : Option (List ProviderOptionSelection)

structure ServerSettingsPatch where
  textGenerationModelSelection : Option ModelSelectionPatch
  providerInstances : Option ProviderInstances
  fields : Doc String

mutual

/-- Objects are merged key by key; anything else in the patch replaces what was there. -/
def deepMerge (current : Doc String) : Doc String → Doc String
  | .obj entries =>
    match current with
    | .obj fields => .obj (mergeEntries fields entries)
    | _ => .obj entries
  | patch => patch

def mergeEntries (fields : List (String × Doc String)) :
    List (String × Doc String) → List (String × Doc String)
  | [] => fields
  | entry :: rest => mergeEntries (mergeEntry fields entry) rest

def mergeEntry (fields : List (String × Doc String)) :
    String × Doc String → List (String × Doc String)
  | (key, value) =>
    match Doc.field? key (.obj fields) with
    | some existing => Doc.insertEntry key (deepMerge existing value) fields
    | none => Doc.insertEntry key value fields

end

def shouldReplaceTextGenerationModelSelection (patch : ModelSelectionPatch) : Bool :=
  patch.instanceId.isSome || patch.model.isSome

def mergeModelSelectionOptionsById (current patch : Option (List ProviderOptionSelection)) :
    Option (List ProviderOptionSelection) :=
  match patch with
  | none => current
  | some [] => none
  | some selections =>
    let merged := selections.foldl
      (fun map selection => KeyedMap.set selection.id selection.value map)
      ((current.getD []).foldl
        (fun map selection => KeyedMap.set selection.id selection.value map)
        (KeyedTable.empty _ : KeyedMap String ProviderOptionSelectionValue))
    some (merged.rows.map (fun entry => { id := entry.1, value := entry.2 }))

def createModelSelection (instanceId : ProviderInstanceId) (model : String)
    (options : Option (List ProviderOptionSelection)) : ModelSelection :=
  { instanceId, model, options := options.filter (fun selections => selections ≠ []) }

def applyServerSettingsPatch (current : ServerSettings) (patch : ServerSettingsPatch) :
    ServerSettings :=
  let next := {
    textGenerationModelSelection := current.textGenerationModelSelection
    providerInstances := patch.providerInstances.getD current.providerInstances
    fields := deepMerge current.fields patch.fields }
  match patch.textGenerationModelSelection with
  | none => next
  | some selectionPatch =>
    let selection := current.textGenerationModelSelection
    let options :=
      if shouldReplaceTextGenerationModelSelection selectionPatch then selectionPatch.options
      else mergeModelSelectionOptionsById selection.options selectionPatch.options
    { next with
      textGenerationModelSelection :=
        createModelSelection (selectionPatch.instanceId.getD selection.instanceId)
          (selectionPatch.model.getD selection.model) options }

def DEFAULT_GIT_TEXT_GENERATION_MODEL : String := "gpt-5.4-mini"

def DEFAULT_GIT_TEXT_GENERATION_MODEL_BY_PROVIDER : List (String × String) :=
  [("codex", DEFAULT_GIT_TEXT_GENERATION_MODEL),
    ("claudeAgent", "claude-haiku-4-5"),
    ("cursor", "composer-2"),
    ("opencode", "openai/gpt-5")]

/-- `provider.enabled` -/
def enabledProvider (provider : Doc String) : Bool :=
  match provider.field? "enabled" with
  | some (.scalar (.bool enabled)) => enabled
  | _ => false

def legacyProviders (settings : ServerSettings) : List (String × Doc String) :=
  match settings.fields.field? "providers" with
  | some (.obj entries) => entries
  | _ => []

def fallbackTextGenerationProvider (settings : ServerSettings) : ServerSettings :=
  match (legacyProviders settings).find? (fun entry => enabledProvider entry.2) with
  | none => settings
  | some (fallback, _) =>
    let model := (DEFAULT_GIT_TEXT_GENERATION_MODEL_BY_PROVIDER.find?
      (fun entry => entry.1 = fallback)).map Prod.snd
    { settings with
      textGenerationModelSelection := {
        instanceId := fallback
        model := model.getD DEFAULT_GIT_TEXT_GENERATION_MODEL
        options := none } }

def resolveTextGenerationProvider (settings : ServerSettings) : ServerSettings :=
  let selection := settings.textGenerationModelSelection
  match KeyedMap.get selection.instanceId settings.providerInstances with
  | some instanceConfig =>
    if instanceConfig.enabled.getD true then settings
    else fallbackTextGenerationProvider settings
  | none =>
    match (legacyProviders settings).find? (fun entry => entry.1 = selection.instanceId) with
    | some (_, provider) =>
      if enabledProvider provider then settings else fallbackTextGenerationProvider settings
    | none => fallbackTextGenerationProvider settings

/-! ## Secrets -/

abbrev Secrets := KeyedMap String (List Byte)

def base64Url (value : String) : String :=
  String.ofList ((Base64Url.encode (value.toUTF8.toList.map UInt8.toFin)).map Char.ofNat)

def providerEnvironmentSecretName (instanceId : ProviderInstanceId) (name : String) : String :=
  "provider-env-" ++ base64Url instanceId ++ "-" ++ base64Url name

/-- `textEncoder.encode(value)` -/
def encodeText (value : Text16) : List Byte := Utf8.encode value

/-- `textDecoder.decode(secret)` -/
def decodeText (secret : List Byte) : Text16 :=
  let (codeUnits, decoder) := Utf8Decoding.TextDecoder.initial.decode secret
  (codeUnits ++ decoder.finish).map (Fin.ofNat 65536)

def redactProviderEnvironmentVariable (envVar : ProviderInstanceEnvironmentVariable) :
    ProviderInstanceEnvironmentVariable :=
  if envVar.sensitive then
    { envVar with
      value := []
      valueRedacted :=
        if envVar.value.length > 0 ∨ envVar.redacted then some true
        else envVar.valueRedacted }
  else { envVar with valueRedacted := none }

def secretValue (secret : Option (List Byte)) : Text16 := (secret.map decodeText).getD []

def materializeVariable (secrets : Secrets) (instanceId : ProviderInstanceId)
    (envVar : ProviderInstanceEnvironmentVariable) : ProviderInstanceEnvironmentVariable :=
  if envVar.sensitive && envVar.redacted then
    { envVar with
      value := secretValue
        (KeyedMap.get (providerEnvironmentSecretName instanceId envVar.name) secrets) }
  else envVar

def mapEnvironments
    (f : ProviderInstanceId → ProviderInstanceEnvironmentVariable →
      ProviderInstanceEnvironmentVariable)
    (instances : ProviderInstances) : ProviderInstances :=
  instances.amend
    (fun entry =>
      (entry.1, { entry.2 with environment := entry.2.environment.map (List.map (f entry.1)) }))
    (fun _ => rfl)

def materializeProviderEnvironmentSecrets (secrets : Secrets) (settings : ServerSettings) :
    ServerSettings :=
  { settings with
    providerInstances :=
      mapEnvironments (materializeVariable secrets) settings.providerInstances }

def redactServerSettingsForClient (settings : ServerSettings) : ServerSettings :=
  { settings with
    providerInstances :=
      mapEnvironments (fun _ => redactProviderEnvironmentVariable) settings.providerInstances }

def environmentVariables (settings : ServerSettings) :
    List (ProviderInstanceId × ProviderInstanceEnvironmentVariable) :=
  settings.providerInstances.rows.flatMap (fun entry =>
    (entry.2.environment.getD []).map (fun envVar => (entry.1, envVar)))

def secretNameOf (entry : ProviderInstanceId × ProviderInstanceEnvironmentVariable) : String :=
  providerEnvironmentSecretName entry.1 entry.2.name

/-- `ServerSecretStore.set` writes a temporary file, renames it and sets its mode; only the
rename changes the secret. `cacheSettings` also publishes the change and cannot fail. -/
inductive Operation where
  | prepareSecret (secretName : String)
  | renameSecret (secretName : String) (value : List Byte)
  | chmodSecret (secretName : String)
  | removeSecret (secretName : String)
  | normalize
  | writeSettings (settings : ServerSettings)
  | cacheSettings (settings : ServerSettings)
  | readSecret (secretName : String)

def Operation.fallible : Operation → Bool
  | .cacheSettings _ => false
  | _ => true

/-- The calls `persistProviderEnvironmentSecrets` makes for a variable of the new settings. -/
def persistOperations (instanceId : ProviderInstanceId)
    (envVar : ProviderInstanceEnvironmentVariable) : List Operation :=
  let secretName := providerEnvironmentSecretName instanceId envVar.name
  if !envVar.sensitive then [.removeSecret secretName]
  else if !envVar.redacted then
    if envVar.value.length > 0 then
      [.prepareSecret secretName, .renameSecret secretName (encodeText envVar.value),
        .chmodSecret secretName]
    else [.removeSecret secretName]
  else []

def persistVariable (_instanceId : ProviderInstanceId)
    (envVar : ProviderInstanceEnvironmentVariable) : ProviderInstanceEnvironmentVariable :=
  if !envVar.sensitive then redactProviderEnvironmentVariable envVar
  else if !envVar.redacted then
    if envVar.value.length > 0 then { envVar with value := [], valueRedacted := some true }
    else { envVar with valueRedacted := none }
  else redactProviderEnvironmentVariable envVar

def nextSecretKeys (next : ServerSettings) : List String :=
  ((environmentVariables next).filter (fun entry => entry.2.sensitive)).map secretNameOf

/-- Removal of the secrets that the new settings do not use any more. -/
def staleOperations (current next : ServerSettings) : List Operation :=
  (environmentVariables current).flatMap (fun entry =>
    if entry.2.sensitive && !(nextSecretKeys next).contains (secretNameOf entry) then
      [.removeSecret (secretNameOf entry)]
    else [])

def persistProviderEnvironmentSecrets (current next : ServerSettings) :
    List Operation × ServerSettings :=
  ((environmentVariables next).flatMap (fun entry => persistOperations entry.1 entry.2) ++
      staleOperations current next,
    { next with providerInstances := mapEnvironments persistVariable next.providerInstances })

def readOperations (settings : ServerSettings) : List Operation :=
  (environmentVariables settings).flatMap (fun entry =>
    if entry.2.sensitive && entry.2.redacted then [.readSecret (secretNameOf entry)] else [])

/-- Text of the settings file, and what decoding against the schema makes of settings other than
the provider instances, whose values are decoded already. -/
structure SettingsRuntime where
  fileContents : ServerSettings → String
  decodeFields : Doc String → Doc String

structure SettingsState where
  cache : ServerSettings
  file : String
  secrets : Secrets

section Service

variable (runtime : SettingsRuntime)

def Operation.apply (state : SettingsState) : Operation → SettingsState
  | .renameSecret secretName value =>
    { state with secrets := KeyedMap.set secretName value state.secrets }
  | .removeSecret secretName =>
    { state with secrets := KeyedMap.delete secretName state.secrets }
  | .writeSettings settings => { state with file := runtime.fileContents settings }
  | .cacheSettings settings => { state with cache := settings }
  | _ => state

def applyAll (state : SettingsState) (operations : List Operation) : SettingsState :=
  operations.foldl (Operation.apply runtime) state

def nextSettings (current : ServerSettings) (patch : ServerSettingsPatch) : ServerSettings :=
  let persisted :=
    (persistProviderEnvironmentSecrets current (applyServerSettingsPatch current patch)).2
  { persisted with fields := runtime.decodeFields persisted.fields }

def updateOperations (current : ServerSettings) (patch : ServerSettingsPatch) : List Operation :=
  let next := nextSettings runtime current patch
  (persistProviderEnvironmentSecrets current (applyServerSettingsPatch current patch)).1 ++
    [.normalize, .writeSettings next, .cacheSettings next] ++ readOperations next

/-- `updateSettings`, failing at the call with this number where there is one. -/
def updateSettings (state : SettingsState) (patch : ServerSettingsPatch) (failing : Option Nat) :
    SettingsState :=
  let operations := updateOperations runtime state.cache patch
  match failing with
  | none => applyAll runtime state operations
  | some n => applyAll runtime state (operations.take n)

def getSettings (state : SettingsState) : ServerSettings :=
  resolveTextGenerationProvider (materializeProviderEnvironmentSecrets state.secrets state.cache)

end Service

end GT3Code.Server
