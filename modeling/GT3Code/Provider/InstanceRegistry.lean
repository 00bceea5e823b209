import GT3Code.Base.KeyedMap
import GT3Code.Base.Runs
import GT3Code.Contracts.ProviderSession

/-! # Provider instance registry

The registry of live provider instances, each in a scope of its own, and the reconcile that
brings it to a map of configurations. A reconcile is taken in the steps between which readers
run: the closing of a scope, the build of an entry, the swap of each of the two maps, and the
publication of the change.
-/

namespace GT3Code.Provider

open GT3Code.Base GT3Code.Contracts

/-- The envelope of an instance; its `config` is opaque. -/
structure ProviderInstanceConfig (Payload : Type) where
  driver : ProviderDriverKind
  displayName : Option String
  accentColor : Option String
  environment : Option (List (String × String))
  enabled : Option Bool
  config : Option Payload
  deriving DecidableEq

abbrev ProviderInstanceConfigMap (Payload : Type) :=
  KeyedMap ProviderInstanceId (ProviderInstanceConfig Payload)

/-- An instance is known by the number of the scope it was created in. -/
structure LiveEntry (Payload : Type) where
  scope : Nat
  entry : ProviderInstanceConfig Payload

structure UnavailableSnapshot where
  driverKind : ProviderDriverKind
  instanceId : ProviderInstanceId
  displayName : Option String
  accentColor : Option String
  reason : String
  checkedAt : IsoDateTime
  deriving DecidableEq

abbrev LiveEntries (Payload : Type) := KeyedMap ProviderInstanceId (LiveEntry Payload)

abbrev UnavailableEntries := KeyedMap ProviderInstanceId UnavailableSnapshot

variable {Payload : Type} [DecidableEq Payload]

structure Reconcile (Payload : Type) where
  configMap : ProviderInstanceConfigMap Payload
  previousEntries : LiveEntries Payload
  previousUnavailable : UnavailableEntries
  builtEntries : LiveEntries Payload
  builtUnavailable : UnavailableEntries

namespace Reconcile

def removedIds (work : Reconcile Payload) : List ProviderInstanceId :=
  (work.previousEntries.rows.filter fun live => !KeyedMap.has live.1 work.configMap).map Prod.fst

def isReplaced (work : Reconcile Payload) (live : ProviderInstanceId × LiveEntry Payload) : Bool :=
  (KeyedMap.get live.1 work.configMap).any fun next => live.2.entry ≠ next

def replacedIds (work : Reconcile Payload) : List ProviderInstanceId :=
  (work.previousEntries.rows.filter work.isReplaced).map Prod.fst

def kept (work : Reconcile Payload) (instanceId : ProviderInstanceId) :
    Option (LiveEntry Payload) :=
  (KeyedMap.get instanceId work.previousEntries).filter fun _ =>
    !(work.replacedIds.contains instanceId)

def orderChanged (work : Reconcile Payload) : Bool :=
  work.previousEntries.rows.map Prod.fst ≠ work.configMap.rows.map Prod.fst

def entriesChanged (work : Reconcile Payload) : Bool :=
  work.orderChanged || work.removedIds.length > 0 || work.replacedIds.length > 0 ||
    work.builtEntries.rows.length ≠ work.previousEntries.rows.length

def unavailableChanged (work : Reconcile Payload) : Bool :=
  work.builtUnavailable.rows.length ≠ work.previousUnavailable.rows.length ||
    work.builtUnavailable.rows.any (fun entry =>
      KeyedMap.get entry.1 work.previousUnavailable ≠ some entry.2) ||
    work.previousUnavailable.rows.any fun entry => !KeyedMap.has entry.1 work.builtUnavailable

end Reconcile

/-! ## States -/

inductive ReconcilePhase (Payload : Type) where
  | idle
  | closing (ids : List ProviderInstanceId)
  | building (rest : List (ProviderInstanceId × ProviderInstanceConfig Payload))
  | creating (instanceId : ProviderInstanceId) (entry : ProviderInstanceConfig Payload)
      (scope : Nat) (rest : List (ProviderInstanceId × ProviderInstanceConfig Payload))
  | setEntries
  | setUnavailable
  | publish

/-- The instances a reader was given, and the scopes that were open then. -/
structure RegistryRead where
  returned : List Nat
  openScopes : List Nat

/-- The two maps, the scopes, and the last reconcile with the number of changes published before
it. -/
structure InstanceRegistry (Payload : Type) where
  entries : LiveEntries Payload
  unavailable : UnavailableEntries
  openScopes : List Nat
  scopesMade : Nat
  changes : Nat
  phase : ReconcilePhase Payload
  work : Reconcile Payload
  changesBefore : Nat
  reads : List RegistryRead

/-- How a step of a reconcile comes out. What fails is recorded with its time. -/
inductive ReconcileAnswer where
  | done
  | failed (detail : String) (checkedAt : IsoDateTime)

inductive RegistryAction (Payload : Type) where
  | reconcile (configMap : ProviderInstanceConfigMap Payload)
  | next (answer : ReconcileAnswer)
  | getInstance (instanceId : ProviderInstanceId)
  | listInstances

namespace InstanceRegistry

variable (registered : ProviderDriverKind → Bool)

def initial : InstanceRegistry Payload :=
  { entries := KeyedTable.empty _, unavailable := KeyedTable.empty _, openScopes := []
    scopesMade := 0, changes := 0, phase := .idle
    work :=
      { configMap := KeyedTable.empty _, previousEntries := KeyedTable.empty _
        previousUnavailable := KeyedTable.empty _, builtEntries := KeyedTable.empty _
        builtUnavailable := KeyedTable.empty _ }
    changesBefore := 0, reads := [] }

/-- `Ref.get` of the two maps. -/
def startReconcile (registry : InstanceRegistry Payload)
    (configMap : ProviderInstanceConfigMap Payload) : InstanceRegistry Payload :=
  let work : Reconcile Payload :=
    { configMap := configMap, previousEntries := registry.entries
      previousUnavailable := registry.unavailable, builtEntries := KeyedTable.empty _
      builtUnavailable := KeyedTable.empty _ }
  { registry with
    work := work
    changesBefore := registry.changes
    phase := .closing (work.removedIds ++ work.replacedIds) }

def closeScope (registry : InstanceRegistry Payload) (scope : Nat) : InstanceRegistry Payload :=
  { registry with openScopes := registry.openScopes.filter fun other => other ≠ scope }

def closeEntry (registry : InstanceRegistry Payload) (instanceId : ProviderInstanceId) :
    InstanceRegistry Payload :=
  match KeyedMap.get instanceId registry.work.previousEntries with
  | some live => registry.closeScope live.scope
  | none => registry

def setBuilt (registry : InstanceRegistry Payload) (instanceId : ProviderInstanceId)
    (live : LiveEntry Payload) : InstanceRegistry Payload :=
  { registry with
    work := { registry.work with
      builtEntries := KeyedMap.set instanceId live registry.work.builtEntries } }

def setBuiltUnavailable (registry : InstanceRegistry Payload) (instanceId : ProviderInstanceId)
    (entry : ProviderInstanceConfig Payload) (reason : String) (checkedAt : IsoDateTime) :
    InstanceRegistry Payload :=
  { registry with
    work := { registry.work with
      builtUnavailable := KeyedMap.set instanceId
        { driverKind := entry.driver, instanceId := instanceId, displayName := entry.displayName
          accentColor := entry.accentColor, reason := reason, checkedAt := checkedAt }
        registry.work.builtUnavailable } }

/-- An entry is kept, or its build is begun: an unknown driver or an invalid configuration makes
it unavailable, else a scope is made for it. -/
def buildEntry (registry : InstanceRegistry Payload) (instanceId : ProviderInstanceId)
    (entry : ProviderInstanceConfig Payload)
    (rest : List (ProviderInstanceId × ProviderInstanceConfig Payload)) :
    ReconcileAnswer → Option (InstanceRegistry Payload)
  | .done =>
    match registry.work.kept instanceId with
    | some live => some { registry.setBuilt instanceId live with phase := .building rest }
    | none =>
      if registered entry.driver then
        some { registry with
          openScopes := registry.openScopes ++ [registry.scopesMade]
          scopesMade := registry.scopesMade + 1
          phase := .creating instanceId entry registry.scopesMade rest }
      else none
  | .failed detail checkedAt =>
    match registry.work.kept instanceId with
    | some _ => none
    | none =>
      let reason :=
        if registered entry.driver then
          "Invalid config for instance '" ++ instanceId ++ "': " ++ detail
        else "Driver '" ++ entry.driver ++ "' is not registered in this build."
      some { registry.setBuiltUnavailable instanceId entry reason checkedAt with
        phase := .building rest }

/-- What the driver's `create` gives; a scope it failed in is closed. -/
def createEntry (registry : InstanceRegistry Payload) (instanceId : ProviderInstanceId)
    (entry : ProviderInstanceConfig Payload) (scope : Nat)
    (rest : List (ProviderInstanceId × ProviderInstanceConfig Payload)) :
    ReconcileAnswer → InstanceRegistry Payload
  | .done =>
    { registry.setBuilt instanceId { scope := scope, entry := entry } with
      phase := .building rest }
  | .failed detail checkedAt =>
    { (registry.closeScope scope).setBuiltUnavailable instanceId entry
        ("Driver '" ++ entry.driver ++ "' failed to create instance: " ++ detail) checkedAt with
      phase := .building rest }

def nextStep (registry : InstanceRegistry Payload) (answer : ReconcileAnswer) :
    Option (InstanceRegistry Payload) :=
  match registry.phase with
  | .idle => none
  | .closing [] => some { registry with phase := .building registry.work.configMap.rows }
  | .closing (instanceId :: ids) =>
    some { registry.closeEntry instanceId with phase := .closing ids }
  | .building [] => some { registry with phase := .setEntries }
  | .building ((instanceId, entry) :: rest) =>
    registry.buildEntry registered instanceId entry rest answer
  | .creating instanceId entry scope rest =>
    some (registry.createEntry instanceId entry scope rest answer)
  | .setEntries =>
    some { registry with entries := registry.work.builtEntries, phase := .setUnavailable }
  | .setUnavailable =>
    some { registry with unavailable := registry.work.builtUnavailable, phase := .publish }
  | .publish =>
    some { registry with
      changes :=
        if registry.work.entriesChanged || registry.work.unavailableChanged then
          registry.changes + 1
        else registry.changes
      phase := .idle }

def getInstance (registry : InstanceRegistry Payload) (instanceId : ProviderInstanceId) :
    Option Nat :=
  (KeyedMap.get instanceId registry.entries).map LiveEntry.scope

def listInstances (registry : InstanceRegistry Payload) : List Nat :=
  registry.entries.rows.map fun live => live.2.scope

def read (registry : InstanceRegistry Payload) (returned : List Nat) : InstanceRegistry Payload :=
  { registry with
    reads := registry.reads ++ [{ returned := returned, openScopes := registry.openScopes }] }

def isIdle : ReconcilePhase Payload → Bool
  | .idle => true
  | _ => false

def step (registry : InstanceRegistry Payload) :
    RegistryAction Payload → Option (InstanceRegistry Payload)
  | .reconcile configMap =>
    if isIdle registry.phase then some (registry.startReconcile configMap) else none
  | .next answer => registry.nextStep registered answer
  | .getInstance instanceId => some (registry.read (registry.getInstance instanceId).toList)
  | .listInstances => some (registry.read registry.listInstances)

end InstanceRegistry

end GT3Code.Provider
