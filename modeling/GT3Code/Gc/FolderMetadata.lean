import GT3Code.Contracts.ReadModel

/-! # Folder metadata stamping

`buildStampedGcMetadataUpdate` adds the canonical folder keys to a metadata
update. Strings are taken apart as lists of characters.
-/

namespace GT3Code.Gc

open GT3Code.Base GT3Code.Contracts

def DEFAULT_GC_CITY : String := "gc"

/-- Code points that `String.prototype.trim` removes. -/
def whitespaceCodes : List Nat :=
  [9, 10, 11, 12, 13, 32, 160, 5760, 8192, 8193, 8194, 8195, 8196, 8197, 8198, 8199, 8200, 8201,
    8202, 8232, 8233, 8239, 8287, 12288, 65279]

def isWhitespace (c : Char) : Bool := whitespaceCodes.contains c.toNat

def dropTrailing (p : Char → Bool) (chars : List Char) : List Char :=
  (chars.reverse.dropWhile p).reverse

def trim (value : String) : String :=
  String.ofList (dropTrailing isWhitespace (value.toList.dropWhile isWhitespace))

/-- Part after the last `c`, the whole string where `c` does not occur. -/
def afterLast (c : Char) (value : String) : String :=
  String.ofList ((value.toList.reverse.takeWhile (fun d => d ≠ c)).reverse)

def startsWith (value start : String) : Bool := start.toList.isPrefixOf value.toList

/-- `value.split("/").filter(Boolean)` on characters. -/
def segments (chars : List Char) : List (List Char) :=
  (chars.splitOn '/').filter (fun segment => !segment.isEmpty)

def trimToUndefined (value : Option String) : Option String :=
  (value.map trim).filter (fun trimmed => trimmed ≠ "")

def normalizedIdentifier (value : Option String) : Option String :=
  (trimToUndefined value).filter (fun trimmed => trimmed ≠ "." ∧ trimmed ≠ ".." ∧ trimmed ≠ "/")

def normalizedLeafName (value : Option String) : Option String :=
  (normalizedIdentifier value).bind (fun trimmed =>
    let slashed := trimmed.toList.map (fun c => if c = '\\' then '/' else c)
    let normalized := dropTrailing (fun c => c = '/') slashed
    let leaf := String.ofList ((segments normalized).getLast?.getD normalized)
    if leaf = "" ∨ leaf = "." ∨ leaf = ".." then none else some leaf)

section Runtime

variable [TextRuntime]

/-- String entries of the JSON object `value` denotes. -/
def parseSessionEnv (value : Option String) : Option (List (String × String)) :=
  (value.filter (fun text => text ≠ "")).bind (fun text =>
    match TextRuntime.parseJson text with
    | some (.obj entries) =>
      some (entries.filterMap (fun entry =>
        entry.2.string?.map (fun entryValue => (entry.1, entryValue))))
    | _ => none)

/-- `sessionEnv?.[key]`. -/
def sessionEnvValue (key : String) (sessionEnv : Option (List (String × String))) :
    Option String :=
  sessionEnv.bind (fun entries => (entries.find? (fun entry => entry.1 = key)).map Prod.snd)

def gcCityName (customMetadata : CustomMetadata) : String :=
  let sessionEnv := parseSessionEnv (customMetadata.get "gc.sessionEnv")
  let fromEnv := fun key => normalizedLeafName (sessionEnvValue key sessionEnv)
  ((((normalizedLeafName (customMetadata.get "gc.city")).orElse
    (fun _ => fromEnv "GC_CITY_NAME")).orElse
    (fun _ => fromEnv "GC_CITY_PATH")).orElse
    (fun _ => fromEnv "GC_CITY_ROOT")).orElse
    (fun _ => fromEnv "GC_CITY") |>.getD DEFAULT_GC_CITY

end Runtime

def shouldCityScopeFolderMetadata (city : String) : Bool := city ≠ DEFAULT_GC_CITY

def cityScopedRigId (city rig : String) : String :=
  if !shouldCityScopeFolderMetadata city ∨ rig = city ∨ '/' ∈ rig.toList ∨
      startsWith rig (city ++ "/") then
    rig
  else
    city ++ "/" ++ rig

def gcAgentLabel (agentQualified : String) : String :=
  afterLast '.' (afterLast '/' agentQualified)

def gcAgentQualifiedName (agent city groupId : String) (rig : Option String) : String :=
  if !shouldCityScopeFolderMetadata city then agent
  else if agent = groupId ∨ startsWith agent (groupId ++ "/") then agent
  else
    let rigCandidates := [normalizedIdentifier rig, normalizedLeafName rig].filterMap id
    match rigCandidates.find? (fun candidate => startsWith agent (candidate ++ "/")) with
    | some candidate =>
      groupId ++ "/" ++ String.ofList (agent.toList.drop (candidate.toList.length + 1))
    | none => groupId ++ "/" ++ agent

section Runtime

variable [TextRuntime]

def deriveCanonicalGcFolderMetadata (customMetadata : CustomMetadata) :
    Option (List (String × String)) :=
  (trimToUndefined (customMetadata.get "gc.agent")).map (fun agent =>
    let rig := normalizedIdentifier (customMetadata.get "gc.rig")
    let city := gcCityName customMetadata
    let groupId := (rig.map (cityScopedRigId city)).getD city
    let agentQualified := gcAgentQualifiedName agent city groupId rig
    [("gc.groupKind", if rig.isSome then "rig" else "workspace"),
      ("gc.groupId", groupId),
      ("gc.groupLabel", rig.getD (TextRuntime.toUpperCase city)),
      ("gc.agentQualified", agentQualified),
      ("gc.agentLabel", gcAgentLabel agentQualified)])

/-- The incoming entries and every canonical entry the merged metadata does not
hold already; nothing when that is empty. -/
def buildStampedGcMetadataUpdate (existingMetadata incomingMetadata : Option CustomMetadata) :
    Option CustomMetadata :=
  let incoming := incomingMetadata.getD (KeyedTable.empty _)
  let mergedMetadata := CustomMetadata.merge (existingMetadata.getD (KeyedTable.empty _)) incoming
  let stale := ((deriveCanonicalGcFolderMetadata mergedMetadata).getD []).filter
    (fun entry => mergedMetadata.get entry.1 ≠ some entry.2)
  let nextMetadata := KeyedTable.putAll stale incoming
  if nextMetadata.rows.isEmpty then none else some nextMetadata

end Runtime

end GT3Code.Gc
