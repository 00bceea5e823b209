import GT3Code.Base.JsonNumber
import GT3Code.Base.JsonText

/-! # VCS status

A status has a local part, read from the working directory, and a remote part. The
server sends a subscriber a snapshot of both and then the parts that changed, and the
client folds these events into one status.
-/

namespace GT3Code.Contracts

open GT3Code.Base.Json

inductive VcsDriverKind where
  | git
  | jj
  | unknown
  deriving DecidableEq

inductive SourceControlProviderKind where
  | github
  | gitlab
  | azureDevops
  | bitbucket
  | unknown
  deriving DecidableEq

structure SourceControlProviderInfo where
  kind : SourceControlProviderKind
  name : Text
  baseUrl : Text
  deriving DecidableEq

structure VcsStatusFile where
  path : Text
  insertions : Nat
  deletions : Nat
  deriving DecidableEq

structure VcsWorkingTree where
  files : List VcsStatusFile
  insertions : Nat
  deletions : Nat
  deriving DecidableEq

structure VcsStatusLocalResult where
  kind : VcsDriverKind
  isRepo : Bool
  sourceControlProvider : Option SourceControlProviderInfo
  hasPrimaryRemote : Bool
  isDefaultRef : Bool
  refName : Option Text
  hasWorkingTreeChanges : Bool
  workingTree : VcsWorkingTree
  deriving DecidableEq

inductive VcsStatusChangeRequestState where
  | opened
  | closed
  | merged
  deriving DecidableEq

structure VcsStatusChangeRequest where
  number : Nat
  title : Text
  url : Text
  baseRef : Text
  headRef : Text
  state : VcsStatusChangeRequestState
  deriving DecidableEq

structure VcsStatusRemoteResult where
  hasUpstream : Bool
  aheadCount : Nat
  behindCount : Nat
  aheadOfDefaultCount : Option Nat
  pr : Option VcsStatusChangeRequest
  deriving DecidableEq

structure VcsStatusResult extends VcsStatusLocalResult, VcsStatusRemoteResult

inductive VcsStatusStreamEvent where
  | snapshot (loc : VcsStatusLocalResult) (remote : Option VcsStatusRemoteResult)
  | localUpdated (loc : VcsStatusLocalResult)
  | remoteUpdated (remote : Option VcsStatusRemoteResult)

def EMPTY_GIT_STATUS_REMOTE : VcsStatusRemoteResult where
  hasUpstream := false
  aheadCount := 0
  behindCount := 0
  aheadOfDefaultCount := some 0
  pr := none

def mergeGitStatusParts (loc : VcsStatusLocalResult) (remote : Option VcsStatusRemoteResult) :
    VcsStatusResult :=
  { loc, remote.getD EMPTY_GIT_STATUS_REMOTE with }

def toRemoteStatusPart (status : VcsStatusResult) : VcsStatusRemoteResult :=
  status.toVcsStatusRemoteResult

def toLocalStatusPart (status : VcsStatusResult) : VcsStatusLocalResult :=
  status.toVcsStatusLocalResult

def unknownLocalStatus : VcsStatusLocalResult where
  kind := .unknown
  isRepo := true
  sourceControlProvider := none
  hasPrimaryRemote := false
  isDefaultRef := false
  refName := none
  hasWorkingTreeChanges := false
  workingTree := { files := [], insertions := 0, deletions := 0 }

def applyGitStatusStreamEvent (current : Option VcsStatusResult) :
    VcsStatusStreamEvent → VcsStatusResult
  | .snapshot loc remote => mergeGitStatusParts loc remote
  | .localUpdated loc => mergeGitStatusParts loc (current.map toRemoteStatusPart)
  | .remoteUpdated remote =>
    mergeGitStatusParts ((current.map toLocalStatusPart).getD unknownLocalStatus) remote

/-! ## Fingerprints -/

def VcsDriverKind.literal : VcsDriverKind → Text
  | .git => ascii "git"
  | .jj => ascii "jj"
  | .unknown => ascii "unknown"

def SourceControlProviderKind.literal : SourceControlProviderKind → Text
  | .github => ascii "github"
  | .gitlab => ascii "gitlab"
  | .azureDevops => ascii "azure-devops"
  | .bitbucket => ascii "bitbucket"
  | .unknown => ascii "unknown"

def VcsStatusChangeRequestState.literal : VcsStatusChangeRequestState → Text
  | .opened => ascii "open"
  | .closed => ascii "closed"
  | .merged => ascii "merged"

def orNull {α : Type} (encode : α → Doc Text) : Option α → Doc Text
  | none => .scalar .null
  | some value => encode value

def optionalField {α : Type} (key : String) (encode : α → Doc Text) (value : Option α) :
    List (Text × Doc Text) :=
  (value.map (fun value => (ascii key, encode value))).toList

def bool (value : Bool) : Doc Text := .scalar (.bool value)

def SourceControlProviderInfo.encode (provider : SourceControlProviderInfo) : Doc Text :=
  .obj [
    (ascii "kind", .str provider.kind.literal),
    (ascii "name", .str provider.name),
    (ascii "baseUrl", .str provider.baseUrl)]

def VcsStatusFile.encode (file : VcsStatusFile) : Doc Text :=
  .obj [
    (ascii "path", .str file.path),
    (ascii "insertions", number file.insertions),
    (ascii "deletions", number file.deletions)]

def VcsWorkingTree.encode (workingTree : VcsWorkingTree) : Doc Text :=
  .obj [
    (ascii "files", .arr (workingTree.files.map VcsStatusFile.encode)),
    (ascii "insertions", number workingTree.insertions),
    (ascii "deletions", number workingTree.deletions)]

def VcsStatusLocalResult.encode (loc : VcsStatusLocalResult) : Doc Text :=
  .obj ([
    (ascii "kind", .str loc.kind.literal),
    (ascii "isRepo", bool loc.isRepo)] ++
    optionalField "sourceControlProvider" SourceControlProviderInfo.encode
      loc.sourceControlProvider ++ [
    (ascii "hasPrimaryRemote", bool loc.hasPrimaryRemote),
    (ascii "isDefaultRef", bool loc.isDefaultRef),
    (ascii "refName", orNull .str loc.refName),
    (ascii "hasWorkingTreeChanges", bool loc.hasWorkingTreeChanges),
    (ascii "workingTree", loc.workingTree.encode)])

def VcsStatusChangeRequest.encode (pr : VcsStatusChangeRequest) : Doc Text :=
  .obj [
    (ascii "number", Base.Json.number pr.number),
    (ascii "title", .str pr.title),
    (ascii "url", .str pr.url),
    (ascii "baseRef", .str pr.baseRef),
    (ascii "headRef", .str pr.headRef),
    (ascii "state", .str pr.state.literal)]

def VcsStatusRemoteResult.encode (remote : VcsStatusRemoteResult) : Doc Text :=
  .obj ([
    (ascii "hasUpstream", bool remote.hasUpstream),
    (ascii "aheadCount", number remote.aheadCount),
    (ascii "behindCount", number remote.behindCount)] ++
    optionalField "aheadOfDefaultCount" (fun count => number (count : Nat))
      remote.aheadOfDefaultCount ++ [
    (ascii "pr", orNull VcsStatusChangeRequest.encode remote.pr)])

/-! Values of one part with one text are equal. -/

theorem VcsDriverKind.literal_inj {first second : VcsDriverKind} :
    first.literal = second.literal ↔ first = second := by
  cases first <;> cases second <;> decide

theorem SourceControlProviderKind.literal_inj {first second : SourceControlProviderKind} :
    first.literal = second.literal ↔ first = second := by
  cases first <;> cases second <;> decide

theorem VcsStatusChangeRequestState.literal_inj {first second : VcsStatusChangeRequestState} :
    first.literal = second.literal ↔ first = second := by
  cases first <;> cases second <;> decide

theorem bool_inj {first second : Bool} : bool first = bool second ↔ first = second := by
  simp [bool]

theorem orNull_inj {α : Type} {encode : α → Doc Text} (hinj : Function.Injective encode)
    (hnull : ∀ value, encode value ≠ .scalar .null) {first second : Option α} :
    orNull encode first = orNull encode second ↔ first = second := by
  cases first <;> cases second <;> simp [orNull, hinj.eq_iff, hnull, Ne.symm (hnull _)]

theorem SourceControlProviderInfo.encode_injective :
    Function.Injective SourceControlProviderInfo.encode := by
  intro first second h
  cases first
  cases second
  simpa [encode, SourceControlProviderKind.literal_inj] using h

theorem VcsStatusFile.encode_injective : Function.Injective VcsStatusFile.encode := by
  intro first second h
  cases first
  cases second
  simpa [encode, number_inj] using h

theorem VcsWorkingTree.encode_injective : Function.Injective VcsWorkingTree.encode := by
  intro first second h
  cases first
  cases second
  simpa [encode, number_inj, VcsStatusFile.encode_injective.list_map.eq_iff] using h

theorem orNull_str_inj {first second : Option Text} :
    orNull Doc.str first = orNull Doc.str second ↔ first = second :=
  orNull_inj (fun _ _ h => Doc.str.inj h) (fun _ h => by cases h)

theorem VcsStatusLocalResult.encode_injective : Function.Injective VcsStatusLocalResult.encode := by
  intro first second h
  obtain ⟨_, _, provider, _, _, _, _, _⟩ := first
  obtain ⟨_, _, provider', _, _, _, _, _⟩ := second
  -- the field left out shifts the ones after it, whose keys differ
  cases provider <;> cases provider' <;>
    simp [encode, optionalField, VcsDriverKind.literal_inj, bool_inj, orNull_str_inj,
      VcsWorkingTree.encode_injective.eq_iff, SourceControlProviderInfo.encode_injective.eq_iff]
      at h <;>
    simp [h]

theorem VcsStatusChangeRequest.encode_injective :
    Function.Injective VcsStatusChangeRequest.encode := by
  intro first second h
  cases first
  cases second
  simpa [encode, number_inj, VcsStatusChangeRequestState.literal_inj] using h

theorem orNull_pr_inj {first second : Option VcsStatusChangeRequest} :
    orNull VcsStatusChangeRequest.encode first = orNull VcsStatusChangeRequest.encode second ↔
      first = second :=
  orNull_inj VcsStatusChangeRequest.encode_injective (fun _ h => by cases h)

theorem VcsStatusRemoteResult.encode_injective :
    Function.Injective VcsStatusRemoteResult.encode := by
  intro first second h
  obtain ⟨_, _, _, count, _⟩ := first
  obtain ⟨_, _, _, count', _⟩ := second
  cases count <;> cases count' <;>
    simp [encode, optionalField, number_inj, bool_inj, orNull_pr_inj] at h <;>
    simp [h]

/-! Every part is a value with distinct keys. -/

theorem distinct_bool (value : Bool) : (bool value).Distinct := rfl

theorem distinct_number (n : Int) : (Base.Json.number n).Distinct := rfl

theorem distinct_str (value : Text) : (Doc.str value).Distinct := rfl

theorem distinct_orNull {α : Type} {encode : α → Doc Text} (h : ∀ value, (encode value).Distinct)
    (value : Option α) : (orNull encode value).Distinct := by
  cases value with
  | none => rfl
  | some value => exact h value

theorem VcsWorkingTree.distinct_encode (workingTree : VcsWorkingTree) :
    workingTree.encode.Distinct := by
  have hfiles : (Doc.arr (workingTree.files.map VcsStatusFile.encode)).Distinct := by
    rw [Doc.distinct_arr]
    intro item hitem
    obtain ⟨file, -, rfl⟩ := List.mem_map.mp hitem
    rfl
  have hkeys : [ascii "files", ascii "insertions", ascii "deletions"].Nodup := by decide +kernel
  rw [encode, Doc.distinct_obj]
  exact ⟨hkeys, by simp [hfiles, distinct_number]⟩

def localKeys : List Text :=
  [ascii "kind", ascii "isRepo", ascii "hasPrimaryRemote", ascii "isDefaultRef", ascii "refName",
    ascii "hasWorkingTreeChanges", ascii "workingTree"]

theorem VcsStatusLocalResult.distinct_encode (loc : VcsStatusLocalResult) :
    loc.encode.Distinct := by
  obtain ⟨_, _, provider, _, _, refName, _, workingTree⟩ := loc
  have href := distinct_orNull distinct_str refName
  have hworkingTree := workingTree.distinct_encode
  have hkeys : localKeys.Nodup := by decide +kernel
  rw [encode, Doc.distinct_obj]
  cases provider with
  | none =>
    refine ⟨hkeys, ?_⟩
    simp [optionalField, distinct_str, distinct_bool, href, hworkingTree]
  | some provider =>
    have hall : (localKeys.insertIdx 2 (ascii "sourceControlProvider")).Nodup := by
      decide +kernel
    have hprovider : provider.encode.Distinct := rfl
    refine ⟨hall, ?_⟩
    simp [optionalField, distinct_str, distinct_bool, href, hworkingTree, hprovider]

def remoteKeys : List Text :=
  [ascii "hasUpstream", ascii "aheadCount", ascii "behindCount", ascii "pr"]

theorem VcsStatusRemoteResult.distinct_encode (remote : VcsStatusRemoteResult) :
    remote.encode.Distinct := by
  obtain ⟨_, _, _, count, pr⟩ := remote
  have hencode : ∀ pr : VcsStatusChangeRequest, pr.encode.Distinct := fun _ => rfl
  have hpr := distinct_orNull hencode pr
  have hkeys : remoteKeys.Nodup := by decide +kernel
  rw [encode, Doc.distinct_obj]
  cases count with
  | none =>
    refine ⟨hkeys, ?_⟩
    simp [optionalField, distinct_bool, distinct_number, hpr]
  | some count =>
    have hall : (remoteKeys.insertIdx 3 (ascii "aheadOfDefaultCount")).Nodup := by decide +kernel
    refine ⟨hall, ?_⟩
    simp [optionalField, distinct_bool, distinct_number, hpr]

end GT3Code.Contracts
