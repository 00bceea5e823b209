import GT3Code.Base.KeyedMap

/-! # Bootstrap credentials

Pairing links are rows of a table under two unique columns, changed by conditional
updates. The credential the desktop shell was started with is a grant in memory.
-/

namespace GT3Code.Auth

open GT3Code.Base

/-! ## Pairing links -/

inductive ServerAuthBootstrapMethod where
  | desktopBootstrap
  | oneTimeToken

inductive BootstrapCredentialRole where
  | owner
  | client

structure AuthPairingLinkRecord where
  id : String
  credential : String
  method : ServerAuthBootstrapMethod
  role : BootstrapCredentialRole
  subject : String
  label : Option String
  createdAt : Int
  expiresAt : Int
  consumedAt : Option Int
  revokedAt : Option Int

/-- The table `auth_pairing_links`. -/
structure PairingLinks where
  rows : List AuthPairingLinkRecord
  ids : (rows.map AuthPairingLinkRecord.id).Nodup
  credentials : (rows.map AuthPairingLinkRecord.credential).Nodup

namespace PairingLinks

def empty : PairingLinks := ⟨[], List.nodup_nil, List.nodup_nil⟩

/-- `INSERT`, undefined where a unique column holds the value. -/
def create (row : AuthPairingLinkRecord) (links : PairingLinks) : Option PairingLinks :=
  if h : row.id ∉ links.rows.map AuthPairingLinkRecord.id ∧
      row.credential ∉ links.rows.map AuthPairingLinkRecord.credential then
    some
      { rows := row :: links.rows
        ids := by simpa using ⟨by simpa using h.1, links.ids⟩
        credentials := by simpa using ⟨by simpa using h.2, links.credentials⟩ }
  else none

/-- `UPDATE` of columns without an index. -/
def amend (selects : AuthPairingLinkRecord → Bool)
    (change : AuthPairingLinkRecord → AuthPairingLinkRecord)
    (hid : ∀ row, (change row).id = row.id)
    (hcredential : ∀ row, (change row).credential = row.credential) (links : PairingLinks) :
    PairingLinks where
  rows := links.rows.map fun row => if selects row then change row else row
  ids := by
    have hsame : (links.rows.map fun row => if selects row then change row else row).map
        AuthPairingLinkRecord.id = links.rows.map AuthPairingLinkRecord.id := by
      rw [List.map_map]
      refine List.map_congr_left fun row _ => ?_
      show (if selects row then change row else row).id = row.id
      split
      · exact hid row
      · rfl
    rw [hsame]
    exact links.ids
  credentials := by
    have hsame : (links.rows.map fun row => if selects row then change row else row).map
        AuthPairingLinkRecord.credential =
          links.rows.map AuthPairingLinkRecord.credential := by
      rw [List.map_map]
      refine List.map_congr_left fun row _ => ?_
      show (if selects row then change row else row).credential = row.credential
      split
      · exact hcredential row
      · rfl
    rw [hsame]
    exact links.credentials

/-- The condition of the update in `consumeAvailablePairingLinkRow`. -/
def isAvailable (credential : String) (now : Int) (row : AuthPairingLinkRecord) : Bool :=
  row.credential = credential && row.revokedAt.isNone && row.consumedAt.isNone &&
    now < row.expiresAt

def consumeAvailable (credential : String) (consumedAt now : Int) (links : PairingLinks) :
    Option AuthPairingLinkRecord × PairingLinks :=
  ((links.rows.find? (isAvailable credential now)).map
      fun row => { row with consumedAt := some consumedAt },
    links.amend (isAvailable credential now)
      (fun row => { row with consumedAt := some consumedAt }) (fun _ => rfl) (fun _ => rfl))

variable {credential : String} {now : Int} {row : AuthPairingLinkRecord}

variable {consumedAt : Int} {next : PairingLinks} {other : AuthPairingLinkRecord}

theorem consumeAvailable_none {links : PairingLinks}
    (h : links.consumeAvailable credential consumedAt now = (none, next)) : next = links := by
  simp only [consumeAvailable, Prod.mk.injEq, Option.map_eq_none_iff] at h
  obtain ⟨hfind, rfl⟩ := h
  have hrows : (links.rows.map fun row =>
      if isAvailable credential now row = true then
        { row with consumedAt := some consumedAt } else row) = links.rows := by
    conv_rhs => rw [← List.map_id links.rows]
    apply List.map_congr_left
    intro row hrow
    have hnot := List.find?_eq_none.mp hfind row hrow
    rw [if_neg hnot]
    rfl
  cases links
  simpa only [amend, PairingLinks.mk.injEq] using hrows

/-- The condition of the query in `listActivePairingLinkRows`. -/
def isActive (now : Int) (row : AuthPairingLinkRecord) : Bool :=
  row.revokedAt.isNone && row.consumedAt.isNone && now < row.expiresAt

def listActive (now : Int) (links : PairingLinks) : List AuthPairingLinkRecord :=
  (links.rows.filter (isActive now)).mergeSort fun left right =>
    right.createdAt < left.createdAt ||
      (left.createdAt = right.createdAt && !decide (left.id < right.id))

/-- The condition of the update in `revokePairingLinkRow`. -/
def isRevocable (id : String) (row : AuthPairingLinkRecord) : Bool :=
  row.id = id && row.revokedAt.isNone && row.consumedAt.isNone

def revoke (id : String) (revokedAt : Int) (links : PairingLinks) : Bool × PairingLinks :=
  (links.rows.any (isRevocable id),
    links.amend (isRevocable id) (fun row => { row with revokedAt := some revokedAt })
      (fun _ => rfl) (fun _ => rfl))

def getByCredential (credential : String) (links : PairingLinks) :
    Option AuthPairingLinkRecord :=
  links.rows.find? fun row => row.credential = credential

/-! ### Rows -/

variable {links : PairingLinks}

theorem eq_of_id (hrow : row ∈ links.rows) (hother : other ∈ links.rows) (h : row.id = other.id) :
    row = other :=
  List.inj_on_of_nodup_map links.ids hrow hother h

theorem eq_of_credential (hrow : row ∈ links.rows) (hother : other ∈ links.rows)
    (h : row.credential = other.credential) : row = other :=
  List.inj_on_of_nodup_map links.credentials hrow hother h

theorem create_eq_some (h : links.create row = some next) :
    next.rows = row :: links.rows ∧ row.id ∉ links.rows.map AuthPairingLinkRecord.id := by
  simp only [create] at h
  split at h
  · rename_i hfresh
    cases h
    exact ⟨rfl, hfresh.1⟩
  · cases h

section amend

variable {selects : AuthPairingLinkRecord → Bool}
  {change : AuthPairingLinkRecord → AuthPairingLinkRecord}
  (hid : ∀ row, (change row).id = row.id)
  (hcredential : ∀ row, (change row).credential = row.credential)

theorem mem_amend_iff {row : AuthPairingLinkRecord} :
    row ∈ (links.amend selects change hid hcredential).rows ↔
      ∃ before ∈ links.rows, (if selects before then change before else before) = row :=
  List.mem_map

theorem exists_amend_iff (hexpires : ∀ row, (change row).expiresAt = row.expiresAt) (id : String)
    (expiresAt : Int) :
    (∃ row ∈ (links.amend selects change hid hcredential).rows,
        row.id = id ∧ row.expiresAt = expiresAt) ↔
      ∃ row ∈ links.rows, row.id = id ∧ row.expiresAt = expiresAt := by
  have hsame : ∀ before : AuthPairingLinkRecord,
      (if selects before then change before else before).id = before.id ∧
        (if selects before then change before else before).expiresAt = before.expiresAt := by
    intro before
    split
    · exact ⟨hid before, hexpires before⟩
    · exact ⟨rfl, rfl⟩
  constructor
  · rintro ⟨row, hrow, hrowId, hrowExpires⟩
    obtain ⟨before, hbefore, rfl⟩ := (mem_amend_iff hid hcredential).mp hrow
    exact ⟨before, hbefore, (hsame before).1.symm.trans hrowId,
      (hsame before).2.symm.trans hrowExpires⟩
  · rintro ⟨row, hrow, hrowId, hrowExpires⟩
    exact ⟨_, (mem_amend_iff hid hcredential).mpr ⟨row, hrow, rfl⟩,
      (hsame row).1.trans hrowId, (hsame row).2.trans hrowExpires⟩

end amend

theorem mem_consumeAvailable_iff :
    row ∈ (links.consumeAvailable credential consumedAt now).2.rows ↔
      ∃ before ∈ links.rows,
        (if isAvailable credential now before then { before with consumedAt := some consumedAt }
          else before) = row :=
  List.mem_map

theorem mem_revoke_iff {id : String} {revokedAt : Int} :
    row ∈ (links.revoke id revokedAt).2.rows ↔
      ∃ before ∈ links.rows,
        (if isRevocable id before then { before with revokedAt := some revokedAt }
          else before) = row :=
  List.mem_map

theorem isAvailable_iff :
    isAvailable credential now row = true ↔ row.credential = credential ∧
      row.revokedAt = none ∧ row.consumedAt = none ∧ now < row.expiresAt := by
  simp [isAvailable, and_assoc]

theorem isActive_iff :
    isActive now row = true ↔
      row.revokedAt = none ∧ row.consumedAt = none ∧ now < row.expiresAt := by
  simp [isActive, and_assoc]

theorem isRevocable_iff {id : String} :
    isRevocable id row = true ↔
      row.id = id ∧ row.revokedAt = none ∧ row.consumedAt = none := by
  simp [isRevocable, and_assoc]

theorem mem_listActive_iff :
    row ∈ links.listActive now ↔ row ∈ links.rows ∧ row.revokedAt = none ∧
      row.consumedAt = none ∧ now < row.expiresAt := by
  rw [listActive, List.mem_mergeSort, List.mem_filter, isActive_iff]

end PairingLinks

/-! ## The service -/

inductive RemainingUses where
  | uses (count : Nat)
  | unbounded

structure BootstrapGrant where
  method : ServerAuthBootstrapMethod
  role : BootstrapCredentialRole
  subject : String
  label : Option String
  expiresAt : Int

structure StoredBootstrapGrant extends BootstrapGrant where
  remainingUses : RemainingUses

structure BootstrapCredentialError where
  message : String
  status : Nat

def invalidBootstrapCredentialError (message : String) : BootstrapCredentialError where
  message := message
  status := 401

abbrev SeededGrants := KeyedMap String StoredBootstrapGrant

def DEFAULT_ONE_TIME_TOKEN_TTL : Nat := 5 * 60 * 1000

/-- The grant of `config.desktopBootstrapToken`. -/
def desktopGrant (now : Int) : StoredBootstrapGrant where
  method := .desktopBootstrap
  role := .owner
  subject := "desktop-bootstrap"
  label := none
  expiresAt := now + DEFAULT_ONE_TIME_TOKEN_TTL
  remainingUses := .uses 1

def seedGrants (desktopBootstrapToken : Option String) (now : Int) : SeededGrants :=
  match desktopBootstrapToken with
  | none => KeyedTable.empty _
  | some token =>
    if token = "" then KeyedTable.empty _
    else KeyedMap.set token (desktopGrant now) (KeyedTable.empty _)

structure IssueOneTimeTokenInput where
  ttl : Option Nat
  role : Option BootstrapCredentialRole
  subject : Option String
  label : Option String

/-- The row of `issueOneTimeToken`. -/
def issuedLink (id credential : String) (input : IssueOneTimeTokenInput) (now : Int) :
    AuthPairingLinkRecord where
  id := id
  credential := credential
  method := .oneTimeToken
  role := input.role.getD .client
  subject := input.subject.getD "one-time-token"
  label := input.label
  createdAt := now
  expiresAt := now + (input.ttl.getD DEFAULT_ONE_TIME_TOKEN_TTL : Nat)
  consumedAt := none
  revokedAt := none

def grantLabel (label : Option String) : Option String := label.filter fun text => text ≠ ""

inductive SeededResult where
  | notFound
  | expired (error : BootstrapCredentialError)
  | success (grant : BootstrapGrant)

/-- The modification of the seeded grants in `consume`. -/
def consumeSeeded (credential : String) (now : Int) (current : SeededGrants) :
    SeededResult × SeededGrants :=
  match current.get credential with
  | none => (.notFound, current)
  | some grant =>
    if grant.expiresAt ≤ now then
      (.expired (invalidBootstrapCredentialError "Bootstrap credential expired."),
        current.delete credential)
    else
      let next :=
        match grant.remainingUses with
        | .unbounded => current
        | .uses count =>
          if count ≤ 1 then current.delete credential
          else current.set credential { grant with remainingUses := .uses (count - 1) }
      (.success { grant.toBootstrapGrant with label := grantLabel grant.label }, next)

def AuthPairingLinkRecord.grant (row : AuthPairingLinkRecord) : BootstrapGrant where
  method := row.method
  role := row.role
  subject := row.subject
  label := grantLabel row.label
  expiresAt := row.expiresAt

def unavailableError (now : Int) (matching : Option AuthPairingLinkRecord) :
    BootstrapCredentialError :=
  match matching with
  | none => invalidBootstrapCredentialError "Unknown bootstrap credential."
  | some row =>
    if row.revokedAt.isSome then
      invalidBootstrapCredentialError "Bootstrap credential is no longer available."
    else if row.consumedAt.isSome then
      invalidBootstrapCredentialError "Unknown bootstrap credential."
    else if row.expiresAt ≤ now then
      invalidBootstrapCredentialError "Bootstrap credential expired."
    else invalidBootstrapCredentialError "Bootstrap credential is no longer available."

variable {credential : String} {now : Int} {current : SeededGrants}

theorem consumeSeeded_success {next : SeededGrants} {grant : BootstrapGrant}
    (h : consumeSeeded credential now current = (.success grant, next)) :
    ∃ stored : StoredBootstrapGrant, current.get credential = some stored ∧
      now < stored.expiresAt ∧
      (stored.remainingUses = .uses 1 → next = current.delete credential) := by
  simp only [consumeSeeded] at h
  split at h
  · cases h
  · rename_i stored hget
    split at h
    · cases h
    · rename_i hvalid
      refine ⟨stored, hget, by omega, ?_⟩
      intro huses
      simp only [huses, Nat.le_refl, if_true, Prod.mk.injEq] at h
      exact h.2.symm

theorem get_consumeSeeded {other : String} {stored : StoredBootstrapGrant}
    (huses : ∀ grant, current.get credential = some grant →
      grant.remainingUses = .uses 1)
    (h : (consumeSeeded credential now current).2.get other = some stored) :
    current.get other = some stored := by
  simp only [consumeSeeded] at h
  have hdelete : (current.delete credential).get other = some stored →
      current.get other = some stored := by
    intro hget
    by_cases hother : other = credential
    · subst hother
      rw [KeyedMap.get_delete_self] at hget
      cases hget
    · rwa [KeyedMap.get_delete_of_ne hother] at hget
  split at h
  · exact h
  · rename_i grant hget
    split at h
    · exact hdelete h
    · simp only [huses grant hget, Nat.le_refl, if_true] at h
      exact hdelete h

end GT3Code.Auth
