import GT3Code.Auth.BootstrapCredentialService
import GT3Code.Base.Runs

/-! # Credentials are used once

Competing `consume` calls read the clock, try the seeded grants and update the pairing
links in steps of their own, while links are issued and revoked and time passes. Each
call is recorded with the stores it started from.
-/

namespace GT3Code.Auth

open GT3Code.Base

/-- `revoked` are the ids `revoke` was called with when a link of that id had been issued. -/
structure BootstrapStores where
  clock : Int
  seeded : SeededGrants
  links : PairingLinks
  revoked : List String

/-- What a call was granted: the seeded credential, or the link with the id. -/
inductive GrantSource where
  | seeded (credential : String)
  | link (id : String)

inductive ConsumeStage where
  | idle
  | readClock
  | trySeeded (now : Int)
  | update (now : Int)
  | lookup (now : Int)
  | granted (source : GrantSource) (grant : BootstrapGrant)
  | rejected (error : BootstrapCredentialError)

structure ConsumeCall where
  credential : String
  stage : ConsumeStage
  start : BootstrapStores

/-- `startup` are the grants seeded at the start, `issued` the rows as they were created. -/
structure BootstrapState where
  startup : SeededGrants
  stores : BootstrapStores
  calls : Nat → ConsumeCall
  issued : List AuthPairingLinkRecord

/-- The times of an issue and a revocation were read in an earlier step. -/
inductive BootstrapAction where
  | issueOneTimeToken (id credential : String) (input : IssueOneTimeTokenInput) (now : Int)
  | revoke (id : String) (revokedAt : Int)
  | consume (i : Nat) (credential : String)
  | advance (i : Nat)
  | tick (elapsed : Nat)

namespace BootstrapState

def initial (desktopBootstrapToken : Option String) (now : Int) : BootstrapState :=
  let startup := seedGrants desktopBootstrapToken now
  let stores : BootstrapStores := { clock := now, seeded := startup, links := .empty, revoked := [] }
  { startup := startup
    stores := stores
    calls := fun _ => ⟨"", .idle, stores⟩
    issued := [] }

variable (state : BootstrapState)

def setStage (i : Nat) (stage : ConsumeStage) : BootstrapState :=
  { state with calls := Function.update state.calls i { state.calls i with stage := stage } }

def advance (i : Nat) : Option BootstrapState :=
  let credential := (state.calls i).credential
  match (state.calls i).stage with
  | .readClock => some (state.setStage i (.trySeeded state.stores.clock))
  | .trySeeded now =>
    let (result, seeded) := consumeSeeded credential now state.stores.seeded
    let state := { state with stores := { state.stores with seeded := seeded } }
    match result with
    | .notFound => some (state.setStage i (.update now))
    | .expired error => some (state.setStage i (.rejected error))
    | .success grant => some (state.setStage i (.granted (.seeded credential) grant))
  | .update now =>
    let (consumed, links) := state.stores.links.consumeAvailable credential now now
    let state := { state with stores := { state.stores with links := links } }
    match consumed with
    | none => some (state.setStage i (.lookup now))
    | some row => some (state.setStage i (.granted (.link row.id) row.grant))
  | .lookup now =>
    let matching := state.stores.links.getByCredential credential
    some (state.setStage i (.rejected (unavailableError now matching)))
  | .idle | .granted _ _ | .rejected _ => none

def step (state : BootstrapState) : BootstrapAction → Option BootstrapState
  | .issueOneTimeToken id credential input now =>
    let row := issuedLink id credential input now
    match state.stores.links.create row with
    | none => some state
    | some links =>
      some
        { state with
          stores := { state.stores with links := links }
          issued := row :: state.issued }
  | .revoke id revokedAt =>
    let issued := state.issued.any fun row => row.id = id
    some
      { state with
        stores :=
          { state.stores with
            links := (state.stores.links.revoke id revokedAt).2
            revoked := if issued then id :: state.stores.revoked else state.stores.revoked } }
  | .consume i credential =>
    match (state.calls i).stage with
    | .idle =>
      some
        { state with
          calls := Function.update state.calls i ⟨credential, .readClock, state.stores⟩ }
    | _ => none
  | .advance i => state.advance i
  | .tick elapsed =>
    some { state with stores := { state.stores with clock := state.stores.clock + elapsed } }

end BootstrapState

def ConsumeStage.source? : ConsumeStage → Option GrantSource
  | .granted source _ => some source
  | _ => none

def BootstrapStores.Spent (startup : SeededGrants) (stores : BootstrapStores) :
    GrantSource → Prop
  | .seeded credential =>
    ∃ grant, startup.get credential = some grant ∧ grant.expiresAt ≤ stores.clock
  | .link id => id ∈ stores.revoked ∨
      ∃ row ∈ stores.links.rows, row.id = id ∧ row.expiresAt ≤ stores.clock

namespace BootstrapState

def Granted (state : BootstrapState) (i : Nat) (source : GrantSource) : Prop :=
  (state.calls i).stage.source? = some source

/-- A grant goes to one call, which did not start after it was revoked or expired. A link is
listed as long as it is not consumed, revoked or expired, and a listed link can be revoked. -/
structure UsedOnce (state : BootstrapState) : Prop where
  once : ∀ i j source, state.Granted i source → state.Granted j source → i = j
  inTime : ∀ i source, state.Granted i source →
    ¬(state.calls i).start.Spent state.startup source
  listed : ∀ now id, (∃ row ∈ state.stores.links.listActive now, row.id = id) ↔
    ∃ row ∈ state.issued, row.id = id ∧ id ∉ state.stores.revoked ∧
      (¬∃ i, state.Granted i (.link id)) ∧ now < row.expiresAt
  revokes : ∀ now revokedAt, ∀ row ∈ state.stores.links.listActive now,
    (state.stores.links.revoke row.id revokedAt).1 = true

end BootstrapState

/-- What stores keep of earlier ones: time passes, links keep their expiry, and what was
revoked stays so. -/
structure BootstrapStores.Before (earlier later : BootstrapStores) : Prop where
  clock : earlier.clock ≤ later.clock
  links : ∀ row ∈ earlier.links.rows, ∃ kept ∈ later.links.rows, kept.id = row.id ∧
    kept.expiresAt = row.expiresAt
  revoked : ∀ id ∈ earlier.revoked, id ∈ later.revoked

theorem BootstrapStores.Before.refl (stores : BootstrapStores) : stores.Before stores :=
  ⟨Int.le_refl _, fun row hrow => ⟨row, hrow, rfl, rfl⟩, fun _ h => h⟩

theorem BootstrapStores.Before.trans {first second third : BootstrapStores}
    (h : first.Before second) (hnext : second.Before third) : first.Before third where
  clock := Int.le_trans h.clock hnext.clock
  links row hrow := by
    obtain ⟨kept, hkept, hid, hexpires⟩ := h.links row hrow
    obtain ⟨last, hlast, hlastId, hlastExpires⟩ := hnext.links kept hkept
    exact ⟨last, hlast, hlastId.trans hid, hlastExpires.trans hexpires⟩
  revoked id hid := hnext.revoked id (h.revoked id hid)

theorem BootstrapStores.Before.not_spent {earlier later : BootstrapStores}
    (h : earlier.Before later) (startup : SeededGrants) {row : AuthPairingLinkRecord}
    (hrow : row ∈ later.links.rows) (hrevoked : row.id ∉ later.revoked)
    (hexpires : earlier.clock < row.expiresAt) : ¬earlier.Spent startup (.link row.id) := by
  intro hspent
  rcases hspent with hgone | ⟨before, hbefore, hid, hlate⟩
  · exact hrevoked (h.revoked row.id hgone)
  · obtain ⟨kept, hkept, hkeptId, hkeptExpires⟩ := h.links before hbefore
    have hsame := PairingLinks.eq_of_id hkept hrow (hkeptId.trans hid)
    subst hsame
    omega

theorem BootstrapStores.Before.amend {stores : BootstrapStores}
    {selects : AuthPairingLinkRecord → Bool}
    {change : AuthPairingLinkRecord → AuthPairingLinkRecord}
    (hid : ∀ row, (change row).id = row.id)
    (hcredential : ∀ row, (change row).credential = row.credential)
    (hexpires : ∀ row, (change row).expiresAt = row.expiresAt) {revoked : List String}
    (hrevoked : ∀ id ∈ stores.revoked, id ∈ revoked) :
    stores.Before
      { stores with
        links := stores.links.amend selects change hid hcredential
        revoked := revoked } where
  clock := Int.le_refl _
  links row hrow := by
    refine ⟨_, (PairingLinks.mem_amend_iff hid hcredential).mpr ⟨row, hrow, rfl⟩, ?_⟩
    split
    · exact ⟨hid row, hexpires row⟩
    · exact ⟨rfl, rfl⟩
  revoked := hrevoked

def ConsumeStage.now? : ConsumeStage → Option Int
  | .trySeeded now | .update now | .lookup now => some now
  | _ => none

namespace BootstrapState

structure Sound (state : BootstrapState) : Prop where
  start : ∀ i, (state.calls i).start.Before state.stores
  read : ∀ i now, (state.calls i).stage.now? = some now → (state.calls i).start.clock ≤ now
  seeds : ∀ credential grant, state.stores.seeded.get credential = some grant →
    state.startup.get credential = some grant ∧ grant.remainingUses = .uses 1 ∧
      ∀ i, ¬state.Granted i (.seeded credential)
  consumed : ∀ row ∈ state.stores.links.rows,
    row.consumedAt.isSome = true ↔ ∃ i, state.Granted i (.link row.id)
  revoked : ∀ row ∈ state.stores.links.rows, row.consumedAt = none →
    (row.revokedAt.isSome = true ↔ row.id ∈ state.stores.revoked)
  known : ∀ id, (id ∈ state.stores.revoked ∨ ∃ i, state.Granted i (.link id)) →
    ∃ row ∈ state.stores.links.rows, row.id = id
  issued : ∀ id expiresAt, (∃ row ∈ state.issued, row.id = id ∧ row.expiresAt = expiresAt) ↔
    ∃ row ∈ state.stores.links.rows, row.id = id ∧ row.expiresAt = expiresAt
  once : ∀ i j source, state.Granted i source → state.Granted j source → i = j
  inTime : ∀ i source, state.Granted i source →
    ¬(state.calls i).start.Spent state.startup source

variable {state next : BootstrapState}

theorem Sound.usedOnce (h : state.Sound) : state.UsedOnce where
  once := h.once
  inTime := h.inTime
  listed now id := by
    constructor
    · rintro ⟨row, hrow, hid⟩
      obtain ⟨hmem, hrevoked, hconsumed, hexpires⟩ := PairingLinks.mem_listActive_iff.mp hrow
      obtain ⟨issued, hissued, hissuedId, hissuedExpires⟩ :=
        (h.issued row.id row.expiresAt).mpr ⟨row, hmem, rfl, rfl⟩
      refine ⟨issued, hissued, hissuedId.trans hid, ?_, ?_, by omega⟩
      · intro hgone
        have hsome := (h.revoked row hmem hconsumed).mpr (hid ▸ hgone)
        rw [hrevoked] at hsome
        cases hsome
      · intro hgranted
        have hsome := (h.consumed row hmem).mpr (hid ▸ hgranted)
        rw [hconsumed] at hsome
        cases hsome
    · rintro ⟨issued, hissued, hid, hnotRevoked, hnotGranted, hexpires⟩
      obtain ⟨row, hmem, hrowId, hrowExpires⟩ :=
        (h.issued issued.id issued.expiresAt).mp ⟨issued, hissued, rfl, rfl⟩
      have hrow : row.id = id := hrowId.trans hid
      have hconsumed : row.consumedAt = none := by
        rw [← Option.not_isSome_iff_eq_none]
        intro hsome
        exact hnotGranted (hrow ▸ (h.consumed row hmem).mp hsome)
      refine ⟨row, PairingLinks.mem_listActive_iff.mpr ⟨hmem, ?_, hconsumed, by omega⟩, hrow⟩
      rw [← Option.not_isSome_iff_eq_none]
      intro hsome
      exact hnotRevoked (hrow ▸ (h.revoked row hmem hconsumed).mp hsome)
  revokes now revokedAt row hrow := by
    obtain ⟨hmem, hrevoked, hconsumed, -⟩ := PairingLinks.mem_listActive_iff.mp hrow
    exact List.any_eq_true.mpr
      ⟨row, hmem, PairingLinks.isRevocable_iff.mpr ⟨rfl, hrevoked, hconsumed⟩⟩

theorem sound_initial (desktopBootstrapToken : Option String) (now : Int) :
    (initial desktopBootstrapToken now).Sound where
  start _ := .refl _
  read _ _ h := by cases h
  seeds credential grant hget := by
    refine ⟨hget, ?_, fun _ h => by cases h⟩
    cases desktopBootstrapToken with
    | none => cases hget
    | some token =>
      simp only [initial, seedGrants] at hget
      split at hget
      · cases hget
      · by_cases htoken : credential = token
        · subst htoken
          rw [KeyedMap.get_set_self] at hget
          cases hget
          rfl
        · rw [KeyedMap.get_set_of_ne htoken] at hget
          cases hget
  consumed _ h := by cases h
  revoked _ h _ := by cases h
  known _ h := by
    rcases h with h | ⟨_, h⟩
    · cases h
    · cases h
  issued _ _ := by
    constructor
    · rintro ⟨_, h, -⟩
      cases h
    · rintro ⟨_, h, -⟩
      cases h
  once _ _ _ h := by cases h
  inTime _ _ h := by cases h

theorem granted_setStage (i j : Nat) (stage : ConsumeStage) (source : GrantSource) :
    (state.setStage i stage).Granted j source ↔
      if j = i then stage.source? = some source else state.Granted j source := by
  by_cases hj : j = i
  · subst hj
    simp [Granted, setStage]
  · simp [Granted, setStage, hj]

theorem start_setStage (i j : Nat) (stage : ConsumeStage) :
    ((state.setStage i stage).calls j).start = (state.calls j).start := by
  by_cases hj : j = i
  · subst hj
    simp [setStage]
  · simp [setStage, hj]

theorem Sound.quiet (h : state.Sound)
    (hrows : next.stores.links.rows = state.stores.links.rows)
    (hclock : state.stores.clock ≤ next.stores.clock)
    (hseeded : ∀ credential grant, next.stores.seeded.get credential = some grant →
      state.stores.seeded.get credential = some grant)
    (hstart : ∀ i, (next.calls i).start = (state.calls i).start ∨
      (next.calls i).start = next.stores)
    (hread : ∀ i now, (next.calls i).stage.now? = some now → (next.calls i).start.clock ≤ now)
    (hgranted : ∀ i source, next.Granted i source ↔
      state.Granted i source ∧ (next.calls i).start = (state.calls i).start)
    (hsame : ∀ i source, state.Granted i source → next.Granted i source)
    (hstartup : next.startup = state.startup) (hissued : next.issued = state.issued)
    (hrevoked : next.stores.revoked = state.stores.revoked) : next.Sound := by
  have hiff : ∀ i source, next.Granted i source ↔ state.Granted i source :=
    fun i source => ⟨fun hnext => ((hgranted i source).mp hnext).1, hsame i source⟩
  have hbefore : state.stores.Before next.stores := by
    refine ⟨hclock, ?_, fun _ hid => hrevoked ▸ hid⟩
    intro row hrow
    exact ⟨row, hrows ▸ hrow, rfl, rfl⟩
  constructor
  · intro i
    rcases hstart i with hold | hnew
    · rw [hold]
      exact (h.start i).trans hbefore
    · rw [hnew]
      exact .refl _
  · exact hread
  · intro credential grant hget
    obtain ⟨hseed, huses, hnot⟩ := h.seeds credential grant (hseeded credential grant hget)
    exact ⟨hstartup ▸ hseed, huses, fun i hi => hnot i ((hiff i _).mp hi)⟩
  · intro row hrow
    rw [hrows] at hrow
    simpa only [hiff] using h.consumed row hrow
  · rw [hrows, hrevoked]
    exact h.revoked
  · rw [hrows, hrevoked]
    simpa only [hiff] using h.known
  · rw [hrows, hissued]
    exact h.issued
  · intro i j source hi hj
    exact h.once i j source ((hiff i source).mp hi) ((hiff j source).mp hj)
  · intro i source hi
    obtain ⟨hbeforeGranted, hsameStart⟩ := (hgranted i source).mp hi
    rw [hsameStart, hstartup]
    exact h.inTime i source hbeforeGranted

theorem granted_grant {i j : Nat} {source other : GrantSource} {grant : BootstrapGrant}
    (hstage : (state.calls i).stage.source? = none) :
    (state.setStage i (.granted source grant)).Granted j other ↔
      (j = i ∧ other = source) ∨ state.Granted j other := by
  rw [granted_setStage]
  by_cases hj : j = i
  · subst hj
    have hnot : ¬state.Granted j other := by
      intro h
      rw [Granted, hstage] at h
      cases h
    rw [if_pos rfl]
    constructor
    · intro h
      cases h
      exact .inl ⟨rfl, rfl⟩
    · intro h
      rcases h with ⟨-, hsource⟩ | hgranted
      · rw [hsource]
        rfl
      · exact absurd hgranted hnot
  · rw [if_neg hj]
    constructor
    · exact .inr
    · intro h
      rcases h with ⟨hsame, -⟩ | hgranted
      · exact absurd hsame hj
      · exact hgranted

variable {i : Nat} {now : Int}

variable {stage : ConsumeStage} {seeded : SeededGrants} {row : AuthPairingLinkRecord}
  {links : PairingLinks}

theorem Sound.read_setStage (h : state.Sound) {j : Nat}
    (hstage : ∀ now, stage.now? = some now → (state.calls i).start.clock ≤ now)
    (hread : ((state.setStage i stage).calls j).stage.now? = some now) :
    ((state.setStage i stage).calls j).start.clock ≤ now := by
  rw [start_setStage]
  by_cases hj : j = i
  · subst hj
    simp only [setStage, Function.update_self] at hread
    exact hstage now hread
  · simp only [setStage, Function.update_of_ne hj] at hread
    exact h.read j now hread

theorem Sound.advanceQuietly (h : state.Sound) (hgranted : (state.calls i).stage.source? = none)
    (hsource : stage.source? = none)
    (hread : ∀ now, stage.now? = some now → (state.calls i).start.clock ≤ now)
    (hseeded : ∀ credential grant, seeded.get credential = some grant →
      state.stores.seeded.get credential = some grant) :
    ({ state with stores := { state.stores with seeded := seeded } }.setStage i stage).Sound := by
  have hsame : ∀ j source,
      ({ state with stores := { state.stores with seeded := seeded } }.setStage i stage).Granted
        j source ↔ state.Granted j source := by
    intro j source
    rw [granted_setStage]
    by_cases hj : j = i
    · subst hj
      rw [if_pos rfl, Granted, hgranted, hsource]
    · rw [if_neg hj]
      rfl
  have hstart : ∀ j, (({ state with stores := { state.stores with seeded := seeded } }.setStage
      i stage).calls j).start = (state.calls j).start := fun j => start_setStage i j stage
  apply h.quiet
  · rfl
  · exact Int.le_refl _
  · exact hseeded
  · exact fun j => .inl (hstart j)
  · intro j now hnow
    rw [hstart]
    have hread := h.read_setStage (j := j) hread hnow
    rwa [start_setStage] at hread
  · intro j source
    rw [hsame]
    simp [hstart]
  · intro j source hj
    exact (hsame j source).mpr hj
  · rfl
  · rfl
  · rfl

theorem Sound.consume (h : state.Sound) (credential : String)
    (hstage : (state.calls i).stage = .idle) :
    ({ state with
        calls := Function.update state.calls i
          ⟨credential, .readClock, state.stores⟩ } : BootstrapState).Sound := by
  have hidle : ∀ source, ¬state.Granted i source := by
    intro source hgranted
    rw [Granted, hstage] at hgranted
    cases hgranted
  have hof : ∀ j, j ≠ i → Function.update state.calls i ⟨credential, .readClock, state.stores⟩ j =
      state.calls j := fun j hj => Function.update_of_ne hj _ _
  apply h.quiet
  · rfl
  · exact Int.le_refl _
  · exact fun _ _ hget => hget
  · intro j
    by_cases hj : j = i
    · subst hj
      exact .inr (by simp)
    · exact .inl (by simp [hj])
  · intro j now hnow
    by_cases hj : j = i
    · subst hj
      simp [ConsumeStage.now?] at hnow
    · simp only [hof j hj] at hnow ⊢
      exact h.read j now hnow
  · intro j source
    by_cases hj : j = i
    · subst hj
      simp [Granted, ConsumeStage.source?, hstage]
    · simp [Granted, hj]
  · intro j source hgranted
    by_cases hj : j = i
    · exact absurd (hj ▸ hgranted) (hidle source)
    · simpa [Granted, hj] using hgranted
  · rfl
  · rfl
  · rfl

theorem Sound.tick (h : state.Sound) (elapsed : Nat) :
    ({ state with
        stores := { state.stores with
          clock := state.stores.clock + elapsed } } : BootstrapState).Sound := by
  apply h.quiet
  · rfl
  · show state.stores.clock ≤ state.stores.clock + elapsed
    omega
  · exact fun _ _ hget => hget
  · exact fun _ => .inl rfl
  · exact h.read
  · intro i source
    exact ⟨fun hgranted => ⟨hgranted, rfl⟩, fun hgranted => hgranted.1⟩
  · exact fun _ _ hgranted => hgranted
  · rfl
  · rfl
  · rfl

theorem Sound.issue (h : state.Sound) (hcreate : state.stores.links.create row = some links)
    (hconsumed : row.consumedAt = none) (hrevoked : row.revokedAt = none) :
    ({ state with
        stores := { state.stores with links := links }
        issued := row :: state.issued } : BootstrapState).Sound := by
  obtain ⟨hrows, hfresh⟩ := PairingLinks.create_eq_some hcreate
  have hnew : ∀ id, id ∈ state.stores.revoked ∨ (∃ i, state.Granted i (.link id)) → id ≠ row.id := by
    intro id hknown hid
    obtain ⟨known, hmem, hknownId⟩ := h.known id hknown
    exact hfresh (List.mem_map.mpr ⟨known, hmem, hknownId.trans hid⟩)
  have hbefore : state.stores.Before { state.stores with links := links } := by
    constructor
    · exact Int.le_refl _
    · intro kept hkept
      exact ⟨kept, hrows ▸ List.mem_cons_of_mem _ hkept, rfl, rfl⟩
    · exact fun _ hid => hid
  constructor
  · exact fun i => (h.start i).trans hbefore
  · exact h.read
  · exact h.seeds
  · intro other hother
    rcases List.mem_cons.mp (hrows ▸ hother) with hsame | hold
    · subst hsame
      simp only [hconsumed, Option.isSome_none, Bool.false_eq_true, false_iff]
      exact fun hgranted => hnew other.id (.inr hgranted) rfl
    · exact h.consumed other hold
  · intro other hother
    rcases List.mem_cons.mp (hrows ▸ hother) with hsame | hold
    · subst hsame
      simp only [hrevoked, Option.isSome_none, Bool.false_eq_true, false_iff]
      exact fun _ hgone => hnew other.id (.inl hgone) rfl
    · exact h.revoked other hold
  · intro id hknown
    obtain ⟨known, hmem, hid⟩ := h.known id hknown
    exact ⟨known, hrows ▸ List.mem_cons_of_mem _ hmem, hid⟩
  · intro id expiresAt
    have hissued := h.issued id expiresAt
    simp only [hrows, List.exists_mem_cons_iff, hissued]
  · exact h.once
  · exact h.inTime

theorem Sound.revoke (h : state.Sound) (id : String) (revokedAt : Int) {revoked : List String}
    (hrevoked : ∀ known, known ∈ revoked ↔ known ∈ state.stores.revoked ∨
      known = id ∧ ∃ row ∈ state.issued, row.id = id) :
    ({ state with
        stores :=
          { state.stores with
            links := (state.stores.links.revoke id revokedAt).2
            revoked := revoked } } : BootstrapState).Sound := by
  have hpairs : ∀ known expiresAt,
      (∃ row ∈ (state.stores.links.revoke id revokedAt).2.rows,
        row.id = known ∧ row.expiresAt = expiresAt) ↔
      ∃ row ∈ state.stores.links.rows, row.id = known ∧ row.expiresAt = expiresAt := by
    apply PairingLinks.exists_amend_iff
    · exact fun _ => rfl
    · exact fun _ => rfl
    · exact fun _ => rfl
  constructor
  · intro i
    apply (h.start i).trans
    apply BootstrapStores.Before.amend
    · exact fun _ => rfl
    · exact fun _ => rfl
    · exact fun _ => rfl
    · exact fun known hknown => (hrevoked known).mpr (.inl hknown)
  · exact h.read
  · exact h.seeds
  · intro row hrow
    obtain ⟨before, hold, rfl⟩ := PairingLinks.mem_revoke_iff.mp hrow
    have hconsumed := h.consumed before hold
    split
    · exact hconsumed
    · exact hconsumed
  · intro row hrow hunconsumed
    obtain ⟨before, hold, rfl⟩ := PairingLinks.mem_revoke_iff.mp hrow
    rw [hrevoked]
    by_cases hselected : PairingLinks.isRevocable id before = true
    · obtain ⟨hid, -, -⟩ := PairingLinks.isRevocable_iff.mp hselected
      obtain ⟨issued, hissued, hissuedId, -⟩ :=
        (h.issued before.id before.expiresAt).mpr ⟨before, hold, rfl, rfl⟩
      have hknown : ∃ row ∈ state.issued, row.id = id := ⟨issued, hissued, hissuedId.trans hid⟩
      simp [hselected, hid, hknown]
    · rw [if_neg hselected] at hunconsumed ⊢
      have hsound := h.revoked before hold hunconsumed
      rw [hsound]
      constructor
      · exact .inl
      · rintro (hgone | ⟨hid, -⟩)
        · exact hgone
        · -- an unconsumed link of the id that is not revocable was revoked before
          rw [← hsound, ← Option.ne_none_iff_isSome]
          exact fun hnone => hselected
            (PairingLinks.isRevocable_iff.mpr ⟨hid, hnone, hunconsumed⟩)
  · intro known hknown
    have hrow : ∃ row ∈ state.stores.links.rows, row.id = known := by
      rcases hknown with hgone | hgranted
      · rcases (hrevoked known).mp hgone with hold | ⟨rfl, row, hissued, hid⟩
        · exact h.known known (.inl hold)
        · obtain ⟨row, hmem, hrow, -⟩ :=
            (h.issued known row.expiresAt).mp ⟨row, hissued, hid, rfl⟩
          exact ⟨row, hmem, hrow⟩
      · exact h.known known (.inr hgranted)
    obtain ⟨row, hold, hid⟩ := hrow
    obtain ⟨kept, hkept, hkeptId, -⟩ := (hpairs known row.expiresAt).mpr ⟨row, hold, hid, rfl⟩
    exact ⟨kept, hkept, hkeptId⟩
  · intro known expiresAt
    exact (h.issued known expiresAt).trans (hpairs known expiresAt).symm
  · exact h.once
  · exact h.inTime

theorem Sound.grant (h : state.Sound) {source : GrantSource} {grant : BootstrapGrant}
    {stores : BootstrapStores} (hsource : (state.calls i).stage.source? = none)
    (hnew : ∀ j, ¬state.Granted j source)
    (hspent : ¬(state.calls i).start.Spent state.startup source)
    (hbefore : state.stores.Before stores)
    (hseeded : ∀ credential grant, stores.seeded.get credential = some grant →
      state.stores.seeded.get credential = some grant ∧ source ≠ .seeded credential)
    (hrevoked : stores.revoked = state.stores.revoked)
    (hrows : ∀ row ∈ stores.links.rows, ∃ before ∈ state.stores.links.rows,
      before.id = row.id ∧ before.revokedAt = row.revokedAt ∧
        (row.consumedAt.isSome = true ↔
          before.consumedAt.isSome = true ∨ source = .link row.id))
    (hpairs : ∀ id expiresAt,
      (∃ row ∈ stores.links.rows, row.id = id ∧ row.expiresAt = expiresAt) ↔
        ∃ row ∈ state.stores.links.rows, row.id = id ∧ row.expiresAt = expiresAt)
    (hlink : ∀ id, source = .link id → ∃ row ∈ state.stores.links.rows, row.id = id) :
    ({ state with stores := stores }.setStage i (.granted source grant)).Sound := by
  have hgranted : ∀ j other,
      ({ state with stores := stores }.setStage i (.granted source grant)).Granted j other ↔
        (j = i ∧ other = source) ∨ state.Granted j other := by
    intro j other
    exact @granted_grant { state with stores := stores } i j source other grant hsource
  have hstart : ∀ j, (({ state with stores := stores }.setStage i
      (.granted source grant)).calls j).start = (state.calls j).start :=
    fun j => start_setStage i j _
  have hkept : ∀ id, (∃ row ∈ state.stores.links.rows, row.id = id) →
      ∃ row ∈ stores.links.rows, row.id = id := by
    intro id hrow
    obtain ⟨row, hmem, hid⟩ := hrow
    obtain ⟨kept, hkept, hkeptId, -⟩ := (hpairs id row.expiresAt).mpr ⟨row, hmem, hid, rfl⟩
    exact ⟨kept, hkept, hkeptId⟩
  constructor
  · intro j
    rw [hstart]
    exact (h.start j).trans hbefore
  · intro j now hread
    rw [hstart]
    by_cases hj : j = i
    · subst hj
      simp [setStage, ConsumeStage.now?] at hread
    · simp only [setStage, Function.update_of_ne hj] at hread
      exact h.read j now hread
  · intro credential seed hget
    obtain ⟨hold, hother⟩ := hseeded credential seed hget
    obtain ⟨hseed, huses, hnot⟩ := h.seeds credential seed hold
    refine ⟨hseed, huses, ?_⟩
    intro j hj
    rcases (hgranted j _).mp hj with ⟨-, hsame⟩ | hbefore
    · exact hother hsame.symm
    · exact hnot j hbefore
  · intro row hrow
    obtain ⟨before, hmem, hid, -, hconsumed⟩ := hrows row hrow
    rw [hconsumed, h.consumed before hmem, hid]
    simp only [hgranted]
    constructor
    · intro hone
      rcases hone with ⟨j, hj⟩ | hsame
      · exact ⟨j, .inr hj⟩
      · exact ⟨i, .inl ⟨rfl, hsame.symm⟩⟩
    · intro hone
      obtain ⟨j, ⟨-, hsame⟩ | hj⟩ := hone
      · exact .inr hsame.symm
      · exact .inl ⟨j, hj⟩
  · intro row hrow hunconsumed
    obtain ⟨before, hmem, hid, hsame, hconsumed⟩ := hrows row hrow
    have hbefore : before.consumedAt = none := by
      rw [← Option.not_isSome_iff_eq_none]
      intro hsome
      have hnow := hconsumed.mpr (.inl hsome)
      rw [hunconsumed] at hnow
      cases hnow
    have hiff := h.revoked before hmem hbefore
    rwa [hid, hsame, ← hrevoked] at hiff
  · intro id hknown
    apply hkept
    rcases hknown with hgone | ⟨j, hj⟩
    · exact h.known id (.inl (hrevoked ▸ hgone))
    · rcases (hgranted j _).mp hj with ⟨-, hsame⟩ | hbefore
      · exact hlink id hsame.symm
      · exact h.known id (.inr ⟨j, hbefore⟩)
  · intro id expiresAt
    exact (h.issued id expiresAt).trans (hpairs id expiresAt).symm
  · intro j k other hj hk
    rcases (hgranted j other).mp hj with ⟨hji, hsame⟩ | hjBefore
    · rcases (hgranted k other).mp hk with ⟨hki, -⟩ | hkBefore
      · rw [hji, hki]
      · exact absurd (hsame ▸ hkBefore) (hnew k)
    · rcases (hgranted k other).mp hk with ⟨-, hsame⟩ | hkBefore
      · exact absurd (hsame ▸ hjBefore) (hnew j)
      · exact h.once j k other hjBefore hkBefore
  · intro j other hj
    rw [hstart]
    rcases (hgranted j other).mp hj with ⟨hji, hsame⟩ | hjBefore
    · rw [hji, hsame]
      exact hspent
    · exact h.inTime j other hjBefore

theorem Sound.grantSeeded (h : state.Sound) {grant : BootstrapGrant}
    (hstage : (state.calls i).stage = .trySeeded now)
    (hconsume : consumeSeeded (state.calls i).credential now state.stores.seeded =
      (.success grant, seeded)) :
    ({ state with stores := { state.stores with seeded := seeded } }.setStage i
      (.granted (.seeded (state.calls i).credential) grant)).Sound := by
  obtain ⟨stored, hstored, hvalid, hdelete⟩ := consumeSeeded_success hconsume
  obtain ⟨hseed, huses, hnot⟩ := h.seeds _ stored hstored
  have hread : (state.calls i).start.clock ≤ now := h.read i now (by rw [hstage]; rfl)
  apply h.grant
  · rw [hstage]
    rfl
  · exact hnot
  · rintro ⟨spent, hspent, hexpired⟩
    rw [hseed] at hspent
    cases hspent
    omega
  · exact ⟨Int.le_refl _, fun row hrow => ⟨row, hrow, rfl, rfl⟩, fun _ hid => hid⟩
  · intro credential seed hget
    rw [hdelete huses] at hget
    by_cases hcredential : credential = (state.calls i).credential
    · rw [hcredential, KeyedMap.get_delete_self] at hget
      cases hget
    · rw [KeyedMap.get_delete_of_ne hcredential] at hget
      refine ⟨hget, ?_⟩
      intro hsame
      cases hsame
      exact hcredential rfl
  · rfl
  · intro row hrow
    exact ⟨row, hrow, rfl, rfl, by simp⟩
  · exact fun _ _ => .rfl
  · exact fun _ h => by cases h

theorem Sound.grantLink (h : state.Sound) (hstage : (state.calls i).stage = .update now)
    (hconsume : state.stores.links.consumeAvailable (state.calls i).credential now now =
      (some row, links)) :
    ({ state with stores := { state.stores with links := links } }.setStage i
      (.granted (.link row.id) row.grant)).Sound := by
  simp only [PairingLinks.consumeAvailable, Prod.mk.injEq, Option.map_eq_some_iff] at hconsume
  obtain ⟨⟨found, hfind, rfl⟩, rfl⟩ := hconsume
  have hmem : found ∈ state.stores.links.rows := List.mem_of_find?_eq_some hfind
  have hselected := List.find?_some hfind
  obtain ⟨hcredential, hrevoked, hconsumed, hexpires⟩ :=
    PairingLinks.isAvailable_iff.mp hselected
  have hread : (state.calls i).start.clock ≤ now := h.read i now (by rw [hstage]; rfl)
  apply h.grant
  · rw [hstage]
    rfl
  · intro j hj
    have hsome := (h.consumed found hmem).mpr ⟨j, hj⟩
    rw [hconsumed] at hsome
    cases hsome
  · have hclock : (state.calls i).start.clock < found.expiresAt := by omega
    have hkept : found.id ∉ state.stores.revoked := by
      intro hgone
      have hsome := (h.revoked found hmem hconsumed).mpr hgone
      rw [hrevoked] at hsome
      cases hsome
    have hnot := (h.start i).not_spent state.startup hmem hkept hclock
    exact hnot
  · apply BootstrapStores.Before.amend
    · exact fun _ => rfl
    · exact fun _ hid => hid
  · intro credential seed hget
    exact ⟨hget, fun h => by cases h⟩
  · rfl
  · intro kept hkept
    obtain ⟨before, hold, rfl⟩ := PairingLinks.mem_consumeAvailable_iff.mp hkept
    refine ⟨before, hold, ?_⟩
    by_cases hbefore : PairingLinks.isAvailable (state.calls i).credential now before = true
    · obtain ⟨hsame, -⟩ := PairingLinks.isAvailable_iff.mp hbefore
      have heq := PairingLinks.eq_of_credential hold hmem (hsame.trans hcredential.symm)
      subst heq
      simp [hbefore]
    · have hother : found.id ≠ before.id := by
        intro hid
        exact hbefore (PairingLinks.eq_of_id hmem hold hid ▸ hselected)
      simp [hbefore, hother]
  · apply PairingLinks.exists_amend_iff
    · exact fun _ => rfl
    · exact fun _ => rfl
    · exact fun _ => rfl
  · intro id hlink
    cases hlink
    exact ⟨found, hmem, rfl⟩

theorem Sound.advance (h : state.Sound) (hstep : state.advance i = some next) : next.Sound := by
  simp only [BootstrapState.advance] at hstep
  have hkeep : ∀ credential grant, state.stores.seeded.get credential = some grant →
      state.stores.seeded.get credential = some grant := fun _ _ hget => hget
  split at hstep
  case h_1 hstage =>
    cases hstep
    have hsource : (state.calls i).stage.source? = none := by rw [hstage]; rfl
    apply h.advanceQuietly hsource rfl _ hkeep
    intro now hnow
    cases hnow
    exact (h.start i).clock
  case h_2 now hstage =>
    have hsource : (state.calls i).stage.source? = none := by rw [hstage]; rfl
    have hread : (state.calls i).start.clock ≤ now := h.read i now (by rw [hstage]; rfl)
    have hfewer : ∀ credential grant,
        (consumeSeeded (state.calls i).credential now state.stores.seeded).2.get credential =
          some grant → state.stores.seeded.get credential = some grant := by
      intro credential grant hget
      exact get_consumeSeeded (fun stored hstored => (h.seeds _ stored hstored).2.1) hget
    rcases hconsume : consumeSeeded (state.calls i).credential now state.stores.seeded with
      ⟨result, seeded⟩
    rw [hconsume] at hfewer
    simp only [hconsume] at hstep
    cases result with
    | notFound =>
      cases hstep
      apply h.advanceQuietly hsource rfl _ hfewer
      intro later hlater
      cases hlater
      exact hread
    | expired error =>
      cases hstep
      apply h.advanceQuietly hsource rfl _ hfewer
      intro later hlater
      cases hlater
    | success grant =>
      cases hstep
      exact h.grantSeeded hstage hconsume
  case h_3 now hstage =>
    have hsource : (state.calls i).stage.source? = none := by rw [hstage]; rfl
    rcases hconsume : state.stores.links.consumeAvailable (state.calls i).credential now now with
      ⟨consumed, links⟩
    simp only [hconsume] at hstep
    cases consumed with
    | none =>
      cases hstep
      rw [PairingLinks.consumeAvailable_none hconsume]
      apply h.advanceQuietly hsource rfl _ hkeep
      intro later hlater
      cases hlater
      exact h.read i now (by rw [hstage]; rfl)
    | some row =>
      cases hstep
      exact h.grantLink hstage hconsume
  case h_4 now hstage =>
    cases hstep
    have hsource : (state.calls i).stage.source? = none := by rw [hstage]; rfl
    apply h.advanceQuietly hsource rfl _ hkeep
    intro later hlater
    cases hlater
  all_goals cases hstep

theorem Sound.step (h : state.Sound) {action : BootstrapAction}
    (hstep : state.step action = some next) : next.Sound := by
  cases action with
  | issueOneTimeToken id credential input now =>
    simp only [BootstrapState.step] at hstep
    split at hstep
    · cases hstep
      exact h
    · rename_i links hcreate
      cases hstep
      exact h.issue hcreate rfl rfl
  | revoke id revokedAt =>
    cases hstep
    apply h.revoke
    intro known
    by_cases hissued : ∃ row ∈ state.issued, row.id = id
    · simp [hissued, or_comm]
    · simp [hissued]
  | consume i credential =>
    simp only [BootstrapState.step] at hstep
    split at hstep
    · rename_i hstage
      cases hstep
      exact h.consume credential hstage
    · cases hstep
  | advance i => exact h.advance hstep
  | tick elapsed =>
    cases hstep
    exact h.tick elapsed

/-- A credential is used once in every run of a server. -/
theorem usedOnce_throughout (desktopBootstrapToken : Option String) (now : Int)
    (actions : List BootstrapAction) :
    Throughout step UsedOnce (initial desktopBootstrapToken now) actions := by
  have hsound : Throughout step Sound (initial desktopBootstrapToken now) actions :=
    throughout_of_invariant (fun _ _ _ hstate hstep => hstate.step hstep)
      (sound_initial desktopBootstrapToken now) actions
  exact hsound.imp fun _ hstate => hstate.usedOnce

/-- Two calls compete for the link `p1`, two for the desktop credential, and `p2` is revoked
while a call for it runs. -/
def competingCalls : List BootstrapAction :=
  [.issueOneTimeToken "p1" "A1" ⟨none, none, none, none⟩ 0,
    .issueOneTimeToken "p2" "A2" ⟨none, none, none, none⟩ 0,
    .consume 0 "A1", .consume 1 "A1", .consume 2 "A2", .consume 3 "D", .consume 4 "D",
    .advance 0, .advance 1, .advance 2, .advance 3, .tick 5, .advance 4,
    .advance 0, .advance 1, .advance 2, .advance 3, .advance 4,
    .advance 1, .advance 0, .revoke "p2" 5, .advance 2, .advance 0, .advance 2]

theorem usedOnce_throughout_competingCalls :
    Throughout step UsedOnce (initial (some "D") 0) competingCalls ∧
      (exec step (initial (some "D") 0) competingCalls).map (fun last =>
        ((List.range 5).map (fun i => (last.calls i).stage.source?), last.stores.revoked,
          last.stores.links.rows.map (fun row => (row.id, PairingLinks.isActive 5 row)))) =
        some ([none, some (.link "p1"), none, some (.seeded "D"), none], ["p2"],
          [("p2", false), ("p1", false)]) :=
  ⟨usedOnce_throughout _ _ _, rfl⟩

end BootstrapState

end GT3Code.Auth
