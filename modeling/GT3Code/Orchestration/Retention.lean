import GT3Code.Base.Ordering
import GT3Code.Contracts.ReadModel

/-! # Retention after a revert

The in-memory projector, the projection pipeline and the web store each keep a
copy of the same retention rule over their own message type. The rule reads four
fields, so it is stated once over an accessor record.
-/

namespace GT3Code.Orchestration

open GT3Code.Base GT3Code.Contracts

universe u

variable {ρ : Type u}

structure MessageFields (ρ : Type u) where
  id : ρ → MessageId
  role : ρ → OrchestrationMessageRole
  turnId : ρ → Option TurnId
  createdAt : ρ → IsoDateTime

/-- `turnId !== null && retainedTurnIds.has(turnId)`. -/
def inTurns (retainedTurnIds : List TurnId) : Option TurnId → Bool
  | none => false
  | some turnId => decide (turnId ∈ retainedTurnIds)

/-- `turnId === null || retainedTurnIds.has(turnId)`. -/
def inTurnsOrNone (retainedTurnIds : List TurnId) : Option TurnId → Bool
  | none => true
  | some turnId => decide (turnId ∈ retainedTurnIds)

section Messages

variable [Collation] (fields : MessageFields ρ)

/-- `left.createdAt.localeCompare(right.createdAt) || left.id.localeCompare(right.id)`. -/
def compareCreated (left right : ρ) : Int :=
  orElse (Collation.localeCompare (fields.createdAt left) (fields.createdAt right))
    (Collation.localeCompare (fields.id left) (fields.id right))

def retainedByTurn (messages : List ρ) (retainedTurnIds : List TurnId) : List MessageId :=
  (messages.filter (fun message =>
    decide (fields.role message = .system) ||
      inTurns retainedTurnIds (fields.turnId message))).map fields.id

/-- Oldest messages of one role that fill the count up to `turnCount`. -/
def fallbackMessages (role : OrchestrationMessageRole) (messages : List ρ)
    (retainedMessageIds : List MessageId) (retainedTurnIds : List TurnId) (turnCount : Nat) :
    List MessageId :=
  let retainedCount := (messages.filter (fun message =>
    decide (fields.role message = role) &&
      decide (fields.id message ∈ retainedMessageIds))).length
  let missingCount := turnCount - retainedCount
  let candidates := messages.filter (fun message =>
    decide (fields.role message = role) &&
      !decide (fields.id message ∈ retainedMessageIds) &&
      inTurnsOrNone retainedTurnIds (fields.turnId message))
  ((toSorted (compareCreated fields) candidates).take missingCount).map fields.id

/-- Every id retained, starting from the ids `seed` that are retained anyway. -/
def retainedMessageIds (seed : List MessageId) (messages : List ρ) (retainedTurnIds : List TurnId)
    (turnCount : Nat) : List MessageId :=
  let byTurn := seed ++ retainedByTurn fields messages retainedTurnIds
  let withUser :=
    byTurn ++ fallbackMessages fields .user messages byTurn retainedTurnIds turnCount
  withUser ++ fallbackMessages fields .assistant messages withUser retainedTurnIds turnCount

def retainMessagesAfterRevert (seed : List MessageId) (messages : List ρ)
    (retainedTurnIds : List TurnId) (turnCount : Nat) : List ρ :=
  messages.filter (fun message =>
    decide (fields.id message ∈ retainedMessageIds fields seed messages retainedTurnIds turnCount))

end Messages

structure MessageKey where
  id : MessageId
  role : OrchestrationMessageRole
  turnId : Option TurnId
  createdAt : IsoDateTime
  deriving DecidableEq

def MessageFields.key (fields : MessageFields ρ) (message : ρ) : MessageKey where
  id := fields.id message
  role := fields.role message
  turnId := fields.turnId message
  createdAt := fields.createdAt message

def keyFields : MessageFields MessageKey where
  id := MessageKey.id
  role := MessageKey.role
  turnId := MessageKey.turnId
  createdAt := MessageKey.createdAt

section Keys

variable [Collation] {ρ : Type} (fields : MessageFields ρ)

theorem fallbackMessages_map_key (role : OrchestrationMessageRole) (messages : List ρ)
    (ids : List MessageId) (retainedTurnIds : List TurnId) (turnCount : Nat) :
    fallbackMessages keyFields role (messages.map fields.key) ids retainedTurnIds turnCount =
      fallbackMessages fields role messages ids retainedTurnIds turnCount := by
  have hsorted : ∀ candidates : List ρ, (toSorted (compareCreated fields) candidates).map
      fields.key = toSorted (compareCreated keyFields) (candidates.map fields.key) :=
    map_toSorted (fun _ _ => rfl)
  unfold fallbackMessages
  simp only [List.filter_map, List.length_map, ← hsorted, ← List.map_take, List.map_map]
  rfl

theorem retainedMessageIds_map_key (seed : List MessageId) (messages : List ρ)
    (retainedTurnIds : List TurnId) (turnCount : Nat) :
    retainedMessageIds keyFields seed (messages.map fields.key) retainedTurnIds turnCount =
      retainedMessageIds fields seed messages retainedTurnIds turnCount := by
  have hbyTurn : retainedByTurn keyFields (messages.map fields.key) retainedTurnIds =
      retainedByTurn fields messages retainedTurnIds := by
    unfold retainedByTurn
    rw [List.filter_map, List.map_map]
    rfl
  unfold retainedMessageIds
  simp only [hbyTurn, fallbackMessages_map_key]

theorem mem_ids_retainMessages_iff {seed : List MessageId} {messages : List ρ}
    {retainedTurnIds : List TurnId} {turnCount : Nat} {id : MessageId} :
    id ∈ (retainMessagesAfterRevert fields seed messages retainedTurnIds turnCount).map
        fields.id ↔
      ∃ key ∈ messages.map fields.key, key.id = id ∧ key.id ∈ retainedMessageIds keyFields seed
        (messages.map fields.key) retainedTurnIds turnCount := by
  rw [retainedMessageIds_map_key]
  constructor
  · intro h
    obtain ⟨message, hmessage, hid⟩ := List.mem_map.mp h
    obtain ⟨hmem, hkept⟩ := List.mem_filter.mp hmessage
    exact ⟨fields.key message, List.mem_map_of_mem hmem, hid, of_decide_eq_true hkept⟩
  · rintro ⟨key, hkey, hid, hkept⟩
    obtain ⟨message, hmem, hmessage⟩ := List.mem_map.mp hkey
    subst hmessage
    exact List.mem_map.mpr ⟨message, List.mem_filter.mpr ⟨hmem, decide_eq_true hkept⟩, hid⟩

end Keys

def keptByTurn (retainedTurnIds : List TurnId) (key : MessageKey) : Bool :=
  decide (key.role = .system) || inTurns retainedTurnIds key.turnId

/-- Retained before any fallback, with the ids `seed` retained anyway. -/
def keptFirst (seed : List MessageId) (retainedTurnIds : List TurnId) (key : MessageKey) : Bool :=
  decide (key.id ∈ seed) || keptByTurn retainedTurnIds key

section Retained

variable [Collation]

def fallbackKeys (role : OrchestrationMessageRole) (seed : List MessageId) (keys : List MessageKey)
    (retainedTurnIds : List TurnId) (turnCount : Nat) : List MessageKey :=
  (toSorted (compareCreated keyFields) (keys.filter (fun key =>
    decide (key.role = role) && !keptFirst seed retainedTurnIds key &&
      inTurnsOrNone retainedTurnIds key.turnId))).take
    (turnCount - (keys.filter (fun key =>
      decide (key.role = role) && keptFirst seed retainedTurnIds key)).length)

variable {seed : List MessageId} {keys : List MessageKey} {retainedTurnIds : List TurnId}
  {turnCount : Nat}

variable {role : OrchestrationMessageRole}

theorem mem_fallbackKeys {key : MessageKey}
    (h : key ∈ fallbackKeys role seed keys retainedTurnIds turnCount) :
    key ∈ keys ∧ key.role = role ∧ keptFirst seed retainedTurnIds key = false ∧
      inTurnsOrNone retainedTurnIds key.turnId = true := by
  have hcandidate := mem_toSorted.mp (List.mem_of_mem_take h)
  simp only [List.mem_filter, Bool.and_eq_true, decide_eq_true_eq, Bool.not_eq_true'] at hcandidate
  exact ⟨hcandidate.1, hcandidate.2.1.1, hcandidate.2.1.2, hcandidate.2.2⟩

theorem fallbackMessages_eq {ids : List MessageId}
    (hids : ∀ key ∈ keys, key.role = role →
      (key.id ∈ ids ↔ keptFirst seed retainedTurnIds key = true)) :
    fallbackMessages keyFields role keys ids retainedTurnIds turnCount =
      (fallbackKeys role seed keys retainedTurnIds turnCount).map MessageKey.id := by
  have hdecide : ∀ key ∈ keys, key.role = role →
      decide (key.id ∈ ids) = keptFirst seed retainedTurnIds key := by
    intro key hkey hrole
    rw [Bool.eq_iff_iff, decide_eq_true_eq]
    exact hids key hkey hrole
  have hcount : keys.filter (fun key =>
        decide (key.role = role) && decide (key.id ∈ ids)) =
      keys.filter (fun key => decide (key.role = role) && keptFirst seed retainedTurnIds key) := by
    refine List.filter_congr (fun key hkey => ?_)
    by_cases hrole : key.role = role
    · rw [hdecide key hkey hrole]
    · simp [hrole]
  have hcandidates : keys.filter (fun key =>
        decide (key.role = role) && !decide (key.id ∈ ids) &&
          inTurnsOrNone retainedTurnIds key.turnId) =
      keys.filter (fun key => decide (key.role = role) &&
        !keptFirst seed retainedTurnIds key && inTurnsOrNone retainedTurnIds key.turnId) := by
    refine List.filter_congr (fun key hkey => ?_)
    by_cases hrole : key.role = role
    · rw [hdecide key hkey hrole]
    · simp [hrole]
  show ((toSorted (compareCreated keyFields) (keys.filter (fun key =>
      decide (key.role = role) && !decide (key.id ∈ ids) &&
        inTurnsOrNone retainedTurnIds key.turnId))).take
      (turnCount - (keys.filter (fun key =>
        decide (key.role = role) && decide (key.id ∈ ids))).length)).map MessageKey.id = _
  rw [hcount, hcandidates]
  rfl

omit [Collation] in
theorem mem_map_id_iff (hdistinct : (keys.map MessageKey.id).Nodup) {chosen : List MessageKey}
    (hchosen : ∀ key ∈ chosen, key ∈ keys) {key : MessageKey} (hkey : key ∈ keys) :
    key.id ∈ chosen.map MessageKey.id ↔ key ∈ chosen := by
  constructor
  · intro h
    obtain ⟨other, hother, hid⟩ := List.mem_map.mp h
    have hsame : other = key :=
      List.inj_on_of_nodup_map hdistinct (hchosen other hother) hkey hid
    exact hsame ▸ hother
  · exact List.mem_map_of_mem

omit [Collation] in
theorem mem_seed_retainedByTurn_iff (hdistinct : (keys.map MessageKey.id).Nodup)
    {key : MessageKey} (hkey : key ∈ keys) :
    key.id ∈ seed ++ retainedByTurn keyFields keys retainedTurnIds ↔
      keptFirst seed retainedTurnIds key = true := by
  have hbyTurn : key.id ∈ retainedByTurn keyFields keys retainedTurnIds ↔
      key ∈ keys.filter (keptByTurn retainedTurnIds) :=
    mem_map_id_iff hdistinct (fun _ h => List.mem_of_mem_filter h) hkey
  rw [List.mem_append, hbyTurn, List.mem_filter]
  simp [keptFirst, hkey]

theorem mem_retainedMessageIds_iff (hdistinct : (keys.map MessageKey.id).Nodup)
    {key : MessageKey} (hkey : key ∈ keys) :
    key.id ∈ retainedMessageIds keyFields seed keys retainedTurnIds turnCount ↔
      keptFirst seed retainedTurnIds key = true ∨
        key ∈ fallbackKeys key.role seed keys retainedTurnIds turnCount := by
  have hfirst : ∀ key ∈ keys, (key.id ∈ seed ++ retainedByTurn keyFields keys retainedTurnIds ↔
      keptFirst seed retainedTurnIds key = true) :=
    fun _ hkey => mem_seed_retainedByTurn_iff hdistinct hkey
  have huser : fallbackMessages keyFields .user keys
        (seed ++ retainedByTurn keyFields keys retainedTurnIds) retainedTurnIds turnCount =
      (fallbackKeys .user seed keys retainedTurnIds turnCount).map MessageKey.id :=
    fallbackMessages_eq (fun key hkey _ => hfirst key hkey)
  have hfallback : ∀ role,
      (key.id ∈ (fallbackKeys role seed keys retainedTurnIds turnCount).map MessageKey.id ↔
        key ∈ fallbackKeys role seed keys retainedTurnIds turnCount) :=
    fun _ => mem_map_id_iff hdistinct (fun _ h => (mem_fallbackKeys h).1) hkey
  -- The ids the user fallback adds are no assistant's.
  have hassistant : fallbackMessages keyFields .assistant keys
        ((seed ++ retainedByTurn keyFields keys retainedTurnIds) ++
          (fallbackKeys .user seed keys retainedTurnIds turnCount).map MessageKey.id)
        retainedTurnIds turnCount =
      (fallbackKeys .assistant seed keys retainedTurnIds turnCount).map MessageKey.id := by
    refine fallbackMessages_eq (fun key hkey hrole => ?_)
    rw [List.mem_append, hfirst key hkey, mem_map_id_iff hdistinct
      (fun _ h => (mem_fallbackKeys h).1) hkey]
    refine ⟨fun h => h.resolve_right (fun hmem => ?_), Or.inl⟩
    exact absurd (hrole.symm.trans (mem_fallbackKeys hmem).2.1) (by decide)
  simp only [retainedMessageIds]
  rw [huser, hassistant, List.mem_append, List.mem_append, hfirst key hkey, hfallback,
    hfallback, or_assoc]
  refine or_congr_right ?_
  cases hrole : key.role with
  | user =>
    refine ⟨fun h => h.resolve_right (fun hmem => ?_), Or.inl⟩
    exact absurd (hrole.symm.trans (mem_fallbackKeys hmem).2.1) (by decide)
  | assistant =>
    refine ⟨fun h => h.resolve_left (fun hmem => ?_), Or.inr⟩
    exact absurd (hrole.symm.trans (mem_fallbackKeys hmem).2.1) (by decide)
  | system =>
    constructor
    · rintro (hmem | hmem) <;>
        exact absurd (hrole.symm.trans (mem_fallbackKeys hmem).2.1) (by decide)
    · intro hmem
      have hkept := (mem_fallbackKeys hmem).2.2.1
      simp [keptFirst, keptByTurn, hrole] at hkept

end Retained

section Seeds

variable [Collation]

def taggedCount (role : OrchestrationMessageRole) (keys : List MessageKey)
    (retainedTurnIds : List TurnId) : Nat :=
  (keys.filter (fun key =>
    decide (key.role = role) && inTurns retainedTurnIds key.turnId)).length

def untaggedByAge (role : OrchestrationMessageRole) (keys : List MessageKey) : List MessageKey :=
  toSorted (compareCreated keyFields)
    (keys.filter (fun key => decide (key.role = role) && decide (key.turnId = none)))

/-- The untagged messages of one role that the tagged ones leave room for. -/
def oldestUntagged (role : OrchestrationMessageRole) (keys : List MessageKey)
    (retainedTurnIds : List TurnId) (turnCount : Nat) : List MessageKey :=
  (untaggedByAge role keys).take (turnCount - taggedCount role keys retainedTurnIds)

/-- Every id retained anyway is of a message retained by its turn or by its age. -/
def SeedRetained (seed : List MessageId) (keys : List MessageKey) (retainedTurnIds : List TurnId)
    (turnCount : Nat) : Prop :=
  ∀ key ∈ keys, key.id ∈ seed → keptByTurn retainedTurnIds key = true ∨
    key ∈ oldestUntagged key.role keys retainedTurnIds turnCount

variable {seed : List MessageId} {keys : List MessageKey} {retainedTurnIds : List TurnId}
  {turnCount : Nat}

variable {role : OrchestrationMessageRole}

theorem mem_oldestUntagged {key : MessageKey}
    (h : key ∈ oldestUntagged role keys retainedTurnIds turnCount) :
    key ∈ keys ∧ key.role = role ∧ key.turnId = none := by
  have hcandidate := mem_toSorted.mp (List.mem_of_mem_take h)
  simpa only [List.mem_filter, Bool.and_eq_true, decide_eq_true_eq] using hcandidate

theorem fallbackKeys_nil (hrole : role ≠ .system) :
    fallbackKeys role [] keys retainedTurnIds turnCount =
      oldestUntagged role keys retainedTurnIds turnCount := by
  have hcandidates : ∀ key : MessageKey, (decide (key.role = role) &&
        !keptFirst [] retainedTurnIds key && inTurnsOrNone retainedTurnIds key.turnId) =
      (decide (key.role = role) && decide (key.turnId = none)) := by
    intro key
    by_cases hkey : key.role = role
    · cases hturn : key.turnId with
      | none => simp [keptFirst, keptByTurn, inTurns, inTurnsOrNone, hkey, hrole, hturn]
      | some turnId =>
        by_cases hmem : turnId ∈ retainedTurnIds <;>
          simp [keptFirst, keptByTurn, inTurns, inTurnsOrNone, hturn, hmem]
    · simp [hkey]
  have hcount : ∀ key : MessageKey,
      (decide (key.role = role) && keptFirst [] retainedTurnIds key) =
        (decide (key.role = role) && inTurns retainedTurnIds key.turnId) := by
    intro key
    by_cases hkey : key.role = role
    · simp [keptFirst, keptByTurn, hkey, hrole]
    · simp [hkey]
  unfold fallbackKeys oldestUntagged untaggedByAge taggedCount
  simp only [hcandidates, hcount]

theorem mem_retainedMessageIds_nil_iff (hdistinct : (keys.map MessageKey.id).Nodup)
    {key : MessageKey} (hkey : key ∈ keys) :
    key.id ∈ retainedMessageIds keyFields [] keys retainedTurnIds turnCount ↔
      keptByTurn retainedTurnIds key = true ∨
        key ∈ oldestUntagged key.role keys retainedTurnIds turnCount := by
  rw [mem_retainedMessageIds_iff hdistinct hkey]
  have hfirst : keptFirst [] retainedTurnIds key = keptByTurn retainedTurnIds key := by
    simp [keptFirst]
  rw [hfirst]
  by_cases hrole : key.role = .system
  · simp [keptByTurn, hrole]
  · rw [fallbackKeys_nil hrole]

omit [Collation] in
theorem fallbackCandidates_eq {role : OrchestrationMessageRole} (hrole : role ≠ .system) :
    keys.filter (fun key => decide (key.role = role) &&
        !keptFirst seed retainedTurnIds key && inTurnsOrNone retainedTurnIds key.turnId) =
      (keys.filter (fun key => decide (key.role = role) && decide (key.turnId = none))).filter
        (fun key => !decide (key.id ∈ seed)) := by
  rw [List.filter_filter]
  refine List.filter_congr (fun key _ => ?_)
  by_cases hkey : key.role = role
  · by_cases hid : key.id ∈ seed
    · simp [keptFirst, hid]
    · cases hturn : key.turnId with
      | none => simp [keptFirst, keptByTurn, inTurns, inTurnsOrNone, hkey, hrole, hturn, hid]
      | some turnId =>
        by_cases hmem : turnId ∈ retainedTurnIds <;>
          simp [keptFirst, keptByTurn, inTurns, inTurnsOrNone, hturn, hmem]
  · simp [hkey]

theorem length_keptFirst_eq (hseed : SeedRetained seed keys retainedTurnIds turnCount)
    (hrole : role ≠ .system) :
    (keys.filter (fun key =>
        decide (key.role = role) && keptFirst seed retainedTurnIds key)).length =
      taggedCount role keys retainedTurnIds +
        ((untaggedByAge role keys).filter (fun key => decide (key.id ∈ seed))).length := by
  have hsplit := List.length_eq_length_filter_add (l := keys.filter (fun key =>
    decide (key.role = role) && keptFirst seed retainedTurnIds key))
    (fun key => inTurns retainedTurnIds key.turnId)
  have htagged : (keys.filter (fun key =>
        decide (key.role = role) && keptFirst seed retainedTurnIds key)).filter
      (fun key => inTurns retainedTurnIds key.turnId) =
      keys.filter (fun key =>
        decide (key.role = role) && inTurns retainedTurnIds key.turnId) := by
    rw [List.filter_filter]
    refine List.filter_congr (fun key _ => ?_)
    cases hin : inTurns retainedTurnIds key.turnId <;> simp [keptFirst, keptByTurn, hin]
  have huntagged : (keys.filter (fun key =>
        decide (key.role = role) && keptFirst seed retainedTurnIds key)).filter
      (fun key => !inTurns retainedTurnIds key.turnId) =
      (keys.filter (fun key => decide (key.role = role) && decide (key.turnId = none))).filter
        (fun key => decide (key.id ∈ seed)) := by
    rw [List.filter_filter, List.filter_filter]
    refine List.filter_congr (fun key hkeys => ?_)
    by_cases hkey : key.role = role
    · by_cases hid : key.id ∈ seed
      · rcases hseed key hkeys hid with htag | hold
        · have hin : inTurns retainedTurnIds key.turnId = true := by
            simpa [keptByTurn, hkey, hrole] using htag
          have hturn : key.turnId ≠ none := by
            intro hnone
            simp [inTurns, hnone] at hin
          simp [hin, hturn]
        · have hturn := (mem_oldestUntagged hold).2.2
          simp [hkey, hid, hturn, inTurns, keptFirst]
      · have hfirst : keptFirst seed retainedTurnIds key = inTurns retainedTurnIds key.turnId := by
          simp [keptFirst, keptByTurn, hid, hkey, hrole]
        rw [hfirst]
        cases inTurns retainedTurnIds key.turnId <;> simp [hid]
    · simp [hkey]
  have hperm : ((untaggedByAge role keys).filter (fun key => decide (key.id ∈ seed))).length =
      ((keys.filter (fun key => decide (key.role = role) && decide (key.turnId = none))).filter
        (fun key => decide (key.id ∈ seed))).length :=
    ((toSorted_perm _ _).filter _).length_eq
  rw [hsplit, htagged, huntagged, hperm]
  rfl

theorem mem_fallbackKeys_seed_iff {ι : Type*} [LinearOrder ι] {rank : MessageKey → ι}
    (hrank : RankedBy (compareCreated keyFields) rank)
    (hdistinct : (keys.map MessageKey.id).Nodup)
    (hseed : SeedRetained seed keys retainedTurnIds turnCount) (hrole : role ≠ .system)
    {key : MessageKey} :
    key ∈ fallbackKeys role seed keys retainedTurnIds turnCount ↔
      key ∈ oldestUntagged role keys retainedTurnIds turnCount ∧ key.id ∉ seed := by
  have hnodup : (untaggedByAge role keys).Nodup :=
    (toSorted_perm _ _).nodup_iff.mpr ((hdistinct.of_map _).filter _)
  have hearly : ∀ key ∈ untaggedByAge role keys, decide (key.id ∈ seed) = true →
      key ∈ (untaggedByAge role keys).take (turnCount - taggedCount role keys retainedTurnIds) := by
    intro key hkey hid
    have hmem := List.mem_filter.mp (mem_toSorted.mp hkey)
    simp only [Bool.and_eq_true, decide_eq_true_eq] at hmem
    obtain ⟨hkeys, hkeyRole, hturn⟩ := hmem
    rcases hseed key hkeys (of_decide_eq_true hid) with htag | hold
    · simp [keptByTurn, inTurns, hkeyRole, hrole, hturn] at htag
    · exact hkeyRole ▸ hold
  have hsorted : toSorted (compareCreated keyFields) ((keys.filter (fun key =>
        decide (key.role = role) && decide (key.turnId = none))).filter
        (fun key => !decide (key.id ∈ seed))) =
      (untaggedByAge role keys).filter (fun key => !decide (key.id ∈ seed)) :=
    (hrank.filter_toSorted _ _).symm
  have htake := mem_take_filter_not_iff hnodup hearly (a := key)
  rw [decide_eq_false_iff_not, Nat.sub_sub] at htake
  unfold fallbackKeys
  rw [fallbackCandidates_eq hrole, length_keptFirst_eq hseed hrole, hsorted]
  exact htake

variable {others : List MessageKey} {otherTurnIds : List TurnId}

theorem oldestUntagged_congr {ι : Type*} [LinearOrder ι] {rank : MessageKey → ι}
    (hrank : RankedBy (compareCreated keyFields) rank)
    (hsorted : toSorted (compareCreated keyFields) keys =
      toSorted (compareCreated keyFields) others)
    (hturns : ∀ turnId, turnId ∈ retainedTurnIds ↔ turnId ∈ otherTurnIds)
    (role : OrchestrationMessageRole) :
    oldestUntagged role keys retainedTurnIds turnCount =
      oldestUntagged role others otherTurnIds turnCount := by
  have hin : inTurns retainedTurnIds = inTurns otherTurnIds := by
    funext turnId
    cases turnId <;> simp [inTurns, hturns]
  have hperm : keys.Perm others :=
    (toSorted_perm _ keys).symm.trans (hsorted ▸ toSorted_perm _ others)
  have hcount : taggedCount role keys retainedTurnIds = taggedCount role others otherTurnIds := by
    unfold taggedCount
    rw [hin]
    exact (hperm.filter _).length_eq
  unfold oldestUntagged untaggedByAge
  rw [hcount, ← hrank.filter_toSorted, ← hrank.filter_toSorted, hsorted]

theorem retainedMessageIds_nil_congr {ι : Type*} [LinearOrder ι] {rank : MessageKey → ι}
    (hrank : RankedBy (compareCreated keyFields) rank)
    (hdistinct : (keys.map MessageKey.id).Nodup)
    (hsorted : toSorted (compareCreated keyFields) keys =
      toSorted (compareCreated keyFields) others)
    (hturns : ∀ turnId, turnId ∈ retainedTurnIds ↔ turnId ∈ otherTurnIds) {key : MessageKey}
    (hkey : key ∈ keys) :
    key.id ∈ retainedMessageIds keyFields [] keys retainedTurnIds turnCount ↔
      key.id ∈ retainedMessageIds keyFields [] others otherTurnIds turnCount := by
  have hperm : keys.Perm others :=
    (toSorted_perm _ keys).symm.trans (hsorted ▸ toSorted_perm _ others)
  have hdistinct' : (others.map MessageKey.id).Nodup :=
    (hperm.map MessageKey.id).nodup_iff.mp hdistinct
  have hin : keptByTurn retainedTurnIds key = keptByTurn otherTurnIds key := by
    unfold keptByTurn
    cases key.turnId <;> simp [inTurns, hturns]
  rw [mem_retainedMessageIds_nil_iff hdistinct hkey,
    mem_retainedMessageIds_nil_iff hdistinct' (hperm.mem_iff.mp hkey), hin,
    oldestUntagged_congr hrank hsorted hturns]

theorem retained_seed_iff {ι : Type*} [LinearOrder ι] {rank : MessageKey → ι}
    (hrank : RankedBy (compareCreated keyFields) rank)
    (hdistinct : (keys.map MessageKey.id).Nodup) :
    (∀ key ∈ keys, (key.id ∈ retainedMessageIds keyFields seed keys retainedTurnIds turnCount ↔
        key.id ∈ retainedMessageIds keyFields [] keys retainedTurnIds turnCount)) ↔
      SeedRetained seed keys retainedTurnIds turnCount := by
  constructor
  · intro h key hkey hid
    rw [← mem_retainedMessageIds_nil_iff hdistinct hkey, ← h key hkey,
      mem_retainedMessageIds_iff hdistinct hkey]
    exact Or.inl (by simp [keptFirst, hid])
  · intro hseed key hkey
    rw [mem_retainedMessageIds_iff hdistinct hkey, mem_retainedMessageIds_nil_iff hdistinct hkey]
    by_cases hrole : key.role = .system
    · simp [keptFirst, keptByTurn, hrole]
    · rw [mem_fallbackKeys_seed_iff hrank hdistinct hseed hrole]
      by_cases hid : key.id ∈ seed
      · simp only [keptFirst, hid, decide_true, Bool.true_or, true_or, true_iff]
        exact hseed key hkey hid
      · simp [keptFirst, hid]

end Seeds

end GT3Code.Orchestration
