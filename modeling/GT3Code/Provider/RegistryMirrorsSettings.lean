import GT3Code.Provider.InstanceRegistry

/-! # The registry mirrors the settings

Between two reconciles the registry shows exactly what the last one was given. While one runs,
the scopes it has closed are still exposed until the first of the two maps is set.
-/

namespace GT3Code.Provider

open GT3Code.Base GT3Code.Contracts

variable {Payload : Type} [DecidableEq Payload]

structure InstanceRegistry.Mirrors (registry : InstanceRegistry Payload) : Prop where
  keys : ∀ id,
    (KeyedMap.has id registry.entries ∨ KeyedMap.has id registry.unavailable) ↔
      KeyedMap.has id registry.work.configMap
  disjoint : ∀ id, ¬ (KeyedMap.has id registry.entries ∧ KeyedMap.has id registry.unavailable)
  config : ∀ id live, KeyedMap.get id registry.entries = some live →
    KeyedMap.get id registry.work.configMap = some live.entry
  keeps : ∀ id live, KeyedMap.get id registry.work.previousEntries = some live →
    KeyedMap.get id registry.work.configMap = some live.entry →
    KeyedMap.get id registry.entries = some live
  scopes : ∀ scope, scope ∈ registry.openScopes ↔
    ∃ id live, KeyedMap.get id registry.entries = some live ∧ live.scope = scope
  published : ∀ id,
    KeyedMap.get id registry.entries ≠ KeyedMap.get id registry.work.previousEntries ∨
      KeyedMap.get id registry.unavailable ≠
        KeyedMap.get id registry.work.previousUnavailable →
    registry.changesBefore < registry.changes

def RegistryRead.IsOpen (read : RegistryRead) : Prop :=
  ∀ scope ∈ read.returned, scope ∈ read.openScopes

/-- Readers were given open instances only, and the registry mirrors the last configuration. -/
structure InstanceRegistry.Faithful (registry : InstanceRegistry Payload) : Prop where
  reads : ∀ read ∈ registry.reads, read.IsOpen
  mirrors : registry.phase = .idle → registry.Mirrors

namespace Reconcile

def closing (work : Reconcile Payload) : List ProviderInstanceId :=
  work.removedIds ++ work.replacedIds

omit [DecidableEq Payload] in
theorem mem_removedIds_iff {work : Reconcile Payload} {id : ProviderInstanceId} :
    id ∈ work.removedIds ↔ (∃ live, KeyedMap.get id work.previousEntries = some live) ∧
      KeyedMap.get id work.configMap = none := by
  unfold removedIds
  rw [List.mem_map]
  constructor
  · rintro ⟨⟨other, live⟩, hmem, rfl⟩
    obtain ⟨hlive, hnone⟩ := List.mem_filter.mp hmem
    exact ⟨⟨live, KeyedMap.get_eq_some_iff.mpr hlive⟩, by simpa [KeyedMap.has] using hnone⟩
  · rintro ⟨⟨live, hlive⟩, hnone⟩
    exact ⟨(id, live), List.mem_filter.mpr
      ⟨KeyedMap.get_eq_some_iff.mp hlive, by simp [KeyedMap.has, hnone]⟩, rfl⟩

variable {work : Reconcile Payload}

theorem mem_replacedIds_iff {id : ProviderInstanceId} :
    id ∈ work.replacedIds ↔ ∃ live next, KeyedMap.get id work.previousEntries = some live ∧
      KeyedMap.get id work.configMap = some next ∧ live.entry ≠ next := by
  unfold replacedIds isReplaced
  rw [List.mem_map]
  constructor
  · rintro ⟨⟨other, live⟩, hmem, rfl⟩
    obtain ⟨hlive, hany⟩ := List.mem_filter.mp hmem
    obtain ⟨next, hnext, hne⟩ := (Option.any_eq_true _ _).mp hany
    exact ⟨live, next, KeyedMap.get_eq_some_iff.mpr hlive, hnext, of_decide_eq_true hne⟩
  · rintro ⟨live, next, hlive, hnext, hne⟩
    exact ⟨(id, live), List.mem_filter.mpr
      ⟨KeyedMap.get_eq_some_iff.mp hlive, by simpa [hnext] using hne⟩, rfl⟩

theorem mem_closing_iff {id : ProviderInstanceId} :
    id ∈ work.closing ↔ ∃ live, KeyedMap.get id work.previousEntries = some live ∧
      KeyedMap.get id work.configMap ≠ some live.entry := by
  unfold closing
  rw [List.mem_append, mem_removedIds_iff, mem_replacedIds_iff]
  constructor
  · rintro (⟨⟨live, hlive⟩, hnone⟩ | ⟨live, next, hlive, hnext, hne⟩)
    · exact ⟨live, hlive, by simp [hnone]⟩
    · exact ⟨live, hlive, by simpa [hnext] using Ne.symm hne⟩
  · rintro ⟨live, hlive, hne⟩
    cases hnext : KeyedMap.get id work.configMap with
    | none => exact Or.inl ⟨⟨live, hlive⟩, rfl⟩
    | some next =>
      refine Or.inr ⟨live, next, hlive, rfl, ?_⟩
      intro heq
      exact hne (by rw [hnext, heq])

theorem closing_nodup (work : Reconcile Payload) : work.closing.Nodup := by
  have hkeys := KeyedMap.nodup_keys work.previousEntries
  refine List.nodup_append'.mpr ⟨?_, ?_, ?_⟩
  · exact (List.Sublist.map Prod.fst List.filter_sublist).nodup hkeys
  · exact (List.Sublist.map Prod.fst List.filter_sublist).nodup hkeys
  · intro id hremoved hreplaced
    have hnone := (mem_removedIds_iff.mp hremoved).2
    obtain ⟨_, next, _, hnext, _⟩ := mem_replacedIds_iff.mp hreplaced
    cases hnone.symm.trans hnext

theorem kept_eq_some_iff {id : ProviderInstanceId} {live : LiveEntry Payload}
    (hnext : KeyedMap.has id work.configMap) :
    work.kept id = some live ↔ KeyedMap.get id work.previousEntries = some live ∧
      KeyedMap.get id work.configMap = some live.entry := by
  obtain ⟨next, hconfig⟩ := Option.isSome_iff_exists.mp hnext
  unfold kept
  rw [Option.filter_eq_some_iff]
  refine and_congr_right fun hlive => ?_
  have hreplaced : id ∈ work.replacedIds ↔ live.entry ≠ next := by
    rw [mem_replacedIds_iff]
    simp [hlive, hconfig]
  rw [hconfig]
  simp only [Bool.not_eq_true', List.contains_eq_mem, decide_eq_false_iff_not, hreplaced]
  simp [eq_comm]

end Reconcile

namespace InstanceRegistry

def closedIds (registry : InstanceRegistry Payload) : List ProviderInstanceId :=
  match registry.phase with
  | .idle | .setUnavailable | .publish => []
  | .closing ids => registry.work.closing.filter fun id => !(ids.contains id)
  | .building _ | .creating _ _ _ _ | .setEntries => registry.work.closing

/-- No read meets an entry the reconcile under way has closed and not yet taken out. -/
def ReadsNothingClosed (registry : InstanceRegistry Payload) : RegistryAction Payload → Prop
  | .reconcile _ | .next _ => True
  | .getInstance instanceId => instanceId ∉ registry.closedIds
  | .listInstances => registry.closedIds = []

end InstanceRegistry

section Scopes

omit [DecidableEq Payload]

/-- The open scopes are those of the exposed entries not yet closed, of the entries built, and the
one in the making. -/
structure ScopesOwned (entries built : LiveEntries Payload) (closed : List ProviderInstanceId)
    (making : Option Nat) (openScopes : List Nat) (scopesMade : Nat) : Prop where
  opens : ∀ scope, scope ∈ openScopes ↔
    (∃ id live, ((KeyedMap.get id entries = some live ∧ id ∉ closed) ∨
      KeyedMap.get id built = some live) ∧ live.scope = scope) ∨ making = some scope
  bounded : ∀ id live, KeyedMap.get id entries = some live ∨ KeyedMap.get id built = some live →
    live.scope < scopesMade
  distinct : ∀ id live other otherLive,
    KeyedMap.get id entries = some live ∨ KeyedMap.get id built = some live →
    KeyedMap.get other entries = some otherLive ∨ KeyedMap.get other built = some otherLive →
    live.scope = otherLive.scope → id = other
  making_fresh : ∀ scope, making = some scope → scope < scopesMade ∧
    ∀ id live, KeyedMap.get id entries = some live ∨ KeyedMap.get id built = some live →
      live.scope ≠ scope
  rebuilt : ∀ id ∈ closed, ∀ live next, KeyedMap.get id entries = some live →
    KeyedMap.get id built = some next → live.scope ≠ next.scope

namespace ScopesOwned

variable {entries built : LiveEntries Payload} {closed : List ProviderInstanceId}
  {openScopes : List Nat} {scopesMade : Nat} {id : ProviderInstanceId} {live : LiveEntry Payload}

theorem begin (h : ScopesOwned entries built closed none openScopes scopesMade)
    (hscopes : ∀ scope, scope ∈ openScopes ↔
      ∃ id live, KeyedMap.get id entries = some live ∧ live.scope = scope) :
    ScopesOwned entries (KeyedTable.empty _) [] none openScopes scopesMade := by
  refine ⟨?_, ?_, ?_, nofun, nofun⟩
  · intro scope
    simpa using hscopes scope
  · intro id live hheld
    exact h.bounded id live (Or.inl (by simpa using hheld))
  · intro id live other otherLive hheld hother
    exact h.distinct id live other otherLive (Or.inl (by simpa using hheld))
      (Or.inl (by simpa using hother))

theorem close {closed' : List ProviderInstanceId}
    (h : ScopesOwned entries built closed none openScopes scopesMade)
    (hbuilt : ∀ id, KeyedMap.get id built = none) (hlive : KeyedMap.get id entries = some live)
    (hclosed : ∀ other, other ∈ closed' ↔ other ∈ closed ∨ other = id) :
    ScopesOwned entries built closed' none (openScopes.filter fun other => other ≠ live.scope)
      scopesMade := by
  refine ⟨?_, h.bounded, h.distinct, nofun, ?_⟩
  rotate_left
  · intro other _ otherLive next _ hnext
    cases (hbuilt other).symm.trans hnext
  intro scope
  rw [List.mem_filter, decide_eq_true_eq, h.opens scope]
  constructor
  · rintro ⟨⟨other, otherLive, hother | hother, rfl⟩ | hmaking, hne⟩
    · refine Or.inl ⟨other, otherLive, Or.inl ⟨hother.1, ?_⟩, rfl⟩
      intro hmem
      rcases (hclosed other).mp hmem with hmem | rfl
      · exact hother.2 hmem
      · cases hlive.symm.trans hother.1
        exact hne rfl
    · cases (hbuilt other).symm.trans hother
    · cases hmaking
  · rintro (⟨other, otherLive, ⟨hother, hopen⟩ | hother, rfl⟩ | hmaking)
    · refine ⟨Or.inl ⟨other, otherLive, Or.inl ⟨hother, ?_⟩, rfl⟩, ?_⟩
      · exact fun hmem => hopen ((hclosed other).mpr (Or.inl hmem))
      · intro heq
        have hid := h.distinct other otherLive id live (Or.inl hother) (Or.inl hlive) heq
        exact hopen ((hclosed other).mpr (Or.inr hid))
    · cases (hbuilt other).symm.trans hother
    · cases hmaking

variable {making : Option Nat}

theorem build (hnone : KeyedMap.get id built = none)
    (h : ScopesOwned entries built closed making openScopes scopesMade)
    (hopens : ∀ scope, scope ∈ openScopes ↔
      (∃ other otherLive, ((KeyedMap.get other entries = some otherLive ∧ other ∉ closed) ∨
        KeyedMap.get other built = some otherLive) ∧ otherLive.scope = scope) ∨
          scope = live.scope)
    (hbounded : live.scope < scopesMade)
    (hdistinct : ∀ other otherLive, KeyedMap.get other entries = some otherLive ∨
      KeyedMap.get other built = some otherLive → otherLive.scope = live.scope → other = id)
    (hrebuilt : id ∈ closed → ∀ otherLive, KeyedMap.get id entries = some otherLive →
      otherLive.scope ≠ live.scope) :
    ScopesOwned entries (KeyedMap.set id live built) closed none openScopes scopesMade := by
  have hget : ∀ other otherLive, KeyedMap.get other (KeyedMap.set id live built) = some otherLive ↔
      KeyedMap.get other built = some otherLive ∨ (other = id ∧ otherLive = live) := by
    intro other otherLive
    by_cases heq : other = id
    · subst heq
      simp [hnone, eq_comm]
    · simp [KeyedMap.get_set_of_ne heq, heq]
  refine ⟨?_, ?_, ?_, fun _ h => (by cases h), ?_⟩
  · intro scope
    rw [hopens scope]
    constructor
    · rintro (⟨other, otherLive, hother | hother, rfl⟩ | rfl)
      · exact Or.inl ⟨other, otherLive, Or.inl hother, rfl⟩
      · exact Or.inl ⟨other, otherLive, Or.inr ((hget _ _).mpr (Or.inl hother)), rfl⟩
      · exact Or.inl ⟨id, live, Or.inr ((hget _ _).mpr (Or.inr ⟨rfl, rfl⟩)), rfl⟩
    · rintro (⟨other, otherLive, hother | hother, rfl⟩ | hmaking)
      · exact Or.inl ⟨other, otherLive, Or.inl hother, rfl⟩
      · rcases (hget _ _).mp hother with hother | ⟨rfl, rfl⟩
        · exact Or.inl ⟨other, otherLive, Or.inr hother, rfl⟩
        · exact Or.inr rfl
      · cases hmaking
  · intro other otherLive hother
    rw [hget] at hother
    rcases hother with hother | hother | ⟨rfl, rfl⟩
    · exact h.bounded other otherLive (Or.inl hother)
    · exact h.bounded other otherLive (Or.inr hother)
    · exact hbounded
  · intro first firstLive second secondLive hfirst hsecond heq
    rw [hget] at hfirst hsecond
    rw [← or_assoc] at hfirst hsecond
    rcases hfirst with hfirst | ⟨rfl, rfl⟩ <;> rcases hsecond with hsecond | ⟨rfl, rfl⟩
    · exact h.distinct first firstLive second secondLive hfirst hsecond heq
    · exact hdistinct first firstLive hfirst heq
    · exact (hdistinct second secondLive hsecond heq.symm).symm
    · rfl
  · intro other hmem otherLive next hother hnext
    rcases (hget _ _).mp hnext with hnext | ⟨rfl, rfl⟩
    · exact h.rebuilt other hmem otherLive next hother hnext
    · exact hrebuilt hmem otherLive hother

theorem keep (h : ScopesOwned entries built closed none openScopes scopesMade)
    (hnone : KeyedMap.get id built = none) (hlive : KeyedMap.get id entries = some live)
    (hopen : id ∉ closed) :
    ScopesOwned entries (KeyedMap.set id live built) closed none openScopes scopesMade := by
  refine h.build hnone ?_ (h.bounded id live (Or.inl hlive)) ?_ (fun hmem => absurd hmem hopen)
  · intro scope
    rw [h.opens scope]
    refine or_congr_right' fun hnot => ?_
    constructor
    · exact fun h => by cases h
    · rintro rfl
      exact absurd ⟨id, live, Or.inl ⟨hlive, hopen⟩, rfl⟩ hnot
  · intro other otherLive hother heq
    exact h.distinct other otherLive id live hother (Or.inl hlive) heq

theorem make (h : ScopesOwned entries built closed none openScopes scopesMade) :
    ScopesOwned entries built closed (some scopesMade) (openScopes ++ [scopesMade])
      (scopesMade + 1) := by
  refine ⟨?_, ?_, h.distinct, ?_, h.rebuilt⟩
  · intro scope
    rw [List.mem_append, h.opens scope]
    simp [eq_comm]
  · intro id live hheld
    exact Nat.lt_succ_of_lt (h.bounded id live hheld)
  · intro scope hmaking
    cases hmaking
    exact ⟨Nat.lt_succ_self _, fun id live hheld => Nat.ne_of_lt (h.bounded id live hheld)⟩

theorem create (h : ScopesOwned entries built closed (some live.scope) openScopes scopesMade)
    (hnone : KeyedMap.get id built = none) :
    ScopesOwned entries (KeyedMap.set id live built) closed none openScopes scopesMade := by
  obtain ⟨hbounded, hfresh⟩ := h.making_fresh live.scope rfl
  refine h.build hnone ?_ hbounded ?_ (fun _ other hother => hfresh id other (Or.inl hother))
  · intro scope
    rw [h.opens scope]
    simp [eq_comm]
  · intro other otherLive hother heq
    exact absurd heq (hfresh other otherLive hother)

theorem drop {scope : Nat}
    (h : ScopesOwned entries built closed (some scope) openScopes scopesMade) :
    ScopesOwned entries built closed none (openScopes.filter fun other => other ≠ scope)
      scopesMade := by
  obtain ⟨-, hfresh⟩ := h.making_fresh scope rfl
  refine ⟨?_, h.bounded, h.distinct, nofun, h.rebuilt⟩
  intro other
  rw [List.mem_filter, decide_eq_true_eq, h.opens other]
  constructor
  · rintro ⟨hheld | hmaking, hne⟩
    · exact Or.inl hheld
    · exact absurd (Option.some.inj hmaking).symm hne
  · rintro (⟨id, live, hheld, rfl⟩ | hmaking)
    · exact ⟨Or.inl ⟨id, live, hheld, rfl⟩, hfresh id live (hheld.imp_left And.left)⟩
    · cases hmaking

theorem swap (h : ScopesOwned entries built closed none openScopes scopesMade)
    (hkept : ∀ id live, KeyedMap.get id entries = some live → id ∉ closed →
      KeyedMap.get id built = some live) :
    ScopesOwned built built [] none openScopes scopesMade := by
  refine ⟨?_, ?_, ?_, nofun, nofun⟩
  · intro scope
    rw [h.opens scope]
    constructor
    · rintro (⟨id, live, ⟨hlive, hopen⟩ | hlive, rfl⟩ | hmaking)
      · exact Or.inl ⟨id, live, Or.inr (hkept id live hlive hopen), rfl⟩
      · exact Or.inl ⟨id, live, Or.inr hlive, rfl⟩
      · cases hmaking
    · rintro (⟨id, live, ⟨hlive, -⟩ | hlive, rfl⟩ | hmaking)
      · exact Or.inl ⟨id, live, Or.inr hlive, rfl⟩
      · exact Or.inl ⟨id, live, Or.inr hlive, rfl⟩
      · cases hmaking
  · intro id live hheld
    exact h.bounded id live (Or.inr (or_self_iff.mp hheld))
  · intro id live other otherLive hheld hother
    exact h.distinct id live other otherLive (Or.inr (or_self_iff.mp hheld))
      (Or.inr (or_self_iff.mp hother))

theorem open_iff (h : ScopesOwned entries built closed making openScopes scopesMade)
    (hlive : KeyedMap.get id entries = some live) : live.scope ∈ openScopes ↔ id ∉ closed := by
  rw [h.opens]
  constructor
  · rintro (⟨other, otherLive, ⟨hother, hopen⟩ | hother, heq⟩ | hmaking)
    · rwa [h.distinct id live other otherLive (Or.inl hlive) (Or.inl hother) heq.symm]
    · intro hmem
      obtain rfl := h.distinct id live other otherLive (Or.inl hlive) (Or.inr hother) heq.symm
      exact h.rebuilt id hmem live otherLive hlive hother heq.symm
    · exact absurd rfl ((h.making_fresh live.scope hmaking).2 id live (Or.inl hlive))
  · intro hopen
    exact Or.inl ⟨id, live, Or.inl ⟨hlive, hopen⟩, rfl⟩

end ScopesOwned

end Scopes

/-! ## How far a reconcile is -/

/-- The two maps built from the part of the configuration map that is done. -/
structure Reconcile.Built (work : Reconcile Payload)
    (done : List (ProviderInstanceId × ProviderInstanceConfig Payload)) : Prop where
  keys : ∀ id, (KeyedMap.has id work.builtEntries ∨ KeyedMap.has id work.builtUnavailable) ↔
    id ∈ done.map Prod.fst
  disjoint : ∀ id, ¬ (KeyedMap.has id work.builtEntries ∧ KeyedMap.has id work.builtUnavailable)
  config : ∀ id live, KeyedMap.get id work.builtEntries = some live →
    KeyedMap.get id work.configMap = some live.entry
  keeps : ∀ id ∈ done.map Prod.fst, ∀ live, work.kept id = some live →
    KeyedMap.get id work.builtEntries = some live

namespace Reconcile.Built

variable {work : Reconcile Payload}
  {done rest : List (ProviderInstanceId × ProviderInstanceConfig Payload)}
  {id : ProviderInstanceId} {entry : ProviderInstanceConfig Payload}

theorem entry_none (h : work.Built done) (hid : id ∉ done.map Prod.fst) :
    KeyedMap.get id work.builtEntries = none := by
  by_contra hsome
  exact hid ((h.keys id).mp (Or.inl (Option.isSome_iff_ne_none.mpr hsome)))

theorem unavailable_none (h : work.Built done) (hid : id ∉ done.map Prod.fst) :
    KeyedMap.get id work.builtUnavailable = none := by
  by_contra hsome
  exact hid ((h.keys id).mp (Or.inr (Option.isSome_iff_ne_none.mpr hsome)))

theorem setBuilt {live : LiveEntry Payload} (h : work.Built done)
    (hid : id ∉ done.map Prod.fst) (hconfig : KeyedMap.get id work.configMap = some live.entry)
    (hkept : ∀ other, work.kept id = some other → other = live) :
    Reconcile.Built { work with builtEntries := KeyedMap.set id live work.builtEntries }
      (done ++ [(id, entry)]) := by
  refine ⟨?_, ?_, ?_, ?_⟩
  · intro other
    have hkeys := h.keys other
    simp only [KeyedMap.has_set_iff, List.map_append, List.mem_append, List.map_cons,
      List.map_nil, List.mem_singleton, ← hkeys]
    tauto
  · rintro other ⟨hlive, hunavailable⟩
    rcases KeyedMap.has_set_iff.mp hlive with rfl | hlive
    · simp [KeyedMap.has, h.unavailable_none hid] at hunavailable
    · exact h.disjoint other ⟨hlive, hunavailable⟩
  · intro other otherLive hother
    by_cases heq : other = id
    · subst heq
      rw [KeyedMap.get_set_self] at hother
      cases hother
      exact hconfig
    · rw [KeyedMap.get_set_of_ne heq] at hother
      exact h.config other otherLive hother
  · intro other hmem otherLive hother
    by_cases heq : other = id
    · subst heq
      cases hkept otherLive hother
      exact KeyedMap.get_set_self ..
    · show KeyedMap.get other (KeyedMap.set id live work.builtEntries) = some otherLive
      rw [KeyedMap.get_set_of_ne heq]
      refine h.keeps other ?_ otherLive hother
      simpa [heq] using hmem

theorem setBuiltUnavailable {snapshot : UnavailableSnapshot} (h : work.Built done)
    (hid : id ∉ done.map Prod.fst) (hkept : work.kept id = none) :
    Reconcile.Built
      { work with builtUnavailable := KeyedMap.set id snapshot work.builtUnavailable }
      (done ++ [(id, entry)]) := by
  refine ⟨?_, ?_, h.config, ?_⟩
  · intro other
    have hkeys := h.keys other
    simp only [KeyedMap.has_set_iff, List.map_append, List.mem_append, List.map_cons,
      List.map_nil, List.mem_singleton, ← hkeys]
    tauto
  · rintro other ⟨hlive, hunavailable⟩
    rcases KeyedMap.has_set_iff.mp hunavailable with rfl | hunavailable
    · simp [KeyedMap.has, h.entry_none hid] at hlive
    · exact h.disjoint other ⟨hlive, hunavailable⟩
  · intro other hmem otherLive hother
    have hne : other ≠ id := by
      rintro rfl
      cases hkept.symm.trans hother
    exact h.keeps other (by simpa [hne] using hmem) otherLive hother

theorem unchanged (h : work.Built work.configMap.rows)
    (hentries : work.entriesChanged = false) (hunavailable : work.unavailableChanged = false)
    (id : ProviderInstanceId) :
    KeyedMap.get id work.builtEntries = KeyedMap.get id work.previousEntries ∧
      KeyedMap.get id work.builtUnavailable = KeyedMap.get id work.previousUnavailable := by
  simp only [Reconcile.entriesChanged, Bool.or_eq_false_iff] at hentries
  obtain ⟨⟨⟨horder, hremoved⟩, hreplaced⟩, -⟩ := hentries
  have horder : work.previousEntries.rows.map Prod.fst = work.configMap.rows.map Prod.fst :=
    not_not.mp (of_decide_eq_false horder)
  have hreplaced : work.replacedIds = [] :=
    List.eq_nil_of_length_eq_zero (by simpa using of_decide_eq_false hreplaced)
  simp only [Reconcile.unavailableChanged, Bool.or_eq_false_iff, List.any_eq_false] at hunavailable
  obtain ⟨⟨-, hnew⟩, hgone⟩ := hunavailable
  constructor
  · cases hprevious : KeyedMap.get id work.previousEntries with
    | some live =>
      have hkept : work.kept id = some live := by
        simp [Reconcile.kept, hprevious, hreplaced]
      refine h.keeps id ?_ live hkept
      rw [← horder]
      exact KeyedMap.has_iff_mem_keys.mp (by simp [KeyedMap.has, hprevious])
    | none =>
      refine h.entry_none ?_
      rw [← horder]
      intro hmem
      have hhas := KeyedMap.has_iff_mem_keys.mpr hmem
      simp [KeyedMap.has, hprevious] at hhas
  · cases hbuilt : KeyedMap.get id work.builtUnavailable with
    | some snapshot =>
      have hsame := hnew (id, snapshot) (KeyedMap.get_eq_some_iff.mp hbuilt)
      exact (by simpa using hsame : _ = some snapshot).symm
    | none =>
      symm
      by_contra hsome
      obtain ⟨snapshot, hprevious⟩ := Option.ne_none_iff_exists'.mp hsome
      have hhas := hgone (id, snapshot) (KeyedMap.get_eq_some_iff.mp hprevious)
      simp [KeyedMap.has, hbuilt] at hhas

end Reconcile.Built

namespace InstanceRegistry

structure Unswapped (registry : InstanceRegistry Payload) : Prop where
  entries : registry.entries = registry.work.previousEntries
  unavailable : registry.unavailable = registry.work.previousUnavailable
  changes : registry.changes = registry.changesBefore

def Progress (registry : InstanceRegistry Payload) : Prop :=
  match registry.phase with
  | .idle => registry.Mirrors
  | .closing ids =>
    registry.Unswapped ∧ registry.work.Built [] ∧
      ∃ closed, registry.work.closing = closed ++ ids
  | .building rest =>
    registry.Unswapped ∧
      ∃ done, registry.work.configMap.rows = done ++ rest ∧ registry.work.Built done
  | .creating instanceId entry _ rest =>
    registry.Unswapped ∧ registry.work.kept instanceId = none ∧
      ∃ done, registry.work.configMap.rows = done ++ (instanceId, entry) :: rest ∧
        registry.work.Built done
  | .setEntries => registry.Unswapped ∧ registry.work.Built registry.work.configMap.rows
  | .setUnavailable =>
    registry.entries = registry.work.builtEntries ∧
      registry.changes = registry.changesBefore ∧
      registry.work.Built registry.work.configMap.rows
  | .publish =>
    registry.entries = registry.work.builtEntries ∧
      registry.unavailable = registry.work.builtUnavailable ∧
      registry.changes = registry.changesBefore ∧
      registry.work.Built registry.work.configMap.rows

def scopeInMaking : ReconcilePhase Payload → Option Nat
  | .creating _ _ scope _ => some scope
  | _ => none

def Owned (registry : InstanceRegistry Payload) : Prop :=
  ScopesOwned registry.entries registry.work.builtEntries registry.closedIds
    (scopeInMaking registry.phase) registry.openScopes registry.scopesMade

structure Sound (registry : InstanceRegistry Payload) : Prop where
  owned : registry.Owned
  progress : registry.Progress

variable {registry after : InstanceRegistry Payload}

theorem startReconcile_sound {configMap : ProviderInstanceConfigMap Payload}
    (h : registry.Sound) (hidle : registry.phase = .idle) :
    (registry.startReconcile configMap).Sound := by
  have hmirrors : registry.Mirrors := by
    have hprogress := h.progress
    rwa [Progress, hidle] at hprogress
  have howned := h.owned
  unfold Owned closedIds at howned
  rw [hidle] at howned
  refine ⟨?_, ⟨rfl, rfl, rfl⟩, ⟨?_, ?_, ?_, ?_⟩, [], rfl⟩
  · have hclosed : (registry.startReconcile configMap).closedIds = [] := by
      unfold closedIds
      exact List.filter_eq_nil_iff.mpr fun id hid => by
        rw [Bool.not_eq_true, Bool.not_eq_false']
        exact List.contains_iff_mem.mpr hid
    unfold Owned
    rw [hclosed]
    exact ScopesOwned.begin howned hmirrors.scopes
  · intro id
    simp [startReconcile, KeyedMap.has]
  · intro id
    simp [startReconcile, KeyedMap.has]
  · exact fun _ _ h => by cases h
  · exact fun _ h => by cases h

theorem closeEntry_sound {id : ProviderInstanceId} {ids : List ProviderInstanceId}
    (h : registry.Sound) (hphase : registry.phase = .closing (id :: ids)) :
    InstanceRegistry.Sound { registry.closeEntry id with phase := .closing ids } := by
  have hprogress := h.progress
  have howned := h.owned
  unfold Progress at hprogress
  unfold Owned closedIds at howned
  rw [hphase] at hprogress howned
  obtain ⟨hunswapped, hbuilt, closed, hclosing⟩ := hprogress
  have hnodup := registry.work.closing_nodup
  rw [hclosing] at hnodup
  have hfresh : id ∉ ids := (List.nodup_cons.mp (List.nodup_append'.mp hnodup).2.1).1
  have hmem : id ∈ registry.work.closing := by simp [hclosing]
  obtain ⟨live, hlive, -⟩ := Reconcile.mem_closing_iff.mp hmem
  have hclose : registry.closeEntry id = registry.closeScope live.scope := by
    simp only [closeEntry, hlive]
  rw [hclose]
  refine ⟨?_, ⟨hunswapped.1, hunswapped.2, hunswapped.3⟩, hbuilt, closed ++ [id], by
    simp [closeScope, hclosing]⟩
  refine ScopesOwned.close howned (fun other => hbuilt.entry_none (by simp))
    (hunswapped.entries ▸ hlive) ?_
  intro other
  simp only [closedIds, closeScope, List.mem_filter, List.contains_eq_mem, Bool.not_eq_true',
    decide_eq_false_iff_not, List.mem_cons, not_or]
  by_cases heq : other = id
  · subst heq
    simp [hmem, hfresh]
  · simp [heq]

omit [DecidableEq Payload] in
theorem key_fresh {configMap : ProviderInstanceConfigMap Payload} {id : ProviderInstanceId}
    {entry : ProviderInstanceConfig Payload}
    {done rest : List (ProviderInstanceId × ProviderInstanceConfig Payload)}
    (h : configMap.rows = done ++ (id, entry) :: rest) :
    KeyedMap.get id configMap = some entry ∧ id ∉ done.map Prod.fst := by
  have hnodup := KeyedMap.nodup_keys configMap
  rw [h, List.map_append, List.map_cons] at hnodup
  refine ⟨KeyedMap.get_eq_some_iff.mpr (by simp [h]), fun hmem => ?_⟩
  exact (List.nodup_append'.mp hnodup).2.2 hmem List.mem_cons_self

variable {registered : ProviderDriverKind → Bool}

variable {entry : ProviderInstanceConfig Payload}
  {rest : List (ProviderInstanceId × ProviderInstanceConfig Payload)} {answer : ReconcileAnswer}

theorem buildEntry_sound {id : ProviderInstanceId} (h : registry.Sound)
    (hphase : registry.phase = .building ((id, entry) :: rest))
    (hstep : registry.buildEntry registered id entry rest answer = some after) : after.Sound := by
  have hprogress := h.progress
  have howned := h.owned
  unfold Progress at hprogress
  unfold Owned closedIds at howned
  rw [hphase] at hprogress howned
  obtain ⟨hunswapped, done, hrows, hbuilt⟩ := hprogress
  obtain ⟨hconfig, hfresh⟩ := key_fresh hrows
  have hnext : KeyedMap.has id registry.work.configMap := by simp [KeyedMap.has, hconfig]
  have hrows' : registry.work.configMap.rows = (done ++ [(id, entry)]) ++ rest := by simp [hrows]
  unfold buildEntry at hstep
  cases answer with
  | done =>
    cases hkept : registry.work.kept id with
    | some live =>
      simp only [hkept, Option.some.injEq] at hstep
      subst hstep
      obtain ⟨hlive, hsame⟩ := (Reconcile.kept_eq_some_iff hnext).mp hkept
      have hopen : id ∉ registry.work.closing := by
        intro hmem
        obtain ⟨other, hother, hne⟩ := Reconcile.mem_closing_iff.mp hmem
        cases hlive.symm.trans hother
        exact hne hsame
      refine ⟨?_, ⟨hunswapped.1, hunswapped.2, hunswapped.3⟩, _, hrows', ?_⟩
      · exact ScopesOwned.keep howned (hbuilt.entry_none hfresh)
          (hunswapped.entries ▸ hlive) hopen
      · refine hbuilt.setBuilt hfresh hsame ?_
        intro other hother
        exact (Option.some.inj (hkept.symm.trans hother)).symm
    | none =>
      simp only [hkept] at hstep
      split at hstep
      · cases hstep
        exact ⟨ScopesOwned.make howned, ⟨hunswapped.1, hunswapped.2, hunswapped.3⟩, hkept,
          done, hrows, hbuilt⟩
      · cases hstep
  | failed detail checkedAt =>
    cases hkept : registry.work.kept id with
    | some live =>
      simp only [hkept] at hstep
      cases hstep
    | none =>
      simp only [hkept, Option.some.injEq] at hstep
      subst hstep
      exact ⟨howned, ⟨hunswapped.1, hunswapped.2, hunswapped.3⟩, _, hrows',
        hbuilt.setBuiltUnavailable hfresh hkept⟩

theorem createEntry_sound {id : ProviderInstanceId} {scope : Nat} (h : registry.Sound)
    (hphase : registry.phase = .creating id entry scope rest) :
    (registry.createEntry id entry scope rest answer).Sound := by
  have hprogress := h.progress
  have howned := h.owned
  unfold Progress at hprogress
  unfold Owned closedIds at howned
  rw [hphase] at hprogress howned
  obtain ⟨hunswapped, hkept, done, hrows, hbuilt⟩ := hprogress
  obtain ⟨hconfig, hfresh⟩ := key_fresh hrows
  have hrows' : registry.work.configMap.rows = (done ++ [(id, entry)]) ++ rest := by simp [hrows]
  cases answer with
  | done =>
    refine ⟨?_, ⟨hunswapped.1, hunswapped.2, hunswapped.3⟩, _, hrows', ?_⟩
    · have hmade : ({ scope := scope, entry := entry } : LiveEntry Payload).scope = scope := rfl
      exact ScopesOwned.create (hmade ▸ howned) (hbuilt.entry_none hfresh)
    · refine hbuilt.setBuilt hfresh hconfig ?_
      intro other hother
      cases hkept.symm.trans hother
  | failed detail checkedAt =>
    exact ⟨ScopesOwned.drop howned, ⟨hunswapped.1, hunswapped.2, hunswapped.3⟩, _, hrows',
      hbuilt.setBuiltUnavailable hfresh hkept⟩

theorem setEntries_sound (h : registry.Sound) (hphase : registry.phase = .setEntries) :
    InstanceRegistry.Sound
      { registry with entries := registry.work.builtEntries, phase := .setUnavailable } := by
  have hprogress := h.progress
  have howned := h.owned
  unfold Progress at hprogress
  unfold Owned closedIds at howned
  rw [hphase] at hprogress howned
  obtain ⟨hunswapped, hbuilt⟩ := hprogress
  refine ⟨?_, rfl, hunswapped.changes, hbuilt⟩
  refine ScopesOwned.swap howned ?_
  intro id live hlive hopen
  rw [hunswapped.entries] at hlive
  have hsame : KeyedMap.get id registry.work.configMap = some live.entry := by
    by_contra hne
    exact hopen (Reconcile.mem_closing_iff.mpr ⟨live, hlive, hne⟩)
  have hnext : KeyedMap.has id registry.work.configMap := by simp [KeyedMap.has, hsame]
  exact hbuilt.keeps id (KeyedMap.has_iff_mem_keys.mp hnext) live
    ((Reconcile.kept_eq_some_iff hnext).mpr ⟨hlive, hsame⟩)

theorem publish_sound (h : registry.Sound) (hphase : registry.phase = .publish) :
    InstanceRegistry.Sound
      { registry with
        changes :=
          if registry.work.entriesChanged || registry.work.unavailableChanged then
            registry.changes + 1
          else registry.changes
        phase := .idle } := by
  have hprogress := h.progress
  have howned := h.owned
  unfold Progress at hprogress
  unfold Owned closedIds at howned
  rw [hphase] at hprogress howned
  obtain ⟨hentries, hunavailable, hchanges, hbuilt⟩ := hprogress
  refine ⟨howned, ?_, ?_, ?_, ?_, ?_, ?_⟩
  · intro id
    show KeyedMap.has id registry.entries ∨ KeyedMap.has id registry.unavailable ↔
      KeyedMap.has id registry.work.configMap
    rw [hentries, hunavailable, hbuilt.keys id]
    exact KeyedMap.has_iff_mem_keys.symm
  · intro id
    show ¬ (KeyedMap.has id registry.entries ∧ KeyedMap.has id registry.unavailable)
    rw [hentries, hunavailable]
    exact hbuilt.disjoint id
  · intro id live hlive
    exact hbuilt.config id live (hentries ▸ hlive)
  · intro id live hlive hsame
    have hnext : KeyedMap.has id registry.work.configMap := by
      show (KeyedMap.get id registry.work.configMap).isSome
      rw [show KeyedMap.get id registry.work.configMap = some live.entry from hsame]
      rfl
    have hkept := (Reconcile.kept_eq_some_iff hnext).mpr ⟨hlive, hsame⟩
    show KeyedMap.get id registry.entries = some live
    rw [hentries]
    exact hbuilt.keeps id (KeyedMap.has_iff_mem_keys.mp hnext) live hkept
  · intro scope
    have hopens := howned.opens scope
    rw [← hentries] at hopens
    simpa [scopeInMaking] using hopens
  · intro id hchanged
    show registry.changesBefore < ite _ _ _
    split
    · omega
    · rename_i hnone
      simp only [Bool.or_eq_true, not_or, Bool.not_eq_true] at hnone
      have hsame := hbuilt.unchanged hnone.1 hnone.2 id
      rw [← hentries, ← hunavailable] at hsame
      exact absurd hsame (not_and_or.mpr hchanged)

theorem nextStep_sound (h : registry.Sound)
    (hstep : registry.nextStep registered answer = some after) : after.Sound := by
  unfold nextStep at hstep
  have hprogress := h.progress
  have howned := h.owned
  unfold Progress at hprogress
  unfold Owned closedIds at howned
  split at hstep
  case h_1 => cases hstep
  case h_2 hphase =>
    cases hstep
    rw [hphase] at hprogress howned
    obtain ⟨hunswapped, hbuilt, -⟩ := hprogress
    refine ⟨?_, ⟨hunswapped.1, hunswapped.2, hunswapped.3⟩, [], rfl, hbuilt⟩
    simpa [Owned, closedIds, scopeInMaking] using howned
  case h_3 hphase =>
    cases hstep
    exact closeEntry_sound h hphase
  case h_4 hphase =>
    cases hstep
    rw [hphase] at hprogress howned
    obtain ⟨hunswapped, done, hrows, hbuilt⟩ := hprogress
    rw [List.append_nil] at hrows
    exact ⟨howned, ⟨hunswapped.1, hunswapped.2, hunswapped.3⟩, hrows ▸ hbuilt⟩
  case h_5 hphase => exact buildEntry_sound h hphase hstep
  case h_6 hphase =>
    cases hstep
    exact createEntry_sound h hphase
  case h_7 hphase =>
    cases hstep
    exact setEntries_sound h hphase
  case h_8 hphase =>
    cases hstep
    rw [hphase] at hprogress howned
    obtain ⟨hentries, hchanges, hbuilt⟩ := hprogress
    exact ⟨howned, hentries, rfl, hchanges, hbuilt⟩
  case h_9 hphase =>
    cases hstep
    exact publish_sound h hphase

theorem read_sound {returned : List Nat} (h : registry.Sound) : (registry.read returned).Sound := by
  refine ⟨h.owned, ?_⟩
  have hprogress := h.progress
  unfold Progress at hprogress ⊢
  rw [show (registry.read returned).phase = registry.phase from rfl]
  cases hphase : registry.phase with
  | idle =>
    rw [hphase] at hprogress
    exact ⟨hprogress.keys, hprogress.disjoint, hprogress.config, hprogress.keeps,
      hprogress.scopes, hprogress.published⟩
  | setUnavailable | publish =>
    rw [hphase] at hprogress
    exact hprogress
  | closing | building | creating | setEntries =>
    rw [hphase] at hprogress
    obtain ⟨hunswapped, hrest⟩ := hprogress
    exact ⟨⟨hunswapped.1, hunswapped.2, hunswapped.3⟩, hrest⟩

variable {action : RegistryAction Payload}

theorem step_sound (h : registry.Sound) (hstep : registry.step registered action = some after) :
    after.Sound := by
  cases action with
  | reconcile configMap =>
    simp only [step] at hstep
    split at hstep
    · rename_i hidle
      cases hstep
      cases hphase : registry.phase <;> rw [hphase] at hidle <;> cases hidle
      exact startReconcile_sound h hphase
    · cases hstep
  | next answer => exact nextStep_sound h hstep
  | getInstance | listInstances =>
    cases hstep
    exact read_sound h

theorem initial_sound : (initial : InstanceRegistry Payload).Sound := by
  refine ⟨⟨?_, ?_, ?_, ?_, ?_⟩, ⟨?_, ?_, ?_, ?_, ?_, ?_⟩⟩ <;>
    simp [initial, closedIds, scopeInMaking, KeyedMap.has]

theorem exposed_of_mem_closedIds {id : ProviderInstanceId} (h : registry.Sound)
    (hid : id ∈ registry.closedIds) : ∃ live, KeyedMap.get id registry.entries = some live := by
  have hprogress := h.progress
  have hunswapped : registry.Unswapped ∧ id ∈ registry.work.closing := by
    unfold Progress at hprogress
    unfold closedIds at hid
    split at hid
    case h_1 => cases hid
    case h_2 => cases hid
    case h_3 => cases hid
    case h_4 ids hphase =>
      rw [hphase] at hprogress
      exact ⟨hprogress.1, List.mem_of_mem_filter hid⟩
    case h_5 hphase =>
      rw [hphase] at hprogress
      exact ⟨hprogress.1, hid⟩
    case h_6 hphase =>
      rw [hphase] at hprogress
      exact ⟨hprogress.1, hid⟩
    case h_7 hphase =>
      rw [hphase] at hprogress
      exact ⟨hprogress.1, hid⟩
  obtain ⟨live, hlive, -⟩ := Reconcile.mem_closing_iff.mp hunswapped.2
  exact ⟨live, hunswapped.1.entries ▸ hlive⟩

theorem getInstance_isOpen_iff {id : ProviderInstanceId} (h : registry.Sound) :
    (∀ scope ∈ (registry.getInstance id).toList, scope ∈ registry.openScopes) ↔
      id ∉ registry.closedIds := by
  unfold getInstance
  cases hlive : KeyedMap.get id registry.entries with
  | some live => simpa using h.owned.open_iff hlive
  | none =>
    have hclosed : id ∉ registry.closedIds := by
      intro hid
      obtain ⟨live, hsome⟩ := exposed_of_mem_closedIds h hid
      cases hlive.symm.trans hsome
    simpa using hclosed

theorem listInstances_isOpen_iff (h : registry.Sound) :
    (∀ scope ∈ registry.listInstances, scope ∈ registry.openScopes) ↔
      registry.closedIds = [] := by
  unfold listInstances
  rw [List.eq_nil_iff_forall_not_mem, List.forall_mem_map]
  constructor
  · intro hopen id hid
    obtain ⟨live, hlive⟩ := exposed_of_mem_closedIds h hid
    exact (h.owned.open_iff hlive).mp (hopen _ (KeyedMap.get_eq_some_iff.mp hlive)) hid
  · intro hnone entry hmem
    exact (h.owned.open_iff (KeyedMap.get_eq_some_iff.mpr hmem)).mpr (hnone entry.1)

theorem reads_of_buildEntry {id : ProviderInstanceId}
    (hstep : registry.buildEntry registered id entry rest answer = some after) :
    after.reads = registry.reads := by
  unfold buildEntry at hstep
  split at hstep
  · split at hstep
    · cases hstep
      rfl
    · split at hstep <;> cases hstep
      rfl
  · split at hstep <;> cases hstep
    rfl

theorem reads_of_nextStep (hstep : registry.nextStep registered answer = some after) :
    after.reads = registry.reads := by
  unfold nextStep at hstep
  split at hstep
  case h_5 instanceId entry rest hphase =>
    exact reads_of_buildEntry hstep
  case h_3 instanceId ids hphase =>
    cases hstep
    unfold closeEntry
    cases KeyedMap.get instanceId registry.work.previousEntries <;> rfl
  case h_6 =>
    cases hstep
    cases answer <;> rfl
  all_goals first | (cases hstep; rfl) | cases hstep

theorem step_faithful_iff (h : registry.Sound) (hfaithful : registry.Faithful)
    (hstep : registry.step registered action = some after) :
    after.Faithful ↔ registry.ReadsNothingClosed action := by
  have hmirrors : after.phase = .idle → after.Mirrors := by
    intro hphase
    have hprogress := (step_sound h hstep).progress
    rwa [Progress, hphase] at hprogress
  have hiff : after.Faithful ↔ ∀ read ∈ after.reads, read.IsOpen :=
    ⟨Faithful.reads, fun hreads => ⟨hreads, hmirrors⟩⟩
  rw [hiff]
  have hread : ∀ returned, after = registry.read returned →
      ((∀ read ∈ after.reads, read.IsOpen) ↔
        ∀ scope ∈ returned, scope ∈ registry.openScopes) := by
    rintro returned rfl
    constructor
    · intro hreads
      exact hreads _ (List.mem_append_right _ (List.mem_singleton.mpr rfl))
    · intro hopen read hmem
      rcases List.mem_append.mp hmem with hmem | hmem
      · exact hfaithful.reads read hmem
      · rw [List.mem_singleton.mp hmem]
        exact hopen
  cases action with
  | reconcile configMap =>
    simp only [step] at hstep
    split at hstep <;> cases hstep
    exact ⟨fun _ => trivial, fun _ => hfaithful.reads⟩
  | next answer =>
    rw [reads_of_nextStep hstep]
    exact ⟨fun _ => trivial, fun _ => hfaithful.reads⟩
  | getInstance id =>
    rw [hread _ (Option.some.inj hstep).symm]
    exact getInstance_isOpen_iff h
  | listInstances =>
    rw [hread _ (Option.some.inj hstep).symm]
    exact listInstances_isOpen_iff h

/-- All along a run readers get open instances only, with the registry mirroring the settings
between reconciles, exactly when no read meets an entry that is closed and still exposed. -/
theorem faithful_throughout (registered : ProviderDriverKind → Bool)
    (actions : List (RegistryAction Payload)) :
    Throughout (step registered) Faithful initial actions ↔
      StepsMeet (step registered) ReadsNothingClosed initial actions := by
  refine throughout_iff_stepsMeet (I := Sound) ?_ ?_ initial_sound ?_ actions
  · intro registry action after h hstep
    exact step_sound h hstep
  · intro registry action after h hfaithful hstep
    exact step_faithful_iff h hfaithful hstep
  · exact ⟨fun _ hmem => absurd hmem List.not_mem_nil, fun _ => initial_sound.progress⟩

def settingsOfOne : ProviderInstanceConfigMap Unit :=
  KeyedMap.set "codex"
    { driver := "codex", displayName := none, accentColor := none, environment := none
      enabled := none, config := none } (KeyedTable.empty _)

/-- An instance is created, then taken out of the settings; it is read after its scope is closed. -/
def readWhileRemoved : List (RegistryAction Unit) :=
  [.reconcile settingsOfOne, .next .done, .next .done, .next .done, .next .done, .next .done,
    .next .done, .next .done, .reconcile (KeyedTable.empty _), .next .done, .getInstance "codex"]

theorem not_faithful_throughout :
    ¬ ∀ (registered : ProviderDriverKind → Bool) (actions : List (RegistryAction Unit)),
      Throughout (step registered) Faithful initial actions := by
  intro h
  have hreads : (exec (step fun _ => true) initial readWhileRemoved).map reads =
      some [{ returned := [0], openScopes := [] }] := rfl
  obtain ⟨final, hfinal, hread⟩ := Option.map_eq_some_iff.mp hreads
  have hopen := ((h (fun _ => true) readWhileRemoved).final hfinal).reads _
    (hread ▸ List.mem_singleton_self _)
  exact absurd (hopen 0 (List.mem_singleton_self 0)) List.not_mem_nil

end InstanceRegistry

end GT3Code.Provider
