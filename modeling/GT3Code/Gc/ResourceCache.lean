import GT3Code.Base.KeyedMap
import GT3Code.Base.Runs

/-! # The resource cache

A cache with a time to live that keeps the promise of a running load for later callers. The
synchronous part of every call is one step. A load settles by a step of its own, and then the
`finally` handler and the continuation after the `await` follow as two more.
-/

namespace GT3Code.Gc

open GT3Code.Base

universe u v w

/-- `ttlMs` after `Math.max(0, ttlMs)`, and `maxEntries` with its default. -/
structure ResourceCacheOptions where
  ttlMs : Nat
  maxEntries : Int

/-- `loadedBy` is the number of the load that gave the value. -/
structure CacheEntry (V : Type v) where
  value : V
  expiresAt : Int
  loadedBy : Nat

/-- How far a load is; an outcome is `none` where the loader rejects. -/
inductive LoadPhase (V : Type v) where
  | pending
  | settled (outcome : Option V)
  | handled (outcome : Option V)
  | finished (outcome : Option V)
  deriving DecidableEq

/-- What the promise that callers await has settled with; it does once the handler has run. -/
def LoadPhase.outcome? {V : Type v} : LoadPhase V → Option (Option V)
  | .handled outcome => some outcome
  | .finished outcome => some outcome
  | _ => none

/-- `epoch` counts the invalidations of the key before the load was started. -/
structure Load (K : Type u) (V : Type v) where
  key : K
  epoch : Nat
  phase : LoadPhase V
  deriving DecidableEq

/-- A call of `get` that awaits a load it did not start. -/
structure Waiter where
  epoch : Nat
  load : Nat

/-- A call of `get` that resolved: invalidations of its key before it, and the load the value
is from. -/
structure Answer (K : Type u) (V : Type v) where
  key : K
  epoch : Nat
  load : Nat
  value : V
  deriving DecidableEq

structure ResourceCache (K : Type u) (V : Type v) where
  now : Int
  store : KeyedMap K (CacheEntry V)
  inflight : KeyedMap K Nat
  loads : List (Load K V)
  waiters : List Waiter
  answers : List (Answer K V)
  invalidations : List (Option K)

/-- A call of `invalidate` without a key is for every key. -/
inductive CacheStep (K : Type u) (V : Type v) where
  | get (key : K)
  | settle (load : Nat) (outcome : Option V)
  | handleSettled (load : Nat)
  | continueGet (load : Nat)
  | resumeWaiter (waiter : Nat)
  | invalidate (key : Option K)
  | advance (ms : Nat)

namespace ResourceCache

variable {K : Type u} {V : Type v} [DecidableEq K]

def create (now : Int) : ResourceCache K V :=
  ⟨now, KeyedTable.empty _, KeyedTable.empty _, [], [], [], []⟩

def Covers (invalidated : Option K) (key : K) : Prop := invalidated = none ∨ invalidated = some key

instance (invalidated : Option K) (key : K) : Decidable (Covers invalidated key) :=
  inferInstanceAs (Decidable (_ ∨ _))

/-- The calls of `invalidate` so far that cover the key. -/
def epochOf (key : K) (cache : ResourceCache K V) : Nat :=
  cache.invalidations.countP (fun invalidated => Covers invalidated key)

def cleanupExpired (now : Int) (store : KeyedMap K (CacheEntry V)) : KeyedMap K (CacheEntry V) :=
  store.restrict (fun entry => !decide (entry.2.expiresAt ≤ now))

/-- The loop of `enforceSizeLimit`, with the entries that are there from the oldest on. -/
def deleteOldest (maxEntries : Int) :
    List (K × CacheEntry V) → KeyedMap K (CacheEntry V) → KeyedMap K (CacheEntry V)
  | [], store => store
  | (oldestKey, _) :: entries, store =>
    if (store.rows.length : Int) > maxEntries then
      deleteOldest maxEntries entries (KeyedMap.delete oldestKey store)
    else store

def enforceSizeLimit (maxEntries : Int) (store : KeyedMap K (CacheEntry V)) :
    KeyedMap K (CacheEntry V) :=
  deleteOldest maxEntries store.rows store

def setPhase (load : Nat) (phase : LoadPhase V) (loads : List (Load K V)) : List (Load K V) :=
  loads.modify load (fun running => { running with phase })

def get (key : K) (cache : ResourceCache K V) : ResourceCache K V :=
  match (KeyedMap.get key cache.store).filter (fun entry => entry.expiresAt > cache.now) with
  | some entry =>
    { cache with
      answers := cache.answers ++ [⟨key, cache.epochOf key, entry.loadedBy, entry.value⟩] }
  | none =>
    -- deleting an entry that is not there changes nothing
    let store := KeyedMap.delete key cache.store
    match KeyedMap.get key cache.inflight with
    | some existing =>
      { cache with store, waiters := cache.waiters ++ [⟨cache.epochOf key, existing⟩] }
    | none =>
      { cache with
        store
        loads := cache.loads ++ [⟨key, cache.epochOf key, .pending⟩]
        inflight := KeyedMap.set key cache.loads.length cache.inflight }

def settle (load : Nat) (outcome : Option V) (cache : ResourceCache K V) :
    Option (ResourceCache K V) :=
  match cache.loads[load]? with
  | some ⟨_, _, .pending⟩ =>
    some { cache with loads := setPhase load (.settled outcome) cache.loads }
  | _ => none

/-- `inflight.delete(key)`, whatever promise the key has. -/
def handleSettled (load : Nat) (cache : ResourceCache K V) : Option (ResourceCache K V) :=
  match cache.loads[load]? with
  | some ⟨key, _, .settled outcome⟩ =>
    some { cache with
      loads := setPhase load (.handled outcome) cache.loads
      inflight := KeyedMap.delete key cache.inflight }
  | _ => none

/-- After the `await` of the caller that started the load. -/
def continueGet (options : ResourceCacheOptions) (load : Nat) (cache : ResourceCache K V) :
    Option (ResourceCache K V) :=
  match cache.loads[load]? with
  | some ⟨key, epoch, .handled (some value)⟩ =>
    let store :=
      if options.ttlMs > 0 then
        let entry : CacheEntry V := ⟨value, cache.now + options.ttlMs, load⟩
        enforceSizeLimit options.maxEntries
          (cleanupExpired cache.now (KeyedMap.set key entry cache.store))
      else cache.store
    some { cache with
      store
      loads := setPhase load (.finished (some value)) cache.loads
      answers := cache.answers ++ [⟨key, epoch, load, value⟩] }
  | some ⟨key, _, .handled none⟩ =>
    some { cache with
      store := KeyedMap.delete key cache.store
      loads := setPhase load (.finished none) cache.loads }
  | _ => none

def resumeWaiter (waiter : Nat) (cache : ResourceCache K V) : Option (ResourceCache K V) :=
  (cache.waiters[waiter]?).bind (fun waiting =>
    (cache.loads[waiting.load]?).bind (fun load =>
      load.phase.outcome?.map (fun outcome =>
        { cache with
          waiters := cache.waiters.eraseIdx waiter
          answers := cache.answers ++
            (outcome.map (fun value => ⟨load.key, waiting.epoch, waiting.load, value⟩)).toList })))

/-- `clear()` without a key, else `delete(key)`. -/
def forget {W : Type w} (key : Option K) (map : KeyedMap K W) : KeyedMap K W :=
  match key with
  | none => KeyedTable.empty _
  | some key => KeyedMap.delete key map

def invalidate (key : Option K) (cache : ResourceCache K V) : ResourceCache K V :=
  { cache with
    invalidations := cache.invalidations ++ [key]
    store := forget key cache.store
    inflight := forget key cache.inflight }

def step (options : ResourceCacheOptions) (cache : ResourceCache K V) :
    CacheStep K V → Option (ResourceCache K V)
  | .get key => some (cache.get key)
  | .settle load outcome => cache.settle load outcome
  | .handleSettled load => cache.handleSettled load
  | .continueGet load => cache.continueGet options load
  | .resumeWaiter waiter => cache.resumeWaiter waiter
  | .invalidate key => some (cache.invalidate key)
  | .advance ms => some { cache with now := cache.now + ms }

def Unhandled : LoadPhase V → Prop
  | .pending => True
  | .settled _ => True
  | _ => False

/-- A caller is answered with a value whose load was started after every invalidation that
came before the call, at most one load of a key runs between two invalidations, and the store
is within its limit. -/
structure Fresh (options : ResourceCacheOptions) (cache : ResourceCache K V) : Prop where
  answers : ∀ answer ∈ cache.answers, ∃ load, cache.loads[answer.load]? = some load ∧
    load.key = answer.key ∧ load.phase.outcome? = some (some answer.value) ∧
    answer.epoch ≤ load.epoch
  single : ∀ (m n : Nat) (left right : Load K V), cache.loads[m]? = some left →
    cache.loads[n]? = some right → left.phase = .pending → right.phase = .pending →
    left.key = right.key → left.epoch = right.epoch → m = n
  size : (cache.store.rows.length : Int) ≤ options.maxEntries

/-- `Fresh`, and how store, promises and loads belong together. -/
structure Sound (options : ResourceCacheOptions) (cache : ResourceCache K V) : Prop where
  fresh : Fresh options cache
  epochs : ∀ (n : Nat) (load : Load K V), cache.loads[n]? = some load →
    load.epoch ≤ cache.epochOf load.key
  running : ∀ key n, KeyedMap.get key cache.inflight = some n →
    ∃ load, cache.loads[n]? = some load ∧ load.epoch = cache.epochOf key
  kept : ∀ (n : Nat) (load : Load K V), cache.loads[n]? = some load → Unhandled load.phase →
    load.epoch = cache.epochOf load.key → KeyedMap.get load.key cache.inflight = some n
  stored : ∀ key entry, KeyedMap.get key cache.store = some entry →
    ∃ load, cache.loads[entry.loadedBy]? = some load ∧ load.key = key ∧
      load.phase.outcome? = some (some entry.value) ∧ load.epoch = cache.epochOf key
  waiting : ∀ waiter ∈ cache.waiters, ∃ load, cache.loads[waiter.load]? = some load ∧
    waiter.epoch ≤ load.epoch

/-- The handler finds its own promise or none, and a value is stored for a key that was not
invalidated since its load was started. -/
def StepIsSafe (options : ResourceCacheOptions) (cache : ResourceCache K V) :
    CacheStep K V → Prop
  | .handleSettled n => ∀ load ∈ cache.loads[n]?,
      ∀ running ∈ KeyedMap.get load.key cache.inflight, running = n
  | .continueGet n => ∀ load ∈ cache.loads[n]?,
      options.ttlMs > 0 → (load.phase.outcome?.bind id).isSome →
        load.epoch = cache.epochOf load.key
  | _ => True

instance (options : ResourceCacheOptions) (cache : ResourceCache K V) :
    ∀ step, Decidable (StepIsSafe options cache step)
  | .handleSettled _ => inferInstanceAs (Decidable (∀ load ∈ _, ∀ running ∈ _, _))
  | .continueGet _ => inferInstanceAs (Decidable (∀ load ∈ _, _ → _ → _))
  | .get _ => isTrue trivial
  | .settle _ _ => isTrue trivial
  | .resumeWaiter _ => isTrue trivial
  | .invalidate _ => isTrue trivial
  | .advance _ => isTrue trivial

omit [DecidableEq K] in
theorem getElem?_setPhase (n m : Nat) (phase : LoadPhase V) (loads : List (Load K V)) :
    (setPhase n phase loads)[m]? =
      if n = m then loads[m]?.map (fun load => { load with phase }) else loads[m]? := by
  rw [setPhase, List.getElem?_modify]
  by_cases h : n = m <;> simp [h]

omit [DecidableEq K] in
theorem getElem?_setPhase_eq_some {n m : Nat} {phase : LoadPhase V} {loads : List (Load K V)}
    {old load : Load K V} (hold : loads[n]? = some old)
    (h : (setPhase n phase loads)[m]? = some load) :
    m = n ∧ load = { old with phase } ∨ m ≠ n ∧ loads[m]? = some load := by
  rw [getElem?_setPhase] at h
  by_cases hm : n = m
  · subst hm
    rw [if_pos rfl, hold] at h
    exact Or.inl ⟨rfl, (Option.some.inj h).symm⟩
  · rw [if_neg hm] at h
    exact Or.inr ⟨Ne.symm hm, h⟩

variable {store : KeyedMap K (CacheEntry V)} {key : K} {entry : CacheEntry V}
  {entries : List (K × CacheEntry V)} {loads : List (Load K V)} {n : Nat} {old : Load K V}
  {phase : LoadPhase V}

theorem rows_delete_head (h : store.rows = (key, entry) :: entries) :
    (KeyedMap.delete key store).rows = entries := by
  have hkeys := KeyedMap.nodup_keys store
  rw [h, List.map_cons, List.nodup_cons] at hkeys
  rw [KeyedMap.delete, KeyedTable.rows_restrict, h, List.filter_cons_of_neg (by simp),
    List.filter_eq_self]
  intro other hother
  have hne : other.1 ≠ key := fun heq => hkeys.1 (List.mem_map.mpr ⟨other, hother, heq⟩)
  simpa using hne

variable {maxEntries : Int}

theorem length_deleteOldest (h : 0 ≤ maxEntries) (hrows : store.rows = entries) :
    ((deleteOldest maxEntries entries store).rows.length : Int) ≤ maxEntries := by
  induction entries generalizing store with
  | nil =>
    rw [deleteOldest, hrows]
    exact h
  | cons entry entries ih =>
    rw [deleteOldest]
    split
    · exact ih (rows_delete_head hrows)
    · omega

theorem get_deleteOldest
    (h : KeyedMap.get key (deleteOldest maxEntries entries store) = some entry) :
    KeyedMap.get key store = some entry := by
  induction entries generalizing store with
  | nil => exact h
  | cons oldest entries ih =>
    rw [deleteOldest] at h
    split at h
    · exact KeyedMap.get_of_get_delete (ih h)
    · exact h

theorem get_stored {options : ResourceCacheOptions} {now : Int} {other : K} {found : CacheEntry V}
    (h : KeyedMap.get other (enforceSizeLimit options.maxEntries
      (cleanupExpired now (KeyedMap.set key entry store))) = some found) :
    other = key ∧ found = entry ∨ other ≠ key ∧ KeyedMap.get other store = some found := by
  have hset := KeyedMap.get_of_get_restrict (get_deleteOldest h)
  by_cases hkey : other = key
  · subst hkey
    rw [KeyedMap.get_set_self] at hset
    exact Or.inl ⟨rfl, (Option.some.inj hset).symm⟩
  · rw [KeyedMap.get_set_of_ne hkey] at hset
    exact Or.inr ⟨hkey, hset⟩

/-- Loads only go on: the key and the epoch stay, and a value that callers are given does. -/
def GoOn (loads next : List (Load K V)) : Prop :=
  ∀ (n : Nat) (load : Load K V), loads[n]? = some load →
    ∃ later, next[n]? = some later ∧ later.key = load.key ∧ later.epoch = load.epoch ∧
      ∀ outcome, load.phase.outcome? = some outcome → later.phase.outcome? = some outcome

omit [DecidableEq K] in
theorem goOn_concat (loads : List (Load K V)) (load : Load K V) : GoOn loads (loads ++ [load]) := by
  intro n earlier h
  refine ⟨earlier, ?_, rfl, rfl, fun _ h => h⟩
  rw [List.getElem?_append_left (List.getElem?_eq_some_iff.mp h).1, h]

omit [DecidableEq K] in
theorem goOn_setPhase {n : Nat} {load : Load K V} {phase : LoadPhase V}
    {loads : List (Load K V)} (hload : loads[n]? = some load)
    (hphase : ∀ outcome, load.phase.outcome? = some outcome → phase.outcome? = some outcome) :
    GoOn loads (setPhase n phase loads) := by
  intro m earlier h
  rw [getElem?_setPhase]
  by_cases hm : n = m
  · subst hm
    cases Option.some.inj (hload.symm.trans h)
    rw [if_pos rfl, h]
    exact ⟨_, rfl, rfl, rfl, hphase⟩
  · rw [if_neg hm]
    exact ⟨earlier, h, rfl, rfl, fun _ h => h⟩

variable {options : ResourceCacheOptions} {cache next : ResourceCache K V}

theorem Sound.answers_of_goOn (h : Sound options cache) (hgo : GoOn cache.loads loads) :
    ∀ answer ∈ cache.answers,
      ∃ load, loads[answer.load]? = some load ∧ load.key = answer.key ∧
        load.phase.outcome? = some (some answer.value) ∧ answer.epoch ≤ load.epoch := by
  intro answer hanswer
  obtain ⟨load, hload, hkey, hphase, hepoch⟩ := h.fresh.answers answer hanswer
  obtain ⟨later, hlater, hsame, hsameEpoch, houtcome⟩ := hgo _ _ hload
  exact ⟨later, hlater, hsame.trans hkey, houtcome _ hphase, hsameEpoch ▸ hepoch⟩

theorem Sound.waiting_of_goOn (h : Sound options cache) (hgo : GoOn cache.loads loads) :
    ∀ waiter ∈ cache.waiters,
      ∃ load, loads[waiter.load]? = some load ∧ waiter.epoch ≤ load.epoch := by
  intro waiter hwaiter
  obtain ⟨load, hload, hepoch⟩ := h.waiting waiter hwaiter
  obtain ⟨later, hlater, -, hsameEpoch, -⟩ := hgo _ _ hload
  exact ⟨later, hlater, hsameEpoch ▸ hepoch⟩

theorem Sound.running_of_goOn (h : Sound options cache) (hgo : GoOn cache.loads loads)
    (hrunning : KeyedMap.get key cache.inflight = some n) :
    ∃ load, loads[n]? = some load ∧ load.epoch = cache.epochOf key := by
  obtain ⟨load, hload, hepoch⟩ := h.running key n hrunning
  obtain ⟨later, hlater, -, hsameEpoch, -⟩ := hgo _ _ hload
  exact ⟨later, hlater, hsameEpoch.trans hepoch⟩

theorem Sound.stored_of_goOn (h : Sound options cache) (hgo : GoOn cache.loads loads)
    (hentry : KeyedMap.get key cache.store = some entry) :
    ∃ load, loads[entry.loadedBy]? = some load ∧ load.key = key ∧
      load.phase.outcome? = some (some entry.value) ∧ load.epoch = cache.epochOf key := by
  obtain ⟨load, hload, hkey, hphase, hepoch⟩ := h.stored key entry hentry
  obtain ⟨later, hlater, hsame, hsameEpoch, houtcome⟩ := hgo _ _ hload
  exact ⟨later, hlater, hsame.trans hkey, houtcome _ hphase, hsameEpoch.trans hepoch⟩

/-! ## Steps -/

theorem Sound.size_delete (h : Sound options cache) (key : K) :
    ((KeyedMap.delete key cache.store).rows.length : Int) ≤ options.maxEntries := by
  have hle : (KeyedMap.delete key cache.store).rows.length ≤ cache.store.rows.length :=
    List.length_filter_le _ _
  have hlimit := h.fresh.size
  omega

theorem Sound.get (h : Sound options cache) (key : K) : Sound options (cache.get key) := by
  unfold ResourceCache.get
  split
  · rename_i entry hentry
    obtain ⟨hstored, -⟩ := Option.filter_eq_some_iff.mp hentry
    obtain ⟨load, hload, hkey, hphase, hepoch⟩ := h.stored key entry hstored
    refine ⟨⟨?_, h.fresh.single, h.fresh.size⟩, h.epochs, h.running, h.kept, h.stored, h.waiting⟩
    intro answer hanswer
    rcases List.mem_append.mp hanswer with hold | hnew
    · exact h.fresh.answers answer hold
    · rw [List.mem_singleton.mp hnew]
      exact ⟨load, hload, hkey, hphase, Nat.le_of_eq hepoch.symm⟩
  · have hsize := h.size_delete key
    dsimp only
    split
    · rename_i existing hexisting
      obtain ⟨load, hload, hepoch⟩ := h.running key existing hexisting
      refine ⟨⟨h.fresh.answers, h.fresh.single, hsize⟩, h.epochs, h.running, h.kept,
        fun other entry hentry => h.stored other entry (KeyedMap.get_of_get_delete hentry), ?_⟩
      intro waiter hwaiter
      rcases List.mem_append.mp hwaiter with hold | hnew
      · exact h.waiting waiter hold
      · rw [List.mem_singleton.mp hnew]
        exact ⟨load, hload, Nat.le_of_eq hepoch.symm⟩
    · rename_i hnone
      have hgo := goOn_concat cache.loads ⟨key, cache.epochOf key, .pending⟩
      have hsplit : ∀ (n : Nat) (load : Load K V),
          (cache.loads ++ [⟨key, cache.epochOf key, .pending⟩])[n]? = some load →
          cache.loads[n]? = some load ∨
            n = cache.loads.length ∧ load = ⟨key, cache.epochOf key, .pending⟩ := by
        intro n load hload
        rcases Nat.lt_trichotomy n cache.loads.length with hlt | heq | hgt
        · rw [List.getElem?_append_left hlt] at hload
          exact Or.inl hload
        · subst heq
          rw [List.getElem?_concat_length] at hload
          exact Or.inr ⟨rfl, (Option.some.inj hload).symm⟩
        · rw [List.getElem?_eq_none (by rw [List.length_append]; exact hgt)] at hload
          cases hload
      have hfree : ∀ (n : Nat) (load : Load K V), cache.loads[n]? = some load →
          Unhandled load.phase → load.key = key → load.epoch ≠ cache.epochOf key := by
        intro n load hload hphase hkey hepoch
        have hkept := h.kept n load hload hphase (hkey ▸ hepoch)
        rw [hkey, hnone] at hkept
        cases hkept
      refine ⟨⟨h.answers_of_goOn hgo, ?_, hsize⟩, ?_, ?_, ?_, ?_, h.waiting_of_goOn hgo⟩
      · intro m n left right hleft hright hpending hpending' hkey hepoch
        rcases hsplit m left hleft with hold | ⟨rfl, rfl⟩
        · rcases hsplit n right hright with hold' | ⟨rfl, rfl⟩
          · exact h.fresh.single m n left right hold hold' hpending hpending' hkey hepoch
          · exact absurd hepoch (hfree m left hold (by rw [hpending]; trivial) hkey)
        · rcases hsplit n right hright with hold' | ⟨rfl, rfl⟩
          · exact absurd hepoch.symm (hfree n right hold' (by rw [hpending']; trivial) hkey.symm)
          · rfl
      · intro n load hload
        rcases hsplit n load hload with hold | ⟨rfl, rfl⟩
        · exact h.epochs n load hold
        · exact Nat.le_refl _
      · intro other n hget
        by_cases hother : other = key
        · subst hother
          rw [KeyedMap.get_set_self] at hget
          cases hget
          exact ⟨_, List.getElem?_concat_length, rfl⟩
        · rw [KeyedMap.get_set_of_ne hother] at hget
          exact h.running_of_goOn hgo hget
      · intro n load hload hphase hepoch
        rcases hsplit n load hload with hold | ⟨rfl, rfl⟩
        · have hne : load.key ≠ key := fun hkey => hfree n load hold hphase hkey (hkey ▸ hepoch)
          rw [KeyedMap.get_set_of_ne hne]
          exact h.kept n load hold hphase hepoch
        · exact KeyedMap.get_set_self _ _ _
      · intro other entry hentry
        exact h.stored_of_goOn hgo (KeyedMap.get_of_get_delete hentry)

theorem Sound.single_setPhase (h : Sound options cache) (hold : cache.loads[n]? = some old)
    (hphase : phase ≠ .pending) (m k : Nat) (left right : Load K V)
    (hleft : (setPhase n phase cache.loads)[m]? = some left)
    (hright : (setPhase n phase cache.loads)[k]? = some right) (hpending : left.phase = .pending)
    (hpending' : right.phase = .pending) :
    left.key = right.key → left.epoch = right.epoch → m = k := by
  rcases getElem?_setPhase_eq_some hold hleft with ⟨-, rfl⟩ | ⟨-, hleft⟩
  · exact absurd hpending hphase
  · rcases getElem?_setPhase_eq_some hold hright with ⟨-, rfl⟩ | ⟨-, hright⟩
    · exact absurd hpending' hphase
    · exact h.fresh.single m k left right hleft hright hpending hpending'

theorem Sound.epochs_setPhase (h : Sound options cache) (hold : cache.loads[n]? = some old)
    (m : Nat) (load : Load K V) (hm : (setPhase n phase cache.loads)[m]? = some load) :
    load.epoch ≤ cache.epochOf load.key := by
  rcases getElem?_setPhase_eq_some hold hm with ⟨rfl, rfl⟩ | ⟨-, hm⟩
  · exact h.epochs m old hold
  · exact h.epochs m load hm

theorem Sound.kept_setPhase (h : Sound options cache) (hold : cache.loads[n]? = some old)
    (hphase : Unhandled phase → Unhandled old.phase) (m : Nat) (load : Load K V)
    (hm : (setPhase n phase cache.loads)[m]? = some load) (hunhandled : Unhandled load.phase)
    (hepoch : load.epoch = cache.epochOf load.key) :
    KeyedMap.get load.key cache.inflight = some m := by
  rcases getElem?_setPhase_eq_some hold hm with ⟨rfl, rfl⟩ | ⟨-, hm⟩
  · exact h.kept m old hold (hphase hunhandled) hepoch
  · exact h.kept m load hm hunhandled hepoch

theorem Sound.settle (h : Sound options cache) {outcome : Option V}
    (hstep : cache.settle n outcome = some next) : Sound options next := by
  unfold ResourceCache.settle at hstep
  split at hstep
  · rename_i key epoch hload
    cases hstep
    have hgo := @goOn_setPhase _ _ _ _ (.settled outcome) _ hload nofun
    exact ⟨⟨h.answers_of_goOn hgo, h.single_setPhase hload nofun, h.fresh.size⟩,
      h.epochs_setPhase hload, fun _ _ => h.running_of_goOn hgo,
      h.kept_setPhase hload (fun _ => trivial), fun _ _ => h.stored_of_goOn hgo,
      h.waiting_of_goOn hgo⟩
  · cases hstep

theorem Sound.handleSettled (h : Sound options cache)
    (hsafe : StepIsSafe options cache (.handleSettled n))
    (hstep : cache.handleSettled n = some next) : Sound options next := by
  unfold ResourceCache.handleSettled at hstep
  split at hstep
  · rename_i key epoch outcome hload
    cases hstep
    have hgo := @goOn_setPhase _ _ _ _ (.handled outcome) _ hload nofun
    refine ⟨⟨h.answers_of_goOn hgo, h.single_setPhase hload nofun, h.fresh.size⟩,
      h.epochs_setPhase hload,
      fun other k hget => h.running_of_goOn hgo (KeyedMap.get_of_get_delete hget), ?_,
      fun _ _ => h.stored_of_goOn hgo, h.waiting_of_goOn hgo⟩
    intro m load hm hphase hepoch
    rcases getElem?_setPhase_eq_some hload hm with ⟨rfl, rfl⟩ | ⟨hne, hm⟩
    · cases hphase
    · have hkept := h.kept m load hm hphase hepoch
      by_cases hkey : load.key = key
      · exact absurd (hsafe _ hload m (hkey ▸ hkept)) hne
      · exact (KeyedMap.get_delete_of_ne hkey _).trans hkept
  · cases hstep

theorem Sound.continueGet (h : Sound options cache) (hmax : 0 ≤ options.maxEntries)
    (hsafe : StepIsSafe options cache (.continueGet n))
    (hstep : cache.continueGet options n = some next) : Sound options next := by
  unfold ResourceCache.continueGet at hstep
  split at hstep
  · rename_i key epoch value hload
    cases hstep
    have hgo := @goOn_setPhase _ _ _ _ (.finished (some value)) _ hload (fun _ h => h)
    have hfinished : (setPhase n (.finished (some value)) cache.loads)[n]? =
        some ⟨key, epoch, .finished (some value)⟩ := by
      rw [getElem?_setPhase, if_pos rfl, hload]
      rfl
    refine ⟨⟨?_, h.single_setPhase hload (fun h => by cases h), ?_⟩, h.epochs_setPhase hload,
      fun _ _ => h.running_of_goOn hgo, h.kept_setPhase hload id, ?_, h.waiting_of_goOn hgo⟩
    · intro answer hanswer
      rcases List.mem_append.mp hanswer with hold | hnew
      · exact h.answers_of_goOn hgo answer hold
      · rw [List.mem_singleton.mp hnew]
        exact ⟨_, hfinished, rfl, rfl, Nat.le_refl _⟩
    · dsimp only
      split
      · exact length_deleteOldest hmax rfl
      · exact h.fresh.size
    · intro other entry hentry
      dsimp only at hentry
      split at hentry
      · rename_i httl
        rcases get_stored hentry with ⟨rfl, rfl⟩ | ⟨-, hold⟩
        · have hepoch := hsafe _ hload httl rfl
          exact ⟨_, hfinished, rfl, rfl, hepoch⟩
        · exact h.stored_of_goOn hgo hold
      · exact h.stored_of_goOn hgo hentry
  · rename_i key epoch hload
    cases hstep
    have hgo := @goOn_setPhase _ _ _ _ (.finished none) _ hload (fun _ h => h)
    exact ⟨⟨h.answers_of_goOn hgo, h.single_setPhase hload (fun h => by cases h),
        h.size_delete key⟩,
      h.epochs_setPhase hload, fun _ _ => h.running_of_goOn hgo, h.kept_setPhase hload id,
      fun _ _ hentry => h.stored_of_goOn hgo (KeyedMap.get_of_get_delete hentry),
      h.waiting_of_goOn hgo⟩
  · cases hstep

theorem Sound.resumeWaiter (h : Sound options cache) (hstep : cache.resumeWaiter n = some next) :
    Sound options next := by
  obtain ⟨waiter, hwaiter, hstep⟩ := Option.bind_eq_some_iff.mp hstep
  obtain ⟨load, hload, hstep⟩ := Option.bind_eq_some_iff.mp hstep
  obtain ⟨outcome, houtcome, rfl⟩ := Option.map_eq_some_iff.mp hstep
  refine ⟨⟨?_, h.fresh.single, h.fresh.size⟩, h.epochs, h.running, h.kept, h.stored, ?_⟩
  · intro answer hanswer
    rcases List.mem_append.mp hanswer with hold | hnew
    · exact h.fresh.answers answer hold
    · obtain ⟨value, rfl, rfl⟩ := Option.map_eq_some_iff.mp (Option.mem_toList.mp hnew)
      obtain ⟨found, hfound, hepoch⟩ := h.waiting waiter (List.mem_of_getElem? hwaiter)
      cases Option.some.inj (hload.symm.trans hfound)
      exact ⟨load, hload, rfl, houtcome, hepoch⟩
  · exact fun waiter hwaiter => h.waiting waiter (List.mem_of_mem_eraseIdx hwaiter)

theorem epochOf_invalidate (key : K) (invalidated : Option K) (cache : ResourceCache K V) :
    (cache.invalidate invalidated).epochOf key =
      cache.epochOf key + if Covers invalidated key then 1 else 0 := by
  simp only [epochOf, ResourceCache.invalidate, List.countP_append, List.countP_singleton,
    decide_eq_true_eq]

theorem get_forget {W : Type w} {invalidated : Option K} {map : KeyedMap K W} {value : W} :
    KeyedMap.get key (forget invalidated map) = some value ↔
      ¬Covers invalidated key ∧ KeyedMap.get key map = some value := by
  cases invalidated with
  | none => simp [forget, Covers]
  | some other =>
    by_cases hkey : key = other
    · subst hkey
      simp [forget, Covers]
    · have hother : other ≠ key := Ne.symm hkey
      simp [forget, Covers, KeyedMap.get_delete_of_ne hkey, hother]

theorem Sound.invalidate (h : Sound options cache) (invalidated : Option K) :
    Sound options (cache.invalidate invalidated) := by
  have hsize : ((forget invalidated cache.store).rows.length : Int) ≤ options.maxEntries := by
    cases invalidated with
    | none =>
      have hlimit := h.fresh.size
      simp only [forget, KeyedTable.empty, List.length_nil]
      omega
    | some key => exact h.size_delete key
  have hepoch : ∀ {key : K}, ¬Covers invalidated key →
      (cache.invalidate invalidated).epochOf key = cache.epochOf key := by
    intro key hcovers
    rw [epochOf_invalidate, if_neg hcovers, Nat.add_zero]
  refine ⟨⟨h.fresh.answers, h.fresh.single, hsize⟩, ?_, ?_, ?_, ?_, h.waiting⟩
  · intro n load hload
    have hle := h.epochs n load hload
    rw [epochOf_invalidate]
    omega
  · intro key n hget
    obtain ⟨hcovers, hget⟩ := get_forget.mp hget
    rw [hepoch hcovers]
    exact h.running key n hget
  · intro n load hload hphase hsame
    have hcovers : ¬Covers invalidated load.key := by
      intro hcovers
      have hle := h.epochs n load hload
      rw [epochOf_invalidate, if_pos hcovers] at hsame
      omega
    rw [hepoch hcovers] at hsame
    exact get_forget.mpr ⟨hcovers, h.kept n load hload hphase hsame⟩
  · intro key entry hget
    obtain ⟨hcovers, hget⟩ := get_forget.mp hget
    rw [hepoch hcovers]
    exact h.stored key entry hget

theorem sound_create (hmax : 0 ≤ options.maxEntries) (now : Int) :
    Sound options (create now : ResourceCache K V) := by
  refine ⟨⟨nofun, ?_, hmax⟩, ?_, nofun, ?_, nofun, nofun⟩
  · exact nofun
  · exact nofun
  · exact nofun

theorem sound_step (hmax : 0 ≤ options.maxEntries) (h : Sound options cache)
    {action : CacheStep K V} (hsafe : StepIsSafe options cache action)
    (hstep : step options cache action = some next) : Sound options next := by
  cases action with
  | get key =>
    cases hstep
    exact h.get key
  | settle n outcome => exact h.settle hstep
  | handleSettled n => exact h.handleSettled hsafe hstep
  | continueGet n => exact h.continueGet hmax hsafe hstep
  | resumeWaiter n => exact h.resumeWaiter hstep
  | invalidate invalidated =>
    cases hstep
    exact h.invalidate invalidated
  | advance ms =>
    cases hstep
    exact ⟨⟨h.fresh.answers, h.fresh.single, h.fresh.size⟩, h.epochs, h.running, h.kept,
      h.stored, h.waiting⟩

/-- In a run in which no handler takes away another load's promise and no load is stored past
an invalidation of its key, callers get what they rely on. -/
theorem fresh_of_safe_steps (options : ResourceCacheOptions) (hmax : 0 ≤ options.maxEntries)
    (now : Int) (steps : List (CacheStep K V))
    (hsafe : StepsMeet (step options) (StepIsSafe options) (create now) steps) :
    Throughout (step options) (Fresh options) (create now) steps :=
  (throughout_of_stepsMeet (fun _ _ _ h hsafe hstep => sound_step hmax h hsafe hstep)
    (sound_create hmax now) hsafe).imp (fun _ h => h.fresh)

def oneSecond : ResourceCacheOptions := ⟨1000, 256⟩

/-- A value is loaded and stored, then invalidated and loaded again. -/
def reloading : List (CacheStep Nat String) :=
  [.get 0, .settle 0 (some "old"), .handleSettled 0, .continueGet 0, .get 0, .invalidate (some 0),
    .get 0, .get 0, .settle 1 (some "new"), .handleSettled 1, .continueGet 1, .resumeWaiter 0]

theorem fresh_reloading :
    Throughout (step oneSecond) (Fresh oneSecond) (create 0) reloading :=
  fresh_of_safe_steps oneSecond (by decide) 0 reloading (by decide +kernel)

def outlived : List (CacheStep Nat String) :=
  [.get 0, .invalidate (some 0), .settle 0 (some "old"), .handleSettled 0, .continueGet 0, .get 0]

/-- The value is stored nevertheless, and a later caller is answered with it. -/
theorem not_fresh :
    ¬ ∀ (options : ResourceCacheOptions) (_ : 0 ≤ options.maxEntries) (now : Int)
        (steps : List (CacheStep Nat String)),
        Throughout (step options) (Fresh options) (create now) steps := by
  intro h
  have hend : (exec (step oneSecond) (create 0) outlived).any (fun cache =>
      decide ((⟨0, 1, 0, "old"⟩ : Answer Nat String) ∈ cache.answers ∧
        cache.loads = [⟨0, 0, .finished (some "old")⟩])) = true := by decide +kernel
  obtain ⟨cache, hexec, hstate⟩ := (Option.any_eq_true _ _).mp hend
  obtain ⟨hanswer, hloads⟩ := of_decide_eq_true hstate
  obtain ⟨load, hload, -, -, hepoch⟩ :=
    ((h oneSecond (by decide) 0 outlived).final hexec).answers _ hanswer
  rw [hloads] at hload
  cases hload
  exact absurd hepoch (by decide)

end ResourceCache

end GT3Code.Gc
