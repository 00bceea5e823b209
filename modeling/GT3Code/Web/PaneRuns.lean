import GT3Code.Web.PaneSplits

/-! # Terminals stay partitioned

What the store has of a thread after an action is what it had, or what the transition made of it.
-/

namespace GT3Code.Web

open GT3Code.Base GT3Code.Base.Json GT3Code.Contracts

variable {states : TerminalStates} {threadRef other : ScopedThreadRef}
  {updater : ThreadTerminalState → ThreadTerminalState}

theorem persistedFits_of_panesPartition {persisted : ThreadTerminalState}
    (h : PanesPartition (normalizeThreadTerminalState persisted)) : PersistedFits persisted := by
  have hgroups := groupsPartition_normalizeTerminalGroups persisted.terminalGroups
    (terminalIds_normalizeTerminalIds persisted.terminalIds)
  refine ⟨fun group hgroup hid => ?_, fun left hleft right hright heq hterminal => ?_⟩
  · obtain ⟨active, hactive, hid', hmem⟩ := h.activeGroup
    rw [normalizeThreadTerminalState_terminalGroups] at hactive
    rw [normalizeThreadTerminalState_activeTerminalGroupId,
      normalizedActiveGroupId_of_mem hgroup hid, ← hid] at hid'
    exact hgroups.eq_of_id hactive hgroup hid' ▸ hmem
  · have hnodup : (normalizeRunningTerminalIds persisted.runningTerminalIds
        (normalizeTerminalIds persisted.terminalIds)).Nodup := h.running
    rw [normalizeRunningTerminalIds, if_neg (List.length_pos_of_mem hleft).ne',
      List.filter_map] at hnodup
    have hnamed := (terminalIds_normalizeTerminalIds persisted.terminalIds).named _ hterminal
    have hlength := List.length_pos_iff.mpr hnamed.1
    refine List.inj_on_of_nodup_map hnodup ?_ ?_ heq
    · simp [hleft, hlength, hterminal]
    · rw [heq] at hterminal hlength
      simp [hright, hlength, hterminal]

/-! ## Updates -/

theorem selectThreadTerminalState_of_key (h : other.threadId.length ≠ 0)
    (hkey : terminalThreadKey other = terminalThreadKey threadRef)
    (h' : threadRef.threadId.length ≠ 0) :
    selectThreadTerminalState states other = selectThreadTerminalState states threadRef := by
  rw [selectThreadTerminalState, selectThreadTerminalState, if_neg h, if_neg h', hkey]

theorem select_update_self (h : threadRef.threadId.length ≠ 0)
    (htidy : Tidy (updater (selectThreadTerminalState states threadRef))) :
    selectThreadTerminalState (updateTerminalStateByThreadKey states threadRef updater) threadRef =
      updater (selectThreadTerminalState states threadRef) := by
  rw [updateTerminalStateByThreadKey, if_neg h]
  dsimp only
  split_ifs with hsame hdefault
  · exact hsame.symm
  · rw [isDefaultThreadTerminalState, htidy.normalize_eq, decide_eq_true_iff] at hdefault
    rw [hdefault]
    conv_lhs => rw [selectThreadTerminalState, if_neg h, KeyedMap.get_delete_self]
    rfl
  · conv_lhs => rw [selectThreadTerminalState, if_neg h, KeyedMap.get_set_self]
    rfl

theorem select_update_of_ne
    (h : threadRef.threadId.length = 0 ∨ other.threadId.length = 0 ∨
      terminalThreadKey other ≠ terminalThreadKey threadRef) :
    selectThreadTerminalState (updateTerminalStateByThreadKey states threadRef updater) other =
      selectThreadTerminalState states other := by
  by_cases hthread : threadRef.threadId.length = 0
  · rw [updateTerminalStateByThreadKey, if_pos hthread]
  by_cases hother : other.threadId.length = 0
  · rw [selectThreadTerminalState, selectThreadTerminalState, if_pos hother, if_pos hother]
  have hkey := (h.resolve_left hthread).resolve_left hother
  rw [updateTerminalStateByThreadKey, if_neg hthread]
  dsimp only
  split_ifs
  · rfl
  · rw [selectThreadTerminalState, KeyedMap.get_delete_of_ne hkey, ← selectThreadTerminalState]
  · rw [selectThreadTerminalState, KeyedMap.get_set_of_ne hkey, ← selectThreadTerminalState]

def AllTidy (states : TerminalStates) : Prop :=
  ∀ threadRef, Tidy (selectThreadTerminalState states threadRef)

def AllTidied (before after : TerminalStates) : Prop :=
  ∀ threadRef, Tidied (selectThreadTerminalState before threadRef)
    (selectThreadTerminalState after threadRef)

variable {before after : TerminalStates}

theorem AllTidied.trans {between : TerminalStates} (h : AllTidied before between)
    (h' : AllTidied between after) : AllTidied before after :=
  fun threadRef => (h threadRef).trans (h' threadRef)

theorem AllTidied.allTidy (h : AllTidied before after) : AllTidy after :=
  fun threadRef => (h threadRef).tidy

theorem allTidied_self (h : AllTidy states) : AllTidied states states :=
  fun threadRef => (h threadRef).tidied rfl

theorem allTidied_update (h : AllTidy states)
    (hupdater : Tidied (selectThreadTerminalState states threadRef)
      (updater (selectThreadTerminalState states threadRef))) :
    AllTidied states (updateTerminalStateByThreadKey states threadRef updater) := by
  intro other
  by_cases hsame : threadRef.threadId.length = 0 ∨ other.threadId.length = 0 ∨
      terminalThreadKey other ≠ terminalThreadKey threadRef
  · rw [select_update_of_ne hsame]
    exact (h other).tidied rfl
  · rw [not_or, not_or, not_not] at hsame
    obtain ⟨hthread, hother, hkey⟩ := hsame
    rw [selectThreadTerminalState_of_key hother hkey hthread,
      selectThreadTerminalState_of_key hother hkey hthread, select_update_self hthread hupdater.tidy]
    exact hupdater

theorem TerminalId.trimmed (terminalId : TerminalId) : trimText terminalId.val = terminalId.val :=
  terminalId.property

theorem allTidied_applyTerminalEvent (h : AllTidy states) (event : TerminalEvent) :
    AllTidied states (applyTerminalEvent states threadRef event) := by
  rw [applyTerminalEvent]
  have hstarted : AllTidied states
      (if event.type = .started ∨ event.type = .restarted then
        updateTerminalStateByThreadKey states threadRef (startThreadTerminal event.terminalId.val)
      else states) := by
    split_ifs
    · exact allTidied_update h (tidied_startThreadTerminal (h threadRef) event.terminalId.trimmed)
    · exact allTidied_self h
  generalize (if event.type = .started ∨ event.type = .restarted then _ else _ : TerminalStates) =
    started at hstarted ⊢
  cases terminalRunningSubprocessFromEvent event with
  | none => exact hstarted
  | some hasRunningSubprocess =>
    exact hstarted.trans (allTidied_update hstarted.allTidy
      (tidied_setThreadTerminalActivity (hstarted.allTidy threadRef) _ _))

theorem allTidied_act (h : AllTidy states) {action : TerminalAction}
    (hfits : StepFits states (threadRef, action)) :
    AllTidied states (act states threadRef action) := by
  have hthread := h threadRef
  cases action with
  | setTerminalOpen isOpen =>
    rw [act]
    exact allTidied_update h (tidied_setThreadTerminalOpen hthread isOpen)
  | setTerminalHeight height =>
    rw [act]
    exact allTidied_update h (tidied_setThreadTerminalHeight hthread height)
  | splitTerminal terminalId =>
    rw [act]
    exact allTidied_update h (tidied_splitThreadTerminal hthread terminalId.trimmed hfits)
  | newTerminal terminalId =>
    rw [act]
    exact allTidied_update h (tidied_newThreadTerminal hthread terminalId.trimmed)
  | ensureTerminal terminalId isOpen active =>
    rw [act]
    exact allTidied_update h
      (tidied_ensureThreadTerminal hthread terminalId.trimmed isOpen active)
  | setActiveTerminal terminalId =>
    rw [act]
    exact allTidied_update h (tidied_setThreadActiveTerminal hthread terminalId.val)
  | closeTerminal terminalId =>
    rw [act]
    exact allTidied_update h (tidied_closeThreadTerminal hthread terminalId.val)
  | setTerminalActivity terminalId hasRunningSubprocess =>
    rw [act]
    exact allTidied_update h
      (tidied_setThreadTerminalActivity hthread terminalId.val hasRunningSubprocess)
  | applyTerminalEvent event => exact allTidied_applyTerminalEvent h event
  | clearTerminalState => exact allTidied_update h (tidied_default _)

theorem splitFits_default {terminalId : Text} :
    SplitFits DEFAULT_THREAD_TERMINAL_STATE terminalId := by
  intro hterminal group hgroup _ hmem
  rw [List.mem_singleton.mp hterminal, List.mem_singleton.mp hgroup] at hmem
  exact absurd (List.mem_singleton_self _) hmem

theorem keepsLimit_iff_stepFits (h : AllTidy states) (step : ScopedThreadRef × TerminalAction) :
    KeepsLimit states step ↔ StepFits states step := by
  obtain ⟨threadRef, action⟩ := step
  constructor
  · intro hkeeps
    cases action with
    | splitTerminal terminalId =>
      change SplitFits (selectThreadTerminalState states threadRef) terminalId.val
      by_cases hthread : threadRef.threadId.length = 0
      · rw [selectThreadTerminalState, if_pos hthread]
        exact splitFits_default
      · have hlimit := hkeeps _ rfl threadRef
        rw [act, select_update_self hthread
          (tidy_splitThreadTerminal (h threadRef) terminalId.trimmed)] at hlimit
        exact splitFits_of_noneOutgrown (h threadRef) terminalId.trimmed hlimit
    | _ => trivial
  · rintro hfits next hnext other
    cases hnext
    exact (allTidied_act h hfits other).limit

variable {start : TerminalStates} {persisted : ScopedThreadRef → ThreadTerminalState}

theorem AllTidy.partitioned (h : AllTidy states) : Partitioned states :=
  fun threadRef => (h threadRef).panesPartition

theorem allTidy_of_persistedFits
    (hstart : ∀ threadRef, selectThreadTerminalState start threadRef =
      normalizeThreadTerminalState (persisted threadRef))
    (h : ∀ threadRef, PersistedFits (persisted threadRef)) : AllTidy start :=
  fun threadRef => hstart threadRef ▸ tidy_normalize (h threadRef)

theorem throughout_allTidy (h : AllTidy start) {steps : List (ScopedThreadRef × TerminalAction)}
    (hfits : StepsMeet terminalStep StepFits start steps) :
    Throughout terminalStep AllTidy start steps := by
  refine throughout_of_stepsMeet (fun states step next hstates hstep hnext => ?_) h hfits
  cases hnext
  exact (allTidied_act hstates hstep).allTidy

/-- Terminals stay partitioned and groups within the limit, from what was persisted, exactly when
that fits and every split does. -/
theorem panesPartition_iff
    (hstart : ∀ threadRef, selectThreadTerminalState start threadRef =
      normalizeThreadTerminalState (persisted threadRef))
    (steps : List (ScopedThreadRef × TerminalAction)) :
    Throughout terminalStep Partitioned start steps ∧ StepsMeet terminalStep KeepsLimit start steps ↔
      (∀ threadRef, PersistedFits (persisted threadRef)) ∧
        StepsMeet terminalStep StepFits start steps := by
  constructor
  · rintro ⟨hpartitioned, hlimit⟩
    have hfits : ∀ threadRef, PersistedFits (persisted threadRef) := fun threadRef =>
      persistedFits_of_panesPartition (hstart threadRef ▸ hpartitioned.start threadRef)
    have htidy : Throughout terminalStep AllTidy start steps := by
      refine throughout_of_stepsMeet (fun states step next hstates hstep hnext => ?_)
        (allTidy_of_persistedFits hstart hfits) hlimit
      cases hnext
      exact (allTidied_act hstates ((keepsLimit_iff_stepFits hstates step).mp hstep)).allTidy
    exact ⟨hfits, StepsMeet.imp_of_throughout
      (fun _ step _ hstates hkeeps _ => (keepsLimit_iff_stepFits hstates step).mp hkeeps)
      htidy hlimit⟩
  · rintro ⟨hfits, hsteps⟩
    have htidy := throughout_allTidy (allTidy_of_persistedFits hstart hfits) hsteps
    exact ⟨htidy.imp (fun _ hstates => hstates.partitioned), StepsMeet.imp_of_throughout
      (fun _ step _ hstates hstep _ => (keepsLimit_iff_stepFits hstates step).mpr hstep)
      htidy hsteps⟩

def persistedTerminals (activeTerminalGroupId : Text) (runningTerminalIds : List Text) :
    ThreadTerminalState where
  terminalOpen := true
  terminalHeight := some 320
  terminalIds := [ascii "a", ascii "b"]
  runningTerminalIds
  activeTerminalId := ascii "a"
  terminalGroups := [⟨ascii "g1", [ascii "a"]⟩, ⟨ascii "g2", [ascii "b"]⟩]
  activeTerminalGroupId

def someThread : ScopedThreadRef := ⟨ascii "e", ascii "t"⟩

def persistedStore : TerminalStates :=
  KeyedMap.set (terminalThreadKey someThread)
    (normalizeThreadTerminalState (persistedTerminals (ascii "g1") [ascii "b"]))
    (KeyedTable.empty _)

def persistedOf (threadRef : ScopedThreadRef) : ThreadTerminalState :=
  if threadRef.threadId.length ≠ 0 ∧ terminalThreadKey threadRef = terminalThreadKey someThread then
    persistedTerminals (ascii "g1") [ascii "b"]
  else DEFAULT_THREAD_TERMINAL_STATE

theorem select_persistedStore (threadRef : ScopedThreadRef) :
    selectThreadTerminalState persistedStore threadRef =
      normalizeThreadTerminalState (persistedOf threadRef) := by
  rw [persistedOf, selectThreadTerminalState]
  by_cases hthread : threadRef.threadId.length = 0
  · rw [if_pos hthread, if_neg (fun h => h.1 hthread), tidy_default.normalize_eq]
  by_cases hkey : terminalThreadKey threadRef = terminalThreadKey someThread
  · rw [if_neg hthread, if_pos ⟨hthread, hkey⟩, hkey, persistedStore, KeyedMap.get_set_self]
    rfl
  · rw [if_neg hthread, if_neg (fun h => hkey h.2), persistedStore, KeyedMap.get_set_of_ne hkey,
      KeyedMap.get_empty, tidy_default.normalize_eq]
    rfl

theorem persistedFits_persistedOf (threadRef : ScopedThreadRef) :
    PersistedFits (persistedOf threadRef) := by
  rw [persistedOf]
  split_ifs
  · exact ⟨by decide, by decide⟩
  · exact ⟨by decide, by decide⟩

/-- A terminal that moves to the active group and back to one of its own. -/
theorem panesPartition_moved :
    (∀ threadRef, selectThreadTerminalState persistedStore threadRef =
      normalizeThreadTerminalState (persistedOf threadRef)) ∧
    Throughout terminalStep Partitioned persistedStore
      [(someThread, .splitTerminal ⟨ascii "b", by decide⟩),
        (someThread, .newTerminal ⟨ascii "b", by decide⟩)] := by
  refine ⟨select_persistedStore, ?_⟩
  refine ((panesPartition_iff select_persistedStore _).mpr
    ⟨persistedFits_persistedOf, ?_⟩).1
  intro states hstates
  cases hstates
  refine ⟨show SplitFits _ _ by decide, fun states hstates => ?_⟩
  cases hstates
  exact ⟨trivial, trivial⟩

/-- Of what was persisted the active group need not have the active terminal, a running terminal
may come twice, and a terminal may be split into a group at the limit. -/
theorem not_panesPartition :
    ¬ PanesPartition (normalizeThreadTerminalState (persistedTerminals (ascii "g2") [])) ∧
    ¬ PanesPartition (normalizeThreadTerminalState
      (persistedTerminals (ascii "g1") [ascii "a", ascii " a"])) ∧
    ∃ states, exec terminalStep (KeyedTable.empty _)
      [(someThread, .splitTerminal ⟨ascii "b", by decide⟩),
        (someThread, .splitTerminal ⟨ascii "c", by decide⟩),
        (someThread, .splitTerminal ⟨ascii "d", by decide⟩),
        (someThread, .newTerminal ⟨ascii "e", by decide⟩),
        (someThread, .setActiveTerminal ⟨DEFAULT_THREAD_TERMINAL_ID, by decide⟩)] = some states ∧
      ¬ KeepsLimit states (someThread, .splitTerminal ⟨ascii "e", by decide⟩) := by
  refine ⟨fun h => ?_, fun h => ?_, _, rfl, fun h => ?_⟩
  · exact absurd h.activeGroup (by decide)
  · exact absurd h.running (by decide)
  · have hlimit := h _ rfl someThread
    revert hlimit
    decide +kernel

end GT3Code.Web
