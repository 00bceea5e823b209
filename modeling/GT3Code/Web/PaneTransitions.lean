import GT3Code.Web.PanesPartition

/-! # Transitions keep the partition

A terminal that leaves its group leaves the others alone, whether it is closed or moves to
another group.
-/

namespace GT3Code.Web

open GT3Code.Base GT3Code.Base.Json GT3Code.Contracts

variable {terminalId : Text} {terminalIds moreIds : List Text}
  {groups : List ThreadTerminalGroup} {state : ThreadTerminalState}

/-! ## Leaving a group -/

def ThreadTerminalGroup.without (terminalId : Text) (group : ThreadTerminalGroup) :
    ThreadTerminalGroup :=
  { group with terminalIds := group.terminalIds.filter (fun id => id ≠ terminalId) }

def withoutTerminal (terminalId : Text) (groups : List ThreadTerminalGroup) :
    List ThreadTerminalGroup :=
  (groups.map (ThreadTerminalGroup.without terminalId)).filter
    (fun group => group.terminalIds.length > 0)

variable {group : ThreadTerminalGroup} {before after : ThreadTerminalState}

theorem without_of_notMem (h : terminalId ∉ group.terminalIds) :
    group.without terminalId = group := by
  have hkept : group.terminalIds.filter (fun id => id ≠ terminalId) = group.terminalIds := by
    rw [List.filter_eq_self]
    intro id hid
    rw [decide_eq_true_iff]
    exact fun heq => h (heq ▸ hid)
  rw [ThreadTerminalGroup.without, hkept]

theorem assignedTerminalIds_withoutTerminal (terminalId : Text)
    (groups : List ThreadTerminalGroup) :
    assignedTerminalIds (withoutTerminal terminalId groups) =
      (assignedTerminalIds groups).filter (fun id => id ≠ terminalId) :=
  (flatMap_filter_nonempty _ _).trans
    (flatMap_map_filter ThreadTerminalGroup.terminalIds (fun id => id ≠ terminalId)
      (fun _ => rfl) groups)

theorem mem_withoutTerminal (h : group ∈ withoutTerminal terminalId groups) :
    group.terminalIds ≠ [] ∧ ∃ earlier ∈ groups, group = earlier.without terminalId := by
  rw [withoutTerminal, List.mem_filter, decide_eq_true_iff, List.mem_map] at h
  obtain ⟨⟨earlier, hearlier, heq⟩, hlength⟩ := h
  exact ⟨List.ne_nil_of_length_pos hlength, earlier, hearlier, heq.symm⟩

theorem without_mem_withoutTerminal {id : Text} (hgroup : group ∈ groups)
    (hid : id ∈ group.terminalIds) (hne : id ≠ terminalId) :
    group.without terminalId ∈ withoutTerminal terminalId groups := by
  rw [withoutTerminal, List.mem_filter, decide_eq_true_iff]
  refine ⟨List.mem_map_of_mem hgroup, List.length_pos_of_mem (a := id) ?_⟩
  exact List.mem_filter.mpr ⟨hid, decide_eq_true hne⟩

theorem usedGroupIds_withoutTerminal (terminalId : Text) (groups : List ThreadTerminalGroup) :
    (usedGroupIds (withoutTerminal terminalId groups)).Sublist (usedGroupIds groups) := by
  have hmap : usedGroupIds groups =
      (groups.map (ThreadTerminalGroup.without terminalId)).map ThreadTerminalGroup.id := by
    rw [List.map_map]
    rfl
  rw [hmap]
  exact List.filter_sublist.map _

theorem withoutTerminal_of_notMem (h : terminalId ∉ assignedTerminalIds groups)
    (hnonempty : ∀ group ∈ groups, group.terminalIds ≠ []) :
    withoutTerminal terminalId groups = groups := by
  have hmap : groups.map (ThreadTerminalGroup.without terminalId) = groups := by
    refine (List.map_congr_left (fun group hgroup => ?_)).trans (List.map_id _)
    exact without_of_notMem (fun hid => h (List.mem_flatMap_of_mem hgroup hid))
  rw [withoutTerminal, hmap, List.filter_eq_self]
  exact fun group hgroup => by simpa [List.length_pos_iff] using hnonempty group hgroup

theorem withoutTerminal_cons (terminalId : Text) (group : ThreadTerminalGroup)
    (groups : List ThreadTerminalGroup) :
    withoutTerminal terminalId (group :: groups) =
      if (group.without terminalId).terminalIds.length = 0 then withoutTerminal terminalId groups
      else group.without terminalId :: withoutTerminal terminalId groups := by
  rw [withoutTerminal, List.map_cons, List.filter_cons, ← withoutTerminal]
  by_cases h : (group.without terminalId).terminalIds.length = 0
  · rw [if_pos h, if_neg (by simp [h])]
  · rw [if_neg h, if_pos (by simpa using Nat.pos_of_ne_zero h)]

theorem leaveGroup_eq (hdistinct : (assignedTerminalIds groups).Nodup)
    (hnonempty : ∀ group ∈ groups, group.terminalIds ≠ []) :
    leaveGroup terminalId groups = withoutTerminal terminalId groups := by
  induction groups with
  | nil => rfl
  | cons group groups ih =>
    rw [assignedTerminalIds, List.flatMap_cons, List.nodup_append] at hdistinct
    rw [List.forall_mem_cons] at hnonempty
    by_cases hmem : terminalId ∈ group.terminalIds
    · have hothers : withoutTerminal terminalId groups = groups :=
        withoutTerminal_of_notMem (fun h => hdistinct.2.2 _ hmem _ h rfl) hnonempty.2
      rw [leaveGroup, if_pos hmem, withoutTerminal_cons, hothers]
      rfl
    · rw [leaveGroup, if_neg hmem, withoutTerminal_cons, without_of_notMem hmem,
        if_neg (fun h => hnonempty.1 (List.length_eq_zero_iff.mp h)),
        ih hdistinct.2.1 hnonempty.2]

theorem Grouped.imp (h : Grouped terminalIds groups)
    (hids : ∀ id ∈ assignedTerminalIds groups, id ∈ moreIds) : Grouped moreIds groups :=
  ⟨h.distinct, hids, h.groupIds, h.nonempty, h.named⟩

theorem Grouped.withoutTerminal (h : Grouped terminalIds groups) (terminalId : Text) :
    Grouped terminalIds (withoutTerminal terminalId groups) := by
  have hassigned := assignedTerminalIds_withoutTerminal terminalId groups
  constructor
  · rw [hassigned]
    exact h.distinct.filter _
  · intro id hid
    rw [hassigned] at hid
    exact h.terminals id (List.mem_of_mem_filter hid)
  · exact (usedGroupIds_withoutTerminal terminalId groups).nodup h.groupIds
  · exact fun group hgroup => (mem_withoutTerminal hgroup).1
  · intro group hgroup
    obtain ⟨-, earlier, hearlier, rfl⟩ := mem_withoutTerminal hgroup
    exact h.named earlier hearlier

theorem GroupsPartition.leaveGroup_eq (h : GroupsPartition terminalIds groups) :
    leaveGroup terminalId groups = Web.withoutTerminal terminalId groups :=
  Web.leaveGroup_eq h.distinct h.nonempty

theorem GroupsPartition.withoutTerminal (h : GroupsPartition terminalIds groups)
    (terminalId : Text) :
    GroupsPartition (terminalIds.filter (fun id => id ≠ terminalId))
      (withoutTerminal terminalId groups) := by
  have hperm : (assignedTerminalIds (Web.withoutTerminal terminalId groups)).Perm
      (terminalIds.filter (fun id => id ≠ terminalId)) := by
    rw [assignedTerminalIds_withoutTerminal]
    exact h.perm.filter _
  exact ⟨(h.toGrouped.withoutTerminal terminalId).imp (fun _ hid => hperm.mem_iff.mp hid), hperm⟩

theorem Grouped.eq_of_id (h : Grouped terminalIds groups) {left right : ThreadTerminalGroup}
    (hleft : left ∈ groups) (hright : right ∈ groups) (hid : left.id = right.id) : left = right :=
  List.inj_on_of_nodup_map h.groupIds hleft hright hid

variable {between : ThreadTerminalState}

theorem NoneOutgrown.trans (h : NoneOutgrown before between) (h' : NoneOutgrown between after) :
    NoneOutgrown before after := by
  intro group hgroup hlength
  obtain ⟨middle, hmiddle, hid, hlong⟩ := h' group hgroup hlength
  obtain ⟨earlier, hearlier, hid', hlong'⟩ := h middle hmiddle hlong
  exact ⟨earlier, hearlier, hid'.trans hid, hlong'⟩

theorem noneOutgrown_of_forall
    (h : ∀ group ∈ after.terminalGroups, group.terminalIds.length ≤ MAX_TERMINALS_PER_GROUP ∨
      ∃ earlier ∈ before.terminalGroups, earlier.id = group.id ∧
        group.terminalIds.length ≤ earlier.terminalIds.length) :
    NoneOutgrown before after := by
  intro group hgroup hlength
  obtain hfits | ⟨earlier, hearlier, hid, hle⟩ := h group hgroup
  · omega
  · exact ⟨earlier, hearlier, hid, by omega⟩

structure Tidied (before after : ThreadTerminalState) : Prop where
  tidy : Tidy after
  limit : NoneOutgrown before after

theorem Tidied.trans (h : Tidied before between) (h' : Tidied between after) :
    Tidied before after :=
  ⟨h'.tidy, h.limit.trans h'.limit⟩

theorem Tidy.tidied (h : Tidy after) (hgroups : after.terminalGroups = state.terminalGroups) :
    Tidied state after :=
  ⟨h, noneOutgrown_of_forall (fun group hgroup =>
    Or.inr ⟨group, hgroups ▸ hgroup, rfl, Nat.le_refl _⟩)⟩

theorem Tidy.tidied_normalize (h : Tidy after) (hlimit : NoneOutgrown state after) :
    Tidied state (normalizeThreadTerminalState after) :=
  h.normalize_eq.symm ▸ ⟨h, hlimit⟩

theorem tidied_setThreadTerminalOpen (h : Tidy state) (isOpen : Bool) :
    Tidied state (setThreadTerminalOpen state isOpen) := by
  rw [setThreadTerminalOpen, h.normalize_eq]
  split_ifs
  · exact h.tidied rfl
  · exact Tidy.tidied ⟨h.ids, h.groups, h.active, h.activeGroup, h.running, h.runningTerminals,
      h.height⟩ rfl

theorem tidied_setThreadTerminalHeight (h : Tidy state) (height : Option ℚ) :
    Tidied state (setThreadTerminalHeight state height) := by
  cases height with
  | none =>
    rw [setThreadTerminalHeight, h.normalize_eq]
    exact h.tidied rfl
  | some value =>
    rw [setThreadTerminalHeight, h.normalize_eq]
    split_ifs with hvalue
    · exact h.tidied rfl
    · rw [not_or, not_le] at hvalue
      exact Tidy.tidied ⟨h.ids, h.groups, h.active, h.activeGroup, h.running,
        h.runningTerminals, value, hvalue.1, rfl⟩ rfl

theorem tidied_setThreadActiveTerminal (h : Tidy state) (terminalId : Text) :
    Tidied state (setThreadActiveTerminal state terminalId) := by
  rw [setThreadActiveTerminal, h.normalize_eq]
  dsimp only
  split_ifs with hterminal
  · exact h.tidied rfl
  · obtain ⟨group, hgroup, hfind, hmem⟩ := exists_groupOf h.groups hterminal
    rw [hfind]
    exact Tidy.tidied ⟨h.ids, h.groups, hterminal, ⟨group, hgroup, rfl, hmem⟩, h.running,
      h.runningTerminals, h.height⟩ rfl
  · exact h.tidied rfl

theorem tidied_setThreadTerminalActivity (h : Tidy state) (terminalId : Text)
    (hasRunningSubprocess : Bool) :
    Tidied state (setThreadTerminalActivity state terminalId hasRunningSubprocess) := by
  rw [setThreadTerminalActivity, h.normalize_eq]
  dsimp only
  split_ifs with hterminal hsame hstarted
  · exact h.tidied rfl
  · have hidle : terminalId ∉ state.runningTerminalIds := by
      intro hrunning
      rw [hstarted, decide_eq_true hrunning] at hsame
      exact hsame rfl
    rw [eraseDups_of_nodup h.running]
    refine Tidy.tidied ⟨h.ids, h.groups, h.active, h.activeGroup, ?_, fun id hid => ?_, h.height⟩
      rfl
    · exact List.concat_eq_append ▸ h.running.concat hidle
    · rw [List.mem_append, List.mem_singleton] at hid
      exact hid.elim (h.runningTerminals id) (fun heq => heq ▸ hterminal)
  · rw [eraseDups_of_nodup h.running]
    exact Tidy.tidied ⟨h.ids, h.groups, h.active, h.activeGroup, h.running.filter _,
      fun id hid => h.runningTerminals id (List.mem_of_mem_filter hid), h.height⟩ rfl
  · exact h.tidied rfl

theorem shrunk_of_mem_withoutTerminal (h : group ∈ withoutTerminal terminalId groups) :
    ∃ earlier ∈ groups, earlier.id = group.id ∧
      group.terminalIds.length ≤ earlier.terminalIds.length := by
  obtain ⟨-, earlier, hearlier, rfl⟩ := mem_withoutTerminal h
  exact ⟨earlier, hearlier, rfl, List.length_filter_le _ _⟩

theorem noneOutgrown_withoutTerminal
    (h : after.terminalGroups = withoutTerminal terminalId before.terminalGroups) :
    NoneOutgrown before after :=
  noneOutgrown_of_forall (fun _ hgroup => Or.inr (shrunk_of_mem_withoutTerminal (h ▸ hgroup)))

theorem tidied_default (before : ThreadTerminalState) :
    Tidied before DEFAULT_THREAD_TERMINAL_STATE := by
  refine ⟨tidy_default, noneOutgrown_of_forall (fun group hgroup => Or.inl ?_)⟩
  rw [List.mem_singleton.mp hgroup]
  decide

theorem TerminalIds.filter (h : TerminalIds terminalIds)
    (hsome : (terminalIds.filter (fun id => id ≠ terminalId)).length ≠ 0) :
    TerminalIds (terminalIds.filter (fun id => id ≠ terminalId)) :=
  ⟨fun hnil => hsome (List.length_eq_zero_iff.mpr hnil), h.distinct.filter _,
    fun id hid => h.named id (List.mem_of_mem_filter hid)⟩

theorem mem_of_getElem?_or_head? {items : List Text} (h : items ≠ []) (index : Nat)
    (other : Text) : ((items[index]?).or items.head?).getD other ∈ items := by
  cases hitem : items[index]? with
  | some item => exact List.mem_of_getElem? hitem
  | none =>
    obtain ⟨first, rest, rfl⟩ := List.exists_cons_of_ne_nil h
    exact List.mem_cons_self

theorem tidied_closeThreadTerminal (h : Tidy state) (terminalId : Text) :
    Tidied state (closeThreadTerminal state terminalId) := by
  rw [closeThreadTerminal, h.normalize_eq]
  dsimp only
  by_cases hterminal : terminalId ∉ state.terminalIds
  · rw [if_pos hterminal]
    exact h.tidied rfl
  by_cases hlast : (state.terminalIds.filter (fun id => id ≠ terminalId)).length = 0
  · rw [if_neg hterminal, if_pos hlast]
    exact tidied_default state
  rw [if_neg hterminal, if_neg hlast]
  have hids := h.ids.filter hlast
  have hgroups := h.groups.withoutTerminal terminalId
  have hactive : (if state.activeTerminalId = terminalId then
      (((state.terminalIds.filter (fun id => id ≠ terminalId))[min
          (state.terminalIds.idxOf terminalId)
          ((state.terminalIds.filter (fun id => id ≠ terminalId)).length - 1)]?).or
        (state.terminalIds.filter (fun id => id ≠ terminalId)).head?).getD
          DEFAULT_THREAD_TERMINAL_ID
      else state.activeTerminalId) ∈ state.terminalIds.filter (fun id => id ≠ terminalId) := by
    split_ifs with hsame
    · exact mem_of_getElem?_or_head? hids.nonempty _ _
    · exact List.mem_filter.mpr ⟨h.active, decide_eq_true hsame⟩
  generalize (if state.activeTerminalId = terminalId then _ else _ : Text) = active at hactive ⊢
  obtain ⟨group, hgroup, hfind, hmem⟩ := exists_groupOf hgroups hactive
  change Tidied state (normalizeThreadTerminalState
    { terminalOpen := state.terminalOpen
      terminalHeight := state.terminalHeight
      terminalIds := state.terminalIds.filter (fun id => id ≠ terminalId)
      runningTerminalIds := state.runningTerminalIds.filter (fun id => id ≠ terminalId)
      activeTerminalId := active
      terminalGroups := withoutTerminal terminalId state.terminalGroups
      activeTerminalGroupId :=
        (((groupOf (withoutTerminal terminalId state.terminalGroups) active).map
          ThreadTerminalGroup.id).or
          ((withoutTerminal terminalId state.terminalGroups).head?.map
            ThreadTerminalGroup.id)).getD (fallbackGroupId active) })
  rw [hfind]
  refine Tidy.tidied_normalize ⟨hids, hgroups, hactive, ⟨group, hgroup, rfl, hmem⟩,
    h.running.filter _, fun id hid => ?_, h.height⟩ (noneOutgrown_withoutTerminal rfl)
  rw [List.mem_filter] at hid ⊢
  exact ⟨h.runningTerminals id hid.1, hid.2⟩

end GT3Code.Web
