import GT3Code.Base.Groups
import GT3Code.Web.TerminalPanes

/-! # Panes partition the terminals

Normalizing leaves a state alone that is partitioned and whose names have no white space at their
ends, and makes such a state of what was persisted. Every transition keeps it.
-/

namespace GT3Code.Web

open GT3Code.Base GT3Code.Base.Json GT3Code.Contracts

/-! ## Names -/

def Canonical (name : Text) : Prop := name ≠ [] ∧ trimText name = name

variable {name terminalId : Text} {terminalIds : List Text}
  {groups nextGroups : List ThreadTerminalGroup}

theorem canonical_trimText (h : (trimText name).length > 0) : Canonical (trimText name) :=
  ⟨List.ne_nil_of_length_pos h, trimWhere_trimWhere _ _⟩

theorem Canonical.trimmed (h : Canonical name) : TrimmedFor Shared.isSpace name :=
  trimWhere_eq_self_iff.mp h.2

theorem Canonical.append {front back : Text} (hfront : TrimmedFor Shared.isSpace front)
    (hback : TrimmedFor Shared.isSpace back) (h : front ++ back ≠ []) :
    Canonical (front ++ back) :=
  ⟨h, trimWhere_of_trimmed (trimmedFor_append hfront hback)⟩

theorem Canonical.fallbackGroupId (h : Canonical name) : Canonical (fallbackGroupId name) :=
  Canonical.append (by unfold TrimmedFor; decide) h.trimmed
    (List.append_ne_nil_of_right_ne_nil _ h.1)

theorem Canonical.numbered (h : Canonical name) (n : Nat) : Canonical (numbered name n) := by
  have hdigits : ∀ u ∈ 45 :: decimal n, Shared.isSpace u = false := by
    intro u hu
    obtain rfl | hdigit := List.mem_cons.mp hu
    · decide
    · have hrange := digit_of_mem_decimal hdigit
      have hnone : ∀ v ∈ Gc.whitespaceCodes, ¬(48 ≤ v ∧ v ≤ 57) := by decide
      by_contra hblank
      rw [Bool.not_eq_false, Shared.isSpace, List.contains_iff_mem] at hblank
      exact hnone u hblank hrange
  refine Canonical.append h.trimmed ⟨fun u hu => ?_, fun u hu => ?_⟩
    (List.append_ne_nil_of_left_ne_nil h.1 _)
  · exact hdigits u (List.mem_of_mem_head? hu)
  · exact hdigits u (List.mem_of_mem_getLast? hu)

theorem Canonical.assignUniqueGroupId (h : Canonical name) (used : List Text) :
    Canonical (assignUniqueGroupId name used) := by
  rw [Web.assignUniqueGroupId]
  split_ifs
  · exact h.numbered _
  · exact h

theorem assignUniqueGroupId_notMem (baseId : Text) (used : List Text) :
    assignUniqueGroupId baseId used ∉ used := by
  rw [assignUniqueGroupId]
  split_ifs with hused
  · exact candidate_firstFresh_notMem _ _ _
  · exact hused

theorem assignUniqueGroupId_of_notMem {baseId : Text} {used : List Text} (h : baseId ∉ used) :
    assignUniqueGroupId baseId used = baseId :=
  if_neg h

variable {ids : List Text} {rest : List ThreadTerminalGroup} {activeTerminalId : Text}
  {persisted : ThreadTerminalState}

theorem mem_normalizeTerminalGroupIds (h : name ∈ normalizeTerminalGroupIds ids) :
    Canonical name := by
  rw [normalizeTerminalGroupIds, List.mem_eraseDups, List.mem_filter, List.mem_map] at h
  obtain ⟨⟨id, -, rfl⟩, hlength⟩ := h
  exact canonical_trimText (by simpa using hlength)

theorem nodup_normalizeTerminalGroupIds (ids : List Text) :
    (normalizeTerminalGroupIds ids).Nodup :=
  nodup_eraseDups _

theorem normalizeTerminalGroupIds_eq (hids : ∀ id ∈ ids, Canonical id) (hnodup : ids.Nodup) :
    normalizeTerminalGroupIds ids = ids := by
  have htrim : ids.map trimText = ids :=
    (List.map_congr_left (fun id hid => (hids id hid).2)).trans (List.map_id _)
  have hfilter : ids.filter (fun id => id.length > 0) = ids := by
    rw [List.filter_eq_self]
    exact fun id hid => by simpa [List.length_pos_iff] using (hids id hid).1
  rw [normalizeTerminalGroupIds, htrim, hfilter, eraseDups_of_nodup hnodup]

structure TerminalIds (terminalIds : List Text) : Prop where
  nonempty : terminalIds ≠ []
  distinct : terminalIds.Nodup
  named : ∀ id ∈ terminalIds, Canonical id

theorem terminalIds_normalizeTerminalIds (ids : List Text) :
    TerminalIds (normalizeTerminalIds ids) := by
  rw [normalizeTerminalIds]
  split_ifs with hlength
  · exact ⟨List.ne_nil_of_length_pos hlength, nodup_normalizeTerminalGroupIds ids,
      fun id hid => mem_normalizeTerminalGroupIds hid⟩
  · refine ⟨by simp, by simp, fun id hid => ?_⟩
    rw [List.mem_singleton.mp hid]
    exact ⟨by decide, by decide⟩

theorem TerminalIds.normalizeTerminalIds_eq (h : TerminalIds terminalIds) :
    normalizeTerminalIds terminalIds = terminalIds := by
  rw [normalizeTerminalIds, normalizeTerminalGroupIds_eq h.named h.distinct]
  exact if_pos (List.length_pos_iff.mpr h.nonempty)

/-! ## Groups -/

structure Grouped (terminalIds : List Text) (groups : List ThreadTerminalGroup) : Prop where
  distinct : (assignedTerminalIds groups).Nodup
  terminals : ∀ id ∈ assignedTerminalIds groups, id ∈ terminalIds
  groupIds : (usedGroupIds groups).Nodup
  nonempty : ∀ group ∈ groups, group.terminalIds ≠ []
  named : ∀ group ∈ groups, Canonical group.id

theorem assignedTerminalIds_concat (groups : List ThreadTerminalGroup)
    (group : ThreadTerminalGroup) :
    assignedTerminalIds (groups ++ [group]) = assignedTerminalIds groups ++ group.terminalIds := by
  rw [assignedTerminalIds, List.flatMap_append, List.flatMap_singleton, assignedTerminalIds]

theorem grouped_nil (terminalIds : List Text) : Grouped terminalIds [] := by
  constructor <;> simp [assignedTerminalIds, usedGroupIds]

variable {group : ThreadTerminalGroup} {running : List Text}

theorem Grouped.concat (h : Grouped terminalIds groups) (hnodup : group.terminalIds.Nodup)
    (hterminals : ∀ id ∈ group.terminalIds, id ∈ terminalIds ∧ id ∉ assignedTerminalIds groups)
    (hnonempty : group.terminalIds ≠ []) (hid : group.id ∉ usedGroupIds groups)
    (hnamed : Canonical group.id) : Grouped terminalIds (groups ++ [group]) := by
  constructor
  · rw [assignedTerminalIds_concat, List.nodup_append]
    exact ⟨h.distinct, hnodup, fun left hleft right hright heq =>
      (hterminals right hright).2 (heq ▸ hleft)⟩
  · intro id hmem
    rw [assignedTerminalIds_concat, List.mem_append] at hmem
    exact hmem.elim (h.terminals id) (fun hnew => (hterminals id hnew).1)
  · rw [usedGroupIds, List.map_append, List.map_singleton, ← usedGroupIds, List.nodup_append]
    refine ⟨h.groupIds, List.nodup_singleton _, fun left hleft right hright heq => ?_⟩
    rw [List.mem_singleton] at hright
    exact hid (hright ▸ heq ▸ hleft)
  · intro other hother
    rw [List.mem_append, List.mem_singleton] at hother
    exact hother.elim (h.nonempty other) (fun heq => heq ▸ hnonempty)
  · intro other hother
    rw [List.mem_append, List.mem_singleton] at hother
    exact hother.elim (h.named other) (fun heq => heq ▸ hnamed)

theorem Grouped.normalizeGroup (h : Grouped terminalIds groups) (group : ThreadTerminalGroup) :
    Grouped terminalIds (normalizeGroup terminalIds groups group) := by
  rw [Web.normalizeGroup]
  dsimp only
  cases hids : (normalizeTerminalGroupIds group.terminalIds).filter
      (fun id => id ∈ terminalIds ∧ id ∉ assignedTerminalIds groups) with
  | nil => exact h
  | cons first rest =>
    have hmem : ∀ id ∈ first :: rest, id ∈ normalizeTerminalGroupIds group.terminalIds ∧
        id ∈ terminalIds ∧ id ∉ assignedTerminalIds groups := by
      intro id hid
      rw [← hids, List.mem_filter, decide_eq_true_iff] at hid
      exact hid
    have hbase : Canonical (if (trimText group.id).length > 0 then trimText group.id
        else fallbackGroupId first) := by
      split_ifs with hlength
      · exact canonical_trimText hlength
      · exact (mem_normalizeTerminalGroupIds (hmem first List.mem_cons_self).1).fallbackGroupId
    refine h.concat ?_ (fun id hid => (hmem id hid).2) (List.cons_ne_nil _ _)
      (assignUniqueGroupId_notMem _ _) (hbase.assignUniqueGroupId _)
    rw [← hids]
    exact (nodup_normalizeTerminalGroupIds _).filter _

theorem Grouped.appendGroup (h : Grouped terminalIds groups) (hterminal : terminalId ∈ terminalIds)
    (hfree : terminalId ∉ assignedTerminalIds groups) (hnamed : Canonical terminalId) :
    Grouped terminalIds (appendGroup groups terminalId) := by
  refine h.concat (List.nodup_singleton _) (fun id hid => ?_) (List.cons_ne_nil _ _)
    (assignUniqueGroupId_notMem _ _) (hnamed.fallbackGroupId.assignUniqueGroupId _)
  rw [List.mem_singleton.mp hid]
  exact ⟨hterminal, hfree⟩

structure GroupsPartition (terminalIds : List Text) (groups : List ThreadTerminalGroup) : Prop
    extends Grouped terminalIds groups where
  perm : (assignedTerminalIds groups).Perm terminalIds

theorem Grouped.groupsPartition (h : Grouped terminalIds groups) (hids : terminalIds.Nodup)
    (hall : ∀ id ∈ terminalIds, id ∈ assignedTerminalIds groups) :
    GroupsPartition terminalIds groups :=
  ⟨h, (List.perm_ext_iff_of_nodup h.distinct hids).mpr (fun id => ⟨h.terminals id, hall id⟩)⟩

theorem foldl_appendGroup {rest : List Text} (h : Grouped terminalIds groups)
    (hnodup : rest.Nodup) (hterminals : ∀ id ∈ rest, id ∈ terminalIds ∧ Canonical id)
    (hfree : ∀ id ∈ rest, id ∉ assignedTerminalIds groups) :
    Grouped terminalIds (rest.foldl appendGroup groups) ∧
      assignedTerminalIds (rest.foldl appendGroup groups) = assignedTerminalIds groups ++ rest := by
  induction rest generalizing groups with
  | nil => exact ⟨h, (List.append_nil _).symm⟩
  | cons id rest ih =>
    rw [List.nodup_cons] at hnodup
    rw [List.forall_mem_cons] at hterminals hfree
    have hassigned : assignedTerminalIds (appendGroup groups id) =
        assignedTerminalIds groups ++ [id] := assignedTerminalIds_concat _ _
    obtain ⟨hgrouped, hall⟩ := ih (h.appendGroup hterminals.1.1 hfree.1 hterminals.1.2) hnodup.2
      hterminals.2 (fun other hother => by
        rw [hassigned, List.mem_append, List.mem_singleton, not_or]
        exact ⟨hfree.2 other hother, fun heq => hnodup.1 (heq ▸ hother)⟩)
    refine ⟨hgrouped, ?_⟩
    rw [List.foldl_cons, hall, hassigned, List.append_assoc, List.singleton_append]

theorem grouped_foldl_normalizeGroup (terminalGroups : List ThreadTerminalGroup)
    (h : Grouped terminalIds groups) :
    Grouped terminalIds (terminalGroups.foldl (normalizeGroup terminalIds) groups) := by
  induction terminalGroups generalizing groups with
  | nil => exact h
  | cons group terminalGroups ih => exact ih (h.normalizeGroup group)

theorem GroupsPartition.ne_nil (h : GroupsPartition terminalIds groups) (hids : terminalIds ≠ []) :
    groups ≠ [] := by
  rintro rfl
  exact hids h.perm.symm.eq_nil

theorem GroupsPartition.mem_assigned (h : GroupsPartition terminalIds groups)
    (hterminal : terminalId ∈ terminalIds) : terminalId ∈ assignedTerminalIds groups :=
  h.perm.mem_iff.mpr hterminal

theorem groupsPartition_normalizeTerminalGroups (terminalGroups : List ThreadTerminalGroup)
    (h : TerminalIds terminalIds) :
    GroupsPartition terminalIds (normalizeTerminalGroups terminalGroups terminalIds) := by
  have hgrouped := grouped_foldl_normalizeGroup terminalGroups (grouped_nil terminalIds)
  rw [normalizeTerminalGroups]
  generalize terminalGroups.foldl (normalizeGroup terminalIds) [] = grouped at hgrouped ⊢
  have hrest : ∀ id ∈ terminalIds.filter (fun id => id ∉ assignedTerminalIds grouped),
      id ∈ terminalIds ∧ id ∉ assignedTerminalIds grouped := by
    intro id hid
    rw [List.mem_filter, decide_eq_true_iff] at hid
    exact hid
  obtain ⟨hall, hassigned⟩ := foldl_appendGroup hgrouped (h.distinct.filter _)
    (fun id hid => ⟨(hrest id hid).1, h.named id (hrest id hid).1⟩)
    (fun id hid => (hrest id hid).2)
  have hpartition : GroupsPartition terminalIds
      ((terminalIds.filter (fun id => id ∉ assignedTerminalIds grouped)).foldl appendGroup
        grouped) := by
    refine hall.groupsPartition h.distinct (fun id hid => ?_)
    rw [hassigned, List.mem_append, List.mem_filter, decide_eq_true_iff]
    by_cases hmem : id ∈ assignedTerminalIds grouped
    · exact Or.inl hmem
    · exact Or.inr ⟨hid, hmem⟩
  rw [if_neg]
  · exact hpartition
  · exact fun hlength => hpartition.ne_nil h.nonempty (List.length_eq_zero_iff.mp hlength)

theorem Grouped.of_append (h : Grouped terminalIds (groups ++ rest)) :
    Grouped terminalIds groups := by
  have hassigned : assignedTerminalIds (groups ++ rest) =
      assignedTerminalIds groups ++ assignedTerminalIds rest := List.flatMap_append
  have hused : usedGroupIds (groups ++ rest) = usedGroupIds groups ++ usedGroupIds rest :=
    List.map_append
  constructor
  · exact (List.nodup_append.mp (hassigned ▸ h.distinct)).1
  · exact fun id hid => h.terminals id (hassigned ▸ List.mem_append_left _ hid)
  · exact (List.nodup_append.mp (hused ▸ h.groupIds)).1
  · exact fun group hgroup => h.nonempty group (List.mem_append_left _ hgroup)
  · exact fun group hgroup => h.named group (List.mem_append_left _ hgroup)

theorem normalizeGroup_eq (h : Grouped terminalIds (groups ++ [group]))
    (hnamed : ∀ id ∈ terminalIds, Canonical id) :
    normalizeGroup terminalIds groups group = groups ++ [group] := by
  have hdistinct := h.distinct
  rw [assignedTerminalIds_concat, List.nodup_append] at hdistinct
  have hterminals : ∀ id ∈ group.terminalIds, id ∈ terminalIds := fun id hid =>
    h.terminals id (assignedTerminalIds_concat groups group ▸ List.mem_append_right _ hid)
  have hgroup : group ∈ groups ++ [group] := List.mem_append_right _ (List.mem_singleton_self _)
  have hids : (normalizeTerminalGroupIds group.terminalIds).filter
      (fun id => id ∈ terminalIds ∧ id ∉ assignedTerminalIds groups) = group.terminalIds := by
    rw [normalizeTerminalGroupIds_eq (fun id hid => hnamed id (hterminals id hid)) hdistinct.2.1,
      List.filter_eq_self]
    intro id hid
    rw [decide_eq_true_iff]
    exact ⟨hterminals id hid, fun hassigned => hdistinct.2.2 id hassigned id hid rfl⟩
  have hid : group.id ∉ usedGroupIds groups := by
    have hgroupIds := h.groupIds
    rw [usedGroupIds, List.map_append, List.map_singleton, ← usedGroupIds,
      List.nodup_append] at hgroupIds
    exact fun hused => hgroupIds.2.2 _ hused _ (List.mem_singleton_self _) rfl
  have hcanonical := h.named group hgroup
  obtain ⟨first, rest, hfirst⟩ := List.exists_cons_of_ne_nil (h.nonempty group hgroup)
  rw [normalizeGroup]
  dsimp only
  rw [hids, hfirst]
  dsimp only
  rw [← hfirst, hcanonical.2, if_pos (List.length_pos_iff.mpr hcanonical.1),
    assignUniqueGroupId_of_notMem hid]

theorem foldl_normalizeGroup_eq (h : Grouped terminalIds (groups ++ rest))
    (hnamed : ∀ id ∈ terminalIds, Canonical id) :
    rest.foldl (normalizeGroup terminalIds) groups = groups ++ rest := by
  induction rest generalizing groups with
  | nil => exact (List.append_nil _).symm
  | cons group rest ih =>
    have hsplit : groups ++ group :: rest = groups ++ [group] ++ rest := by simp
    rw [hsplit] at h ⊢
    rw [List.foldl_cons, normalizeGroup_eq h.of_append hnamed, ih h]

theorem GroupsPartition.normalizeTerminalGroups_eq (h : GroupsPartition terminalIds groups)
    (hids : TerminalIds terminalIds) : normalizeTerminalGroups groups terminalIds = groups := by
  have hrest : terminalIds.filter (fun id => id ∉ assignedTerminalIds groups) = [] := by
    rw [List.filter_eq_nil_iff]
    intro id hid hfree
    exact of_decide_eq_true hfree (h.mem_assigned hid)
  rw [normalizeTerminalGroups, foldl_normalizeGroup_eq h.toGrouped hids.named]
  rw [List.nil_append, hrest, List.foldl_nil, if_neg]
  exact fun hlength => h.ne_nil hids.nonempty (List.length_eq_zero_iff.mp hlength)

/-! ## Tidy states -/

section

variable (state : ThreadTerminalState)

@[simp] theorem normalizeThreadTerminalState_terminalHeight :
    (normalizeThreadTerminalState state).terminalHeight = normalizedHeight state.terminalHeight := rfl

@[simp] theorem normalizeThreadTerminalState_terminalIds :
    (normalizeThreadTerminalState state).terminalIds = normalizeTerminalIds state.terminalIds := rfl

@[simp] theorem normalizeThreadTerminalState_runningTerminalIds :
    (normalizeThreadTerminalState state).runningTerminalIds =
      normalizeRunningTerminalIds state.runningTerminalIds
        (normalizeTerminalIds state.terminalIds) := rfl

@[simp] theorem normalizeThreadTerminalState_activeTerminalId :
    (normalizeThreadTerminalState state).activeTerminalId =
      normalizedActiveTerminalId state (normalizeTerminalIds state.terminalIds) := rfl

@[simp] theorem normalizeThreadTerminalState_terminalGroups :
    (normalizeThreadTerminalState state).terminalGroups =
      normalizeTerminalGroups state.terminalGroups (normalizeTerminalIds state.terminalIds) := rfl

@[simp] theorem normalizeThreadTerminalState_activeTerminalGroupId :
    (normalizeThreadTerminalState state).activeTerminalGroupId =
      normalizedActiveGroupId state
        (normalizedActiveTerminalId state (normalizeTerminalIds state.terminalIds))
        (normalizeTerminalGroups state.terminalGroups (normalizeTerminalIds state.terminalIds)) :=
  rfl

end

structure Tidy (state : ThreadTerminalState) : Prop where
  ids : TerminalIds state.terminalIds
  groups : GroupsPartition state.terminalIds state.terminalGroups
  active : state.activeTerminalId ∈ state.terminalIds
  activeGroup : ∃ group ∈ state.terminalGroups, group.id = state.activeTerminalGroupId ∧
    state.activeTerminalId ∈ group.terminalIds
  running : state.runningTerminalIds.Nodup
  runningTerminals : ∀ id ∈ state.runningTerminalIds, id ∈ state.terminalIds
  height : ∃ height > 0, state.terminalHeight = some height

variable {state : ThreadTerminalState}

theorem Tidy.panesPartition (h : Tidy state) : PanesPartition state where
  nonempty := h.ids.nonempty
  distinct := h.ids.distinct
  groups := h.groups.perm
  groupIds := h.groups.groupIds
  groupsNonempty := h.groups.nonempty
  active := h.active
  activeGroup := h.activeGroup
  running := h.running
  runningTerminals := h.runningTerminals

theorem normalizedHeight_eq {height : ℚ} (h : height > 0) :
    normalizedHeight (some height) = some height := by
  rw [normalizedHeight, Option.filter_some, if_pos (by simpa using h), Option.getD_some]

theorem normalizedHeight_pos (terminalHeight : Option ℚ) :
    ∃ height > 0, normalizedHeight terminalHeight = some height := by
  refine ⟨_, ?_, rfl⟩
  cases hheight : terminalHeight.filter (fun height => height > 0) with
  | none => decide
  | some height => simpa using (Option.filter_eq_some_iff.mp hheight).2

theorem normalizeRunningTerminalIds_eq (hids : ∀ id ∈ terminalIds, Canonical id)
    (hnodup : running.Nodup) (hterminals : ∀ id ∈ running, id ∈ terminalIds) :
    normalizeRunningTerminalIds running terminalIds = running := by
  have htrim : running.map trimText = running :=
    (List.map_congr_left (fun id hid => (hids id (hterminals id hid)).2)).trans (List.map_id _)
  rw [normalizeRunningTerminalIds, eraseDups_of_nodup hnodup, htrim]
  split_ifs with hlength
  · exact (List.length_eq_zero_iff.mp hlength).symm
  · rw [List.filter_eq_self]
    intro id hid
    have hid' := hterminals id hid
    simpa [hid', List.length_pos_iff] using (hids id hid').1

theorem normalizedActiveGroupId_of_mem (hgroup : group ∈ groups)
    (hid : group.id = state.activeTerminalGroupId) :
    normalizedActiveGroupId state activeTerminalId groups = state.activeTerminalGroupId := by
  have hany : groups.any (fun group => group.id = state.activeTerminalGroupId) = true :=
    List.any_eq_true.mpr ⟨group, hgroup, by simpa using hid⟩
  rw [normalizedActiveGroupId, if_pos hany]
  rfl

theorem Tidy.normalize_eq (h : Tidy state) : normalizeThreadTerminalState state = state := by
  obtain ⟨group, hgroup, hid, -⟩ := h.activeGroup
  obtain ⟨height, hpos, hheight⟩ := h.height
  have hactive : normalizedActiveTerminalId state state.terminalIds = state.activeTerminalId :=
    if_pos h.active
  rw [normalizeThreadTerminalState, h.ids.normalizeTerminalIds_eq]
  rw [h.groups.normalizeTerminalGroups_eq h.ids, hactive, normalizedActiveGroupId_of_mem hgroup hid,
    normalizeRunningTerminalIds_eq h.ids.named h.running h.runningTerminals, hheight,
    normalizedHeight_eq hpos, ← hheight]

theorem tidy_default : Tidy DEFAULT_THREAD_TERMINAL_STATE where
  ids := by
    refine ⟨by decide, by decide, fun id hid => ?_⟩
    rw [List.mem_singleton.mp hid]
    exact ⟨by decide, by decide⟩
  groups := by
    refine ⟨⟨by decide, by decide, by decide, by decide, fun group hgroup => ?_⟩, by decide⟩
    rw [List.mem_singleton.mp hgroup]
    exact ⟨by decide, by decide⟩
  active := by decide
  activeGroup := ⟨_, List.mem_singleton_self _, rfl, List.mem_singleton_self _⟩
  running := List.nodup_nil
  runningTerminals := by decide
  height := ⟨280, by decide, rfl⟩

theorem exists_groupOf (h : GroupsPartition terminalIds groups)
    (hterminal : terminalId ∈ terminalIds) :
    ∃ group ∈ groups, groupOf groups terminalId = some group ∧ terminalId ∈ group.terminalIds := by
  obtain ⟨member, hmember, hid⟩ := List.mem_flatMap.mp (h.mem_assigned hterminal)
  cases hgroup : groupOf groups terminalId with
  | none =>
    have hnone := List.find?_eq_none.mp hgroup member hmember
    exact absurd (decide_eq_true hid) hnone
  | some group =>
    have hmem := List.find?_some hgroup
    exact ⟨group, List.mem_of_find?_eq_some hgroup, rfl, of_decide_eq_true hmem⟩

theorem normalizedActiveTerminalId_mem (state : ThreadTerminalState) (h : terminalIds ≠ []) :
    normalizedActiveTerminalId state terminalIds ∈ terminalIds := by
  rw [normalizedActiveTerminalId]
  split_ifs with hactive
  · exact hactive
  · obtain ⟨first, rest, rfl⟩ := List.exists_cons_of_ne_nil h
    exact List.mem_cons_self

theorem mem_normalizeRunningTerminalIds {id : Text}
    (h : id ∈ normalizeRunningTerminalIds running terminalIds) : id ∈ terminalIds := by
  rw [normalizeRunningTerminalIds] at h
  split_ifs at h
  · cases h
  · rw [List.mem_filter, decide_eq_true_iff] at h
    exact h.2.2

theorem nodup_normalizeRunningTerminalIds
    (h : ∀ left ∈ running, ∀ right ∈ running, trimText left = trimText right →
      trimText left ∈ terminalIds → left = right) :
    (normalizeRunningTerminalIds running terminalIds).Nodup := by
  rw [normalizeRunningTerminalIds]
  split_ifs
  · exact List.nodup_nil
  · rw [List.filter_map]
    refine List.Nodup.map_on (fun left hleft right hright heq => ?_)
      ((nodup_eraseDups running).filter _)
    rw [List.mem_filter, List.mem_eraseDups] at hleft hright
    have hterminal : trimText left ∈ terminalIds := by
      have hkept := hleft.2
      simp only [Function.comp_apply, decide_eq_true_iff] at hkept
      exact hkept.2
    exact h left hleft.1 right hright.1 heq hterminal

theorem exists_normalizedActiveGroup (hgroups : GroupsPartition terminalIds groups)
    (hactive : activeTerminalId ∈ terminalIds)
    (h : ∀ group ∈ groups, group.id = persisted.activeTerminalGroupId →
      activeTerminalId ∈ group.terminalIds) :
    ∃ group ∈ groups, group.id = normalizedActiveGroupId persisted activeTerminalId groups ∧
      activeTerminalId ∈ group.terminalIds := by
  by_cases hany : ∃ group ∈ groups, group.id = persisted.activeTerminalGroupId
  · obtain ⟨group, hgroup, hid⟩ := hany
    exact ⟨group, hgroup, hid.trans (normalizedActiveGroupId_of_mem hgroup hid).symm,
      h group hgroup hid⟩
  · obtain ⟨group, hgroup, hfind, hmem⟩ := exists_groupOf hgroups hactive
    have hnone : groups.any (fun group => group.id = persisted.activeTerminalGroupId) = false := by
      rw [List.any_eq_false]
      exact fun other hother hid => hany ⟨other, hother, of_decide_eq_true hid⟩
    refine ⟨group, hgroup, ?_, hmem⟩
    rw [normalizedActiveGroupId, hnone, hfind]
    rfl

theorem tidy_normalize (h : PersistedFits persisted) :
    Tidy (normalizeThreadTerminalState persisted) := by
  have hids := terminalIds_normalizeTerminalIds persisted.terminalIds
  have hgroups := groupsPartition_normalizeTerminalGroups persisted.terminalGroups hids
  have hactive := normalizedActiveTerminalId_mem persisted hids.nonempty
  constructor
  · exact hids
  · rw [normalizeThreadTerminalState_terminalGroups]
    exact hgroups
  · rw [normalizeThreadTerminalState_activeTerminalId]
    exact hactive
  · rw [normalizeThreadTerminalState_terminalGroups,
      normalizeThreadTerminalState_activeTerminalGroupId,
      normalizeThreadTerminalState_activeTerminalId]
    exact exists_normalizedActiveGroup hgroups hactive h.activeGroup
  · rw [normalizeThreadTerminalState_runningTerminalIds]
    exact nodup_normalizeRunningTerminalIds h.running
  · rw [normalizeThreadTerminalState_runningTerminalIds]
    exact fun _ hid => mem_normalizeRunningTerminalIds hid
  · rw [normalizeThreadTerminalState_terminalHeight]
    exact normalizedHeight_pos _

end GT3Code.Web
