import GT3Code.Web.PaneTransitions

/-! # Terminals that come and move

A terminal that is new or left its group gets a group of its own, or goes into the active one. Only
the latter makes a group grow.
-/

namespace GT3Code.Web

open GT3Code.Base GT3Code.Base.Json GT3Code.Contracts

variable {terminalId : Text} {terminalIds : List Text} {groups : List ThreadTerminalGroup}
  {state : ThreadTerminalState}

def withTerminal (terminalId : Text) (terminalIds : List Text) : List Text :=
  if terminalId ∉ terminalIds then terminalIds ++ [terminalId] else terminalIds

theorem mem_withTerminal {id : Text} :
    id ∈ withTerminal terminalId terminalIds ↔ id ∈ terminalIds ∨ id = terminalId := by
  rw [withTerminal]
  split_ifs with hterminal
  · constructor
    · exact Or.inl
    · rintro (hid | rfl)
      · exact hid
      · exact hterminal
  · rw [List.mem_append, List.mem_singleton]

theorem TerminalIds.withTerminal (h : TerminalIds terminalIds) (hnamed : Canonical terminalId) :
    TerminalIds (withTerminal terminalId terminalIds) := by
  refine ⟨?_, ?_, fun id hid => ?_⟩
  · exact List.ne_nil_of_mem (mem_withTerminal.mpr (Or.inr rfl))
  · rw [Web.withTerminal]
    split_ifs with hterminal
    · exact h.distinct
    · exact List.concat_eq_append ▸ h.distinct.concat hterminal
  · exact (mem_withTerminal.mp hid).elim (h.named id) (fun heq => heq ▸ hnamed)

theorem mem_assignedTerminalIds_withoutTerminal {id : Text} :
    id ∈ assignedTerminalIds (withoutTerminal terminalId groups) ↔
      id ∈ assignedTerminalIds groups ∧ id ≠ terminalId := by
  rw [assignedTerminalIds_withoutTerminal, List.mem_filter, decide_eq_true_iff]

theorem GroupsPartition.grouped_withTerminal (h : GroupsPartition terminalIds groups)
    (terminalId : Text) :
    Grouped (Web.withTerminal terminalId terminalIds) (Web.withoutTerminal terminalId groups) :=
  (h.withoutTerminal terminalId).toGrouped.imp (fun id hid =>
    mem_withTerminal.mpr (Or.inl (h.terminals id
      (mem_assignedTerminalIds_withoutTerminal.mp hid).1)))

theorem GroupsPartition.appendGroup (h : GroupsPartition terminalIds groups)
    (hids : TerminalIds terminalIds) (hnamed : Canonical terminalId) :
    GroupsPartition (withTerminal terminalId terminalIds)
      (appendGroup (Web.withoutTerminal terminalId groups) terminalId) := by
  have hfree : terminalId ∉ assignedTerminalIds (Web.withoutTerminal terminalId groups) :=
    fun hmem => (mem_assignedTerminalIds_withoutTerminal.mp hmem).2 rfl
  refine ((h.grouped_withTerminal terminalId).appendGroup (mem_withTerminal.mpr (Or.inr rfl)) hfree
    hnamed).groupsPartition (hids.withTerminal hnamed).distinct (fun id hid => ?_)
  rw [Web.appendGroup, assignedTerminalIds_concat, List.mem_append, List.mem_singleton,
    mem_assignedTerminalIds_withoutTerminal]
  by_cases heq : id = terminalId
  · exact Or.inr heq
  · exact Or.inl ⟨h.mem_assigned ((mem_withTerminal.mp hid).resolve_right heq), heq⟩

theorem insertAtAnchor_id (terminalId anchor : Text) (group : ThreadTerminalGroup) :
    (insertAtAnchor terminalId anchor group).id = group.id := by
  rw [insertAtAnchor]
  split_ifs
  · rfl
  · split <;> rfl

variable {group : ThreadTerminalGroup} {index : Nat} {before after : ThreadTerminalState}

theorem insertAtAnchor_perm (h : terminalId ∉ group.terminalIds) (anchor : Text) :
    (insertAtAnchor terminalId anchor group).terminalIds.Perm (terminalId :: group.terminalIds) := by
  rw [insertAtAnchor, if_neg h]
  split
  · refine List.perm_middle.trans ?_
    rw [List.take_append_drop]
  · exact List.perm_append_singleton _ _

theorem mem_insertAtAnchor (terminalId anchor : Text) (group : ThreadTerminalGroup) :
    terminalId ∈ (insertAtAnchor terminalId anchor group).terminalIds := by
  by_cases h : terminalId ∈ group.terminalIds
  · rw [insertAtAnchor, if_pos h]
    exact h
  · exact (insertAtAnchor_perm h anchor).mem_iff.mpr List.mem_cons_self

theorem notMem_of_mem_withoutTerminal (h : group ∈ withoutTerminal terminalId groups) :
    terminalId ∉ group.terminalIds := by
  intro hid
  have hassigned : terminalId ∈ assignedTerminalIds (withoutTerminal terminalId groups) :=
    List.mem_flatMap_of_mem h hid
  exact (mem_assignedTerminalIds_withoutTerminal.mp hassigned).2 rfl

theorem GroupsPartition.insertAtAnchor (h : GroupsPartition terminalIds groups)
    (hids : TerminalIds terminalIds) (hnamed : Canonical terminalId)
    (hgroup : (Web.withoutTerminal terminalId groups)[index]? = some group) (anchor : Text) :
    GroupsPartition (withTerminal terminalId terminalIds)
      ((Web.withoutTerminal terminalId groups).modify index
        (insertAtAnchor terminalId anchor)) := by
  have hleft := h.grouped_withTerminal terminalId
  have hfree : terminalId ∉ assignedTerminalIds (Web.withoutTerminal terminalId groups) :=
    fun hmem => (mem_assignedTerminalIds_withoutTerminal.mp hmem).2 rfl
  have hmem := List.mem_of_getElem? hgroup
  have hperm : (assignedTerminalIds ((Web.withoutTerminal terminalId groups).modify index
      (Web.insertAtAnchor terminalId anchor))).Perm
      (terminalId :: assignedTerminalIds (Web.withoutTerminal terminalId groups)) :=
    flatMap_modify_perm ThreadTerminalGroup.terminalIds hgroup
      (insertAtAnchor_perm (notMem_of_mem_withoutTerminal hmem) anchor)
  refine Grouped.groupsPartition ⟨?_, fun id hid => ?_, ?_, fun other hother => ?_,
    fun other hother => ?_⟩ (hids.withTerminal hnamed).distinct (fun id hid => ?_)
  · exact hperm.nodup_iff.mpr (List.nodup_cons.mpr ⟨hfree, hleft.distinct⟩)
  · rw [hperm.mem_iff, List.mem_cons] at hid
    exact hid.elim (fun heq => mem_withTerminal.mpr (Or.inr heq)) (hleft.terminals id)
  · rw [usedGroupIds, map_modify (insertAtAnchor_id terminalId anchor)]
    exact hleft.groupIds
  · obtain hold | rfl := mem_modify hgroup hother
    · exact hleft.nonempty other hold
    · exact List.ne_nil_of_mem (mem_insertAtAnchor terminalId anchor group)
  · obtain hold | rfl := mem_modify hgroup hother
    · exact hleft.named other hold
    · exact (insertAtAnchor_id terminalId anchor group).symm ▸ hleft.named group hmem
  · rw [hperm.mem_iff, List.mem_cons, mem_assignedTerminalIds_withoutTerminal]
    by_cases heq : id = terminalId
    · exact Or.inl heq
    · exact Or.inr ⟨h.mem_assigned ((mem_withTerminal.mp hid).resolve_right heq), heq⟩

theorem noneOutgrown_appendGroup
    (h : after.terminalGroups = appendGroup (withoutTerminal terminalId before.terminalGroups)
      terminalId) :
    NoneOutgrown before after := by
  refine noneOutgrown_of_forall (fun group hgroup => ?_)
  rw [h, appendGroup, List.mem_append, List.mem_singleton] at hgroup
  obtain hold | rfl := hgroup
  · exact Or.inr (shrunk_of_mem_withoutTerminal hold)
  · exact Or.inl (show 1 ≤ 4 by decide)

theorem noneOutgrown_insertAtAnchor {anchor : Text}
    (hgroup : (withoutTerminal terminalId before.terminalGroups)[index]? = some group)
    (hlimit : MAX_TERMINALS_PER_GROUP ≤ group.terminalIds.length →
      ∃ earlier ∈ before.terminalGroups, earlier.id = group.id ∧
        MAX_TERMINALS_PER_GROUP < earlier.terminalIds.length)
    (h : after.terminalGroups = (withoutTerminal terminalId before.terminalGroups).modify index
      (insertAtAnchor terminalId anchor)) :
    NoneOutgrown before after := by
  intro other hother hlength
  rw [h] at hother
  obtain hold | rfl := mem_modify hgroup hother
  · obtain ⟨earlier, hearlier, hid, hle⟩ := shrunk_of_mem_withoutTerminal hold
    exact ⟨earlier, hearlier, hid, by omega⟩
  · rw [insertAtAnchor_id]
    have hmem := List.mem_of_getElem? hgroup
    rw [(insertAtAnchor_perm (notMem_of_mem_withoutTerminal hmem) anchor).length_eq,
      List.length_cons] at hlength
    exact hlimit (by omega)

/-! ## New terminals and splits -/

theorem canonical_of_isValidTerminalId (htrim : trimText terminalId = terminalId)
    (h : isValidTerminalId terminalId = true) : Canonical terminalId := by
  rw [isValidTerminalId, decide_eq_true_iff, htrim] at h
  exact ⟨List.ne_nil_of_length_pos h, htrim⟩

theorem Tidy.runningTerminals_withTerminal (h : Tidy state) {id : Text}
    (hid : id ∈ state.runningTerminalIds) : id ∈ withTerminal terminalId state.terminalIds :=
  mem_withTerminal.mpr (Or.inl (h.runningTerminals id hid))

def intoNewGroup (state : ThreadTerminalState) (terminalId : Text) : ThreadTerminalState :=
  { state with
    terminalOpen := true
    terminalIds := withTerminal terminalId state.terminalIds
    activeTerminalId := terminalId
    terminalGroups := appendGroup (withoutTerminal terminalId state.terminalGroups) terminalId
    activeTerminalGroupId := assignUniqueGroupId (fallbackGroupId terminalId)
      (usedGroupIds (withoutTerminal terminalId state.terminalGroups)) }

theorem tidy_intoNewGroup (h : Tidy state) (hnamed : Canonical terminalId) :
    Tidy (intoNewGroup state terminalId) := by
  refine ⟨h.ids.withTerminal hnamed, h.groups.appendGroup h.ids hnamed,
    mem_withTerminal.mpr (Or.inr rfl), ?_, h.running,
    fun id hid => h.runningTerminals_withTerminal hid, h.height⟩
  exact ⟨_, List.mem_append_right _ (List.mem_singleton_self _), rfl, List.mem_singleton_self _⟩

theorem tidied_intoNewGroup (h : Tidy state) (hnamed : Canonical terminalId) :
    Tidied state (normalizeThreadTerminalState (intoNewGroup state terminalId)) :=
  (tidy_intoNewGroup h hnamed).tidied_normalize (noneOutgrown_appendGroup rfl)

def intoGroup (state : ThreadTerminalState) (terminalId : Text) (index : Nat)
    (group : ThreadTerminalGroup) : ThreadTerminalState :=
  { state with
    terminalOpen := true
    terminalIds := withTerminal terminalId state.terminalIds
    activeTerminalId := terminalId
    terminalGroups := (withoutTerminal terminalId state.terminalGroups).modify index
      (insertAtAnchor terminalId state.activeTerminalId)
    activeTerminalGroupId := group.id }

theorem mem_intoGroup
    (hgroup : (withoutTerminal terminalId state.terminalGroups)[index]? = some group) :
    insertAtAnchor terminalId state.activeTerminalId group ∈
      (intoGroup state terminalId index group).terminalGroups := by
  have htaken : ((withoutTerminal terminalId state.terminalGroups).modify index
      (insertAtAnchor terminalId state.activeTerminalId))[index]? =
      some (insertAtAnchor terminalId state.activeTerminalId group) := by
    rw [List.getElem?_modify_eq, hgroup]
    rfl
  exact List.mem_of_getElem? htaken

theorem tidy_intoGroup (h : Tidy state) (hnamed : Canonical terminalId)
    (hgroup : (withoutTerminal terminalId state.terminalGroups)[index]? = some group) :
    Tidy (intoGroup state terminalId index group) := by
  refine ⟨h.ids.withTerminal hnamed, h.groups.insertAtAnchor h.ids hnamed hgroup _,
    mem_withTerminal.mpr (Or.inr rfl), ?_, h.running,
    fun id hid => h.runningTerminals_withTerminal hid, h.height⟩
  exact ⟨_, mem_intoGroup hgroup, insertAtAnchor_id _ _ _, mem_insertAtAnchor _ _ _⟩

theorem newThreadTerminal_eq (h : Tidy state) (hvalid : isValidTerminalId terminalId = true) :
    newThreadTerminal state terminalId =
      normalizeThreadTerminalState (intoNewGroup state terminalId) := by
  rw [newThreadTerminal, upsertTerminalIntoGroups, h.normalize_eq, hvalid, h.groups.leaveGroup_eq]
  rfl

theorem upsertTerminalIntoGroups_of_invalid (h : Tidy state)
    (hinvalid : isValidTerminalId terminalId = false) (mode : UpsertMode) :
    upsertTerminalIntoGroups state terminalId mode = state := by
  rw [upsertTerminalIntoGroups, h.normalize_eq, hinvalid]
  rfl

theorem tidied_newThreadTerminal (h : Tidy state) (htrim : trimText terminalId = terminalId) :
    Tidied state (newThreadTerminal state terminalId) := by
  cases hvalid : isValidTerminalId terminalId with
  | false =>
    rw [newThreadTerminal, upsertTerminalIntoGroups_of_invalid h hvalid]
    exact h.tidied rfl
  | true =>
    rw [newThreadTerminal_eq h hvalid]
    exact tidied_intoNewGroup h (canonical_of_isValidTerminalId htrim hvalid)

/-- The active group takes the terminal, unless the active terminal was alone in it and is the one
that moves. -/
theorem splitDestination_cases (h : Tidy state) (terminalId : Text) :
    (∃ index group, splitDestination state (withoutTerminal terminalId state.terminalGroups) =
        (withoutTerminal terminalId state.terminalGroups, index) ∧
      (withoutTerminal terminalId state.terminalGroups)[index]? = some group ∧
      group.id = state.activeTerminalGroupId) ∨
    (state.activeTerminalId = terminalId ∧
      splitDestination state (withoutTerminal terminalId state.terminalGroups) =
        (appendGroup (withoutTerminal terminalId state.terminalGroups) terminalId,
          (withoutTerminal terminalId state.terminalGroups).length)) := by
  rw [splitDestination]
  cases hgroup : (withoutTerminal terminalId state.terminalGroups).findIdx?
      (fun group => group.id = state.activeTerminalGroupId) with
  | some index =>
    obtain ⟨hlt, hid, -⟩ := List.findIdx?_eq_some_iff_getElem.mp hgroup
    exact Or.inl ⟨index, _, rfl, List.getElem?_eq_getElem hlt, of_decide_eq_true hid⟩
  | none =>
    have hgone := List.findIdx?_eq_none_iff.mp hgroup
    obtain ⟨active, hactive, hid, hmem⟩ := h.activeGroup
    have hsame : state.activeTerminalId = terminalId := by
      by_contra hne
      have hgone' := hgone _ (without_mem_withoutTerminal hactive hmem hne)
      exact of_decide_eq_false hgone' hid
    have hnone : (withoutTerminal terminalId state.terminalGroups).findIdx?
        (fun group => state.activeTerminalId ∈ group.terminalIds) = none := by
      rw [List.findIdx?_eq_none_iff]
      intro group hgroup
      rw [hsame, decide_eq_false_iff_not]
      exact notMem_of_mem_withoutTerminal hgroup
    rw [hnone]
    exact Or.inr ⟨hsame, by rw [hsame]⟩

theorem splitThreadTerminal_cases (h : Tidy state) (hvalid : isValidTerminalId terminalId = true) :
    (∃ index group, (withoutTerminal terminalId state.terminalGroups)[index]? = some group ∧
      group.id = state.activeTerminalGroupId ∧
      splitThreadTerminal state terminalId =
        if terminalId ∉ state.terminalIds ∧
            MAX_TERMINALS_PER_GROUP ≤ group.terminalIds.length then state
        else normalizeThreadTerminalState (intoGroup state terminalId index group)) ∨
    (state.activeTerminalId = terminalId ∧ splitThreadTerminal state terminalId =
      normalizeThreadTerminalState (intoNewGroup state terminalId)) := by
  rw [splitThreadTerminal, upsertTerminalIntoGroups, h.normalize_eq]
  dsimp only
  rw [hvalid, h.groups.leaveGroup_eq]
  obtain ⟨index, group, hdestination, hgroup, hid⟩ | ⟨hsame, hdestination⟩ :=
    splitDestination_cases h terminalId
  · refine Or.inl ⟨index, group, hgroup, hid, ?_⟩
    have hfree := notMem_of_mem_withoutTerminal (List.mem_of_getElem? hgroup)
    rw [hdestination]
    dsimp only
    rw [hgroup]
    simp only [hfree, not_false_eq_true, true_and, ge_iff_le]
    rfl
  · refine Or.inr ⟨hsame, ?_⟩
    have hlast : (appendGroup (withoutTerminal terminalId state.terminalGroups) terminalId)[
        (withoutTerminal terminalId state.terminalGroups).length]? =
        some ⟨assignUniqueGroupId (fallbackGroupId terminalId)
          (usedGroupIds (withoutTerminal terminalId state.terminalGroups)), [terminalId]⟩ :=
      List.getElem?_concat_length
    have hterminal : terminalId ∈ state.terminalIds := hsame ▸ h.active
    have hfixed : (appendGroup (withoutTerminal terminalId state.terminalGroups) terminalId).modify
        (withoutTerminal terminalId state.terminalGroups).length
        (insertAtAnchor terminalId state.activeTerminalId) =
        appendGroup (withoutTerminal terminalId state.terminalGroups) terminalId :=
      modify_eq_self_of_fixed hlast (if_pos (List.mem_singleton_self _))
    rw [hdestination]
    dsimp only
    rw [hlast, hfixed]
    simp only [hterminal, not_true_eq_false, false_and]
    rw [intoNewGroup, withTerminal, if_neg (not_not.mpr hterminal)]
    rfl

theorem outgrown_of_splitFits (hfits : SplitFits state terminalId)
    (hgroup : group ∈ withoutTerminal terminalId state.terminalGroups)
    (hid : group.id = state.activeTerminalGroupId) (hterminal : terminalId ∈ state.terminalIds)
    (hlimit : MAX_TERMINALS_PER_GROUP ≤ group.terminalIds.length) :
    ∃ earlier ∈ state.terminalGroups, earlier.id = group.id ∧
      MAX_TERMINALS_PER_GROUP < earlier.terminalIds.length := by
  obtain ⟨-, earlier, hearlier, rfl⟩ := mem_withoutTerminal hgroup
  refine ⟨earlier, hearlier, rfl, ?_⟩
  by_cases hmem : terminalId ∈ earlier.terminalIds
  · have hshorter : (earlier.without terminalId).terminalIds.length <
        earlier.terminalIds.length :=
      List.length_filter_lt_length_iff_exists.mpr ⟨terminalId, hmem, by simp⟩
    omega
  · have hne := hfits hterminal earlier hearlier hid hmem
    rw [without_of_notMem hmem] at hlimit
    omega

theorem tidy_splitThreadTerminal (h : Tidy state) (htrim : trimText terminalId = terminalId) :
    Tidy (splitThreadTerminal state terminalId) := by
  cases hvalid : isValidTerminalId terminalId with
  | false =>
    rw [splitThreadTerminal, upsertTerminalIntoGroups_of_invalid h hvalid]
    exact h
  | true =>
    have hnamed := canonical_of_isValidTerminalId htrim hvalid
    obtain ⟨index, group, hgroup, -, heq⟩ | ⟨-, heq⟩ := splitThreadTerminal_cases h hvalid
    · rw [heq]
      split_ifs
      · exact h
      · rw [(tidy_intoGroup h hnamed hgroup).normalize_eq]
        exact tidy_intoGroup h hnamed hgroup
    · rw [heq]
      exact (tidied_intoNewGroup h hnamed).tidy

theorem tidied_splitThreadTerminal (h : Tidy state) (htrim : trimText terminalId = terminalId)
    (hfits : SplitFits state terminalId) :
    Tidied state (splitThreadTerminal state terminalId) := by
  refine ⟨tidy_splitThreadTerminal h htrim, ?_⟩
  cases hvalid : isValidTerminalId terminalId with
  | false =>
    rw [splitThreadTerminal, upsertTerminalIntoGroups_of_invalid h hvalid]
    exact (h.tidied rfl).limit
  | true =>
    have hnamed := canonical_of_isValidTerminalId htrim hvalid
    obtain ⟨index, group, hgroup, hid, heq⟩ | ⟨-, heq⟩ := splitThreadTerminal_cases h hvalid
    · rw [heq]
      split_ifs with hfull
      · exact (h.tidied rfl).limit
      · rw [(tidy_intoGroup h hnamed hgroup).normalize_eq]
        refine noneOutgrown_insertAtAnchor hgroup (fun hlimit => ?_) rfl
        have hterminal : terminalId ∈ state.terminalIds := by
          by_contra hnew
          exact hfull ⟨hnew, hlimit⟩
        exact outgrown_of_splitFits hfits (List.mem_of_getElem? hgroup) hid hterminal hlimit
    · rw [heq]
      exact (tidied_intoNewGroup h hnamed).limit

theorem splitFits_of_noneOutgrown (h : Tidy state) (htrim : trimText terminalId = terminalId)
    (hlimit : NoneOutgrown state (splitThreadTerminal state terminalId)) :
    SplitFits state terminalId := by
  intro hterminal group hgroup hid hmem hlength
  have hnamed := h.ids.named terminalId hterminal
  have hvalid : isValidTerminalId terminalId = true := by
    rw [isValidTerminalId, htrim, decide_eq_true_iff]
    exact List.length_pos_iff.mpr hnamed.1
  obtain ⟨index, taker, htaker, hid', heq⟩ | ⟨hsame, -⟩ := splitThreadTerminal_cases h hvalid
  · obtain ⟨-, earlier, hearlier, rfl⟩ := mem_withoutTerminal (List.mem_of_getElem? htaker)
    obtain rfl := h.groups.eq_of_id hearlier hgroup (hid'.trans hid.symm)
    rw [without_of_notMem hmem] at htaker heq
    rw [heq, if_neg (fun hfull => hfull.1 hterminal),
      (tidy_intoGroup h hnamed htaker).normalize_eq] at hlimit
    have hgrown : (insertAtAnchor terminalId state.activeTerminalId earlier).terminalIds.length =
        earlier.terminalIds.length + 1 :=
      (insertAtAnchor_perm hmem state.activeTerminalId).length_eq
    obtain ⟨before, hbefore, hsameId, hlong⟩ := hlimit _ (mem_intoGroup htaker) (by omega)
    rw [insertAtAnchor_id] at hsameId
    obtain rfl := h.groups.eq_of_id hbefore hgroup hsameId
    omega
  · obtain ⟨active, hactive, hid', hmem'⟩ := h.activeGroup
    obtain rfl := h.groups.eq_of_id hactive hgroup (hid'.trans hid.symm)
    exact hmem (hsame ▸ hmem')

theorem newThreadTerminal_keeps (h : Tidy state) (htrim : trimText terminalId = terminalId)
    (hnew : terminalId ∉ state.terminalIds) :
    (∀ id ∈ state.terminalIds, id ∈ (newThreadTerminal state terminalId).terminalIds) ∧
      ∀ group ∈ state.terminalGroups, group ∈ (newThreadTerminal state terminalId).terminalGroups := by
  cases hvalid : isValidTerminalId terminalId with
  | false =>
    rw [newThreadTerminal, upsertTerminalIntoGroups_of_invalid h hvalid]
    exact ⟨fun _ hid => hid, fun _ hgroup => hgroup⟩
  | true =>
    have hfree : terminalId ∉ assignedTerminalIds state.terminalGroups :=
      fun hassigned => hnew (h.groups.terminals terminalId hassigned)
    have hnamed := canonical_of_isValidTerminalId htrim hvalid
    rw [newThreadTerminal_eq h hvalid, (tidy_intoNewGroup h hnamed).normalize_eq]
    refine ⟨fun id hid => mem_withTerminal.mpr (Or.inl hid), fun group hgroup => ?_⟩
    rw [intoNewGroup, withoutTerminal_of_notMem hfree h.groups.nonempty]
    exact List.mem_append_left _ hgroup

theorem tidied_created (h : Tidy state) (htrim : trimText terminalId = terminalId) :
    Tidied state
      (if terminalId ∉ state.terminalIds then newThreadTerminal state terminalId else state) := by
  split_ifs
  · exact h.tidied rfl
  · exact tidied_newThreadTerminal h htrim

theorem tidied_created_inactive (h : Tidy state) (htrim : trimText terminalId = terminalId) :
    Tidied state
      { (if terminalId ∉ state.terminalIds then newThreadTerminal state terminalId else state) with
        activeTerminalId := state.activeTerminalId
        activeTerminalGroupId := state.activeTerminalGroupId } := by
  split_ifs with hterminal
  · exact h.tidied rfl
  · obtain ⟨hids, hgroups⟩ := newThreadTerminal_keeps h htrim hterminal
    obtain ⟨group, hgroup, hid, hmem⟩ := h.activeGroup
    have hnew := tidied_newThreadTerminal h htrim
    exact ⟨⟨hnew.tidy.ids, hnew.tidy.groups, hids _ h.active, ⟨group, hgroups _ hgroup, hid, hmem⟩,
      hnew.tidy.running, hnew.tidy.runningTerminals, hnew.tidy.height⟩, hnew.limit⟩

theorem Tidied.open (h : Tidied before after) (isOpen : Bool) :
    Tidied before (setThreadTerminalOpen after isOpen) :=
  h.trans (tidied_setThreadTerminalOpen h.tidy isOpen)

theorem Tidied.activate (h : Tidied before after) (terminalId : Text) :
    Tidied before (setThreadActiveTerminal after terminalId) :=
  h.trans (tidied_setThreadActiveTerminal h.tidy terminalId)

theorem Tidied.normalize (h : Tidied before after) :
    Tidied before (normalizeThreadTerminalState after) :=
  h.tidy.normalize_eq.symm ▸ h

theorem tidied_ensureThreadTerminal (h : Tidy state) (htrim : trimText terminalId = terminalId)
    (isOpen active : Option Bool) :
    Tidied state (ensureThreadTerminal terminalId isOpen active state) := by
  rw [ensureThreadTerminal]
  have hkept : Tidied state
      (if active = some false then
        { (if terminalId ∉ state.terminalIds then newThreadTerminal state terminalId else state) with
          activeTerminalId := state.activeTerminalId
          activeTerminalGroupId := state.activeTerminalGroupId }
      else
        if terminalId ∉ state.terminalIds then newThreadTerminal state terminalId else state) := by
    by_cases hactive : active = some false
    · rw [if_pos hactive]
      exact tidied_created_inactive h htrim
    · rw [if_neg hactive]
      exact tidied_created h htrim
  generalize (if active = some false then _ else _ : ThreadTerminalState) = kept at hkept ⊢
  refine Tidied.normalize ?_
  have hactivated : Tidied state
      (if active.getD true then setThreadActiveTerminal kept terminalId else kept) := by
    by_cases hactive : active.getD true = true
    · rw [if_pos hactive]
      exact hkept.activate terminalId
    · rw [if_neg hactive]
      exact hkept
  by_cases hopen : isOpen = some true
  · rw [if_pos hopen]
    exact hactivated.open true
  · rw [if_neg hopen]
    exact hactivated

theorem tidied_startThreadTerminal (h : Tidy state) (htrim : trimText terminalId = terminalId) :
    Tidied state (startThreadTerminal terminalId state) :=
  (((tidied_created h htrim).activate terminalId).open true).normalize

end GT3Code.Web
