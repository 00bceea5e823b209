import GT3Code.Server.KeybindingRoundTrip
import GT3Code.Web.Shortcuts

/-! # The shortcut shown for a command

`findEffectiveShortcutForCommand` claims the conflict key of every binding whose clause holds,
from the last binding on, and stops at a binding of the command with an unclaimed key. Two
shortcuts have one conflict key exactly where they ask for the same event, so no later binding
takes the event of the shortcut found. The event reaches the binding itself where the
binding's key is written as the keys of events are.
-/

namespace GT3Code.Web

open GT3Code.Base GT3Code.Base.Json GT3Code.Contracts GT3Code.Shared GT3Code.Server

/-! ## Conflict keys -/

def conflictField (held : Bool) (name : Text) : Text := if held then name else []

def shortcutConflictKey (shortcut : KeybindingShortcut) (platform : Text) : Text :=
  let useMetaForMod := isMacPlatform platform
  let metaKey := shortcut.metaKey || (shortcut.modKey && useMetaForMod)
  let ctrlKey := shortcut.ctrlKey || (shortcut.modKey && !useMetaForMod)
  List.intercalate [pipe]
    [shortcut.key, conflictField metaKey (ascii "meta"), conflictField ctrlKey (ascii "ctrl"),
      conflictField shortcut.shiftKey (ascii "shift"), conflictField shortcut.altKey (ascii "alt")]

/-- The event on a shortcut's key with its modifiers on the platform, and no code. -/
def shortcutEvent (shortcut : KeybindingShortcut) (platform : Text) : ShortcutEventLike :=
  let useMetaForMod := isMacPlatform platform
  { code := none
    key := shortcut.key
    metaKey := shortcut.metaKey || (shortcut.modKey && useMetaForMod)
    ctrlKey := shortcut.ctrlKey || (shortcut.modKey && !useMetaForMod)
    shiftKey := shortcut.shiftKey
    altKey := shortcut.altKey }

variable {name : Text}

theorem conflictField_eq_iff (hname : name ≠ []) {left right : Bool} :
    conflictField left name = conflictField right name ↔ left = right := by
  cases left <;> cases right <;> simp [conflictField, hname, eq_comm]

theorem separator_notMem_conflictField (hname : pipe ∉ name) (held : Bool) :
    pipe ∉ conflictField held name := by
  cases held <;> simp [conflictField, hname]

theorem append_separator_inj {front front' field field' : Text} (hfield : pipe ∉ field)
    (hfield' : pipe ∉ field') :
    front ++ pipe :: field = front' ++ pipe :: field' ↔ front = front' ∧ field = field' := by
  constructor
  · intro h
    rcases List.append_eq_append_iff.mp h with ⟨between, hfront, hrest⟩ | ⟨between, hfront, hrest⟩
    · cases between with
      | nil => exact ⟨by simpa using hfront.symm, by simpa using hrest⟩
      | cons u between =>
        rw [List.cons_append, List.cons.injEq] at hrest
        exact absurd (hrest.2 ▸ List.mem_append_right _ List.mem_cons_self) hfield
    · cases between with
      | nil => exact ⟨by simpa using hfront, by simpa using hrest.symm⟩
      | cons u between =>
        rw [List.cons_append, List.cons.injEq] at hrest
        exact absurd (hrest.2 ▸ List.mem_append_right _ List.mem_cons_self) hfield'
  · intro h
    rw [h.1, h.2]

theorem shortcutConflictKey_eq_iff {left right : KeybindingShortcut} {platform : Text} :
    shortcutConflictKey left platform = shortcutConflictKey right platform ↔
      shortcutEvent left platform = shortcutEvent right platform := by
  have hsplit : ∀ shortcut, shortcutConflictKey shortcut platform =
      (((shortcut.key ++
          pipe :: conflictField (shortcutEvent shortcut platform).metaKey (ascii "meta")) ++
          pipe :: conflictField (shortcutEvent shortcut platform).ctrlKey (ascii "ctrl")) ++
          pipe :: conflictField (shortcutEvent shortcut platform).shiftKey (ascii "shift")) ++
          pipe :: conflictField (shortcutEvent shortcut platform).altKey (ascii "alt") := by
    intro shortcut
    simp [shortcutConflictKey, shortcutEvent, List.intercalate_cons_cons]
  rw [hsplit, hsplit, append_separator_inj, append_separator_inj, append_separator_inj,
    append_separator_inj, conflictField_eq_iff, conflictField_eq_iff, conflictField_eq_iff,
    conflictField_eq_iff]
  · simp only [shortcutEvent, ShortcutEventLike.mk.injEq, and_assoc, true_and]
  all_goals first
    | exact separator_notMem_conflictField (by decide) _
    | decide

section Matching

variable [CaseMapping]

theorem matchesShortcut_iff {event : ShortcutEventLike} (hcode : event.code = none)
    {shortcut : KeybindingShortcut} {platform : Text} :
    matchesShortcut event shortcut platform = true ↔
      { event with key := normalizeEventKey event.key } = shortcutEvent shortcut platform := by
  obtain ⟨code, key, metaKey, ctrlKey, shiftKey, altKey⟩ := event
  subst hcode
  simp only [matchesShortcut, matchesShortcutModifiers, resolveEventKeys, Option.filter_none,
    Option.bind_none, Option.getD_none, Bool.and_eq_true, beq_iff_eq, List.contains_cons,
    List.contains_nil, Bool.or_false, shortcutEvent, ShortcutEventLike.mk.injEq, true_and]
  tauto

omit [CaseMapping] in
/-- The loop over the bindings from the last one, with the conflict keys claimed so far. -/
def effectiveShortcutFrom (command : KeybindingCommand) (platform : Text)
    (context : ShortcutMatchContext) :
    List Text → List ResolvedKeybindingRule → Option KeybindingShortcut
  | _, [] => none
  | claimedShortcuts, binding :: bindings =>
    if !matchesWhenClause binding.whenAst context then
      effectiveShortcutFrom command platform context claimedShortcuts bindings
    else
      let conflictKey := shortcutConflictKey binding.shortcut platform
      if claimedShortcuts.contains conflictKey then
        effectiveShortcutFrom command platform context claimedShortcuts bindings
      else if binding.command = command then some binding.shortcut
      else
        effectiveShortcutFrom command platform context (conflictKey :: claimedShortcuts) bindings

omit [CaseMapping] in
def findEffectiveShortcutForCommand (keybindings : List ResolvedKeybindingRule)
    (command : KeybindingCommand) (platform : Text) (context : ShortcutMatchContext) :
    Option KeybindingShortcut :=
  effectiveShortcutFrom command platform context [] keybindings.reverse

section Scan

variable {command : KeybindingCommand} {platform : Text} {context : ShortcutMatchContext}

/-- `binding` takes the conflict key from every binding after it in the scan. -/
def Claims (platform : Text) (context : ShortcutMatchContext) (conflictKey : Text)
    (binding : ResolvedKeybindingRule) : Prop :=
  matchesWhenClause binding.whenAst context = true ∧
    shortcutConflictKey binding.shortcut platform = conflictKey

omit [CaseMapping] in
variable {claimed : List Text} {bindings : List ResolvedKeybindingRule}

omit [CaseMapping] in
theorem effectiveShortcutFrom_eq_some {shortcut : KeybindingShortcut}
    (h : effectiveShortcutFrom command platform context claimed bindings = some shortcut) :
    ∃ front binding back, bindings = front ++ binding :: back ∧
      matchesWhenClause binding.whenAst context = true ∧ binding.command = command ∧
      binding.shortcut = shortcut ∧ shortcutConflictKey shortcut platform ∉ claimed ∧
      ∀ earlier ∈ front, ¬Claims platform context (shortcutConflictKey shortcut platform) earlier := by
  induction bindings generalizing claimed with
  | nil => cases h
  | cons binding bindings ih =>
    rw [effectiveShortcutFrom] at h
    cases hwhen : matchesWhenClause binding.whenAst context with
    | false =>
      rw [hwhen, if_pos (by simp)] at h
      obtain ⟨front, found, back, rfl, hactive, hcommand, hshortcut, hfresh, hfront⟩ := ih h
      refine ⟨binding :: front, found, back, rfl, hactive, hcommand, hshortcut, hfresh, ?_⟩
      rintro earlier hearlier ⟨hholds, hkey⟩
      rcases List.mem_cons.mp hearlier with rfl | hmem
      · rw [hwhen] at hholds
        cases hholds
      · exact hfront earlier hmem ⟨hholds, hkey⟩
    | true =>
      rw [hwhen, if_neg (by simp)] at h
      by_cases hclaimed : shortcutConflictKey binding.shortcut platform ∈ claimed
      · rw [if_pos (by simpa using hclaimed)] at h
        obtain ⟨front, found, back, rfl, hactive, hcommand, hshortcut, hfresh, hfront⟩ := ih h
        refine ⟨binding :: front, found, back, rfl, hactive, hcommand, hshortcut, hfresh, ?_⟩
        rintro earlier hearlier ⟨hholds, hkey⟩
        rcases List.mem_cons.mp hearlier with rfl | hmem
        · exact hfresh (hkey ▸ hclaimed)
        · exact hfront earlier hmem ⟨hholds, hkey⟩
      · rw [if_neg (by simpa using hclaimed)] at h
        by_cases hcommand : binding.command = command
        · rw [if_pos hcommand] at h
          cases h
          exact ⟨[], binding, bindings, rfl, hwhen, hcommand, rfl, hclaimed, by simp⟩
        · rw [if_neg hcommand] at h
          obtain ⟨front, found, back, rfl, hactive, hcommand, hshortcut, hfresh, hfront⟩ := ih h
          rw [List.mem_cons, not_or] at hfresh
          refine ⟨binding :: front, found, back, rfl, hactive, hcommand, hshortcut, hfresh.2, ?_⟩
          rintro earlier hearlier ⟨hholds, hkey⟩
          rcases List.mem_cons.mp hearlier with rfl | hmem
          · exact hfresh.1 hkey.symm
          · exact hfront earlier hmem ⟨hholds, hkey⟩

omit [CaseMapping] in
theorem effectiveShortcutFrom_eq_none
    (h : effectiveShortcutFrom command platform context claimed bindings = none)
    {front back : List ResolvedKeybindingRule} {binding : ResolvedKeybindingRule}
    (hsplit : bindings = front ++ binding :: back)
    (hactive : matchesWhenClause binding.whenAst context = true)
    (hcommand : binding.command = command) :
    shortcutConflictKey binding.shortcut platform ∈ claimed ∨
      ∃ earlier ∈ front,
        Claims platform context (shortcutConflictKey binding.shortcut platform) earlier := by
  induction front generalizing claimed bindings with
  | nil =>
    rw [hsplit, List.nil_append, effectiveShortcutFrom, hactive, if_neg (by simp)] at h
    by_cases hclaimed : shortcutConflictKey binding.shortcut platform ∈ claimed
    · exact Or.inl hclaimed
    · rw [if_neg (by simpa using hclaimed), if_pos hcommand] at h
      cases h
  | cons first front ih =>
    rw [hsplit, List.cons_append, effectiveShortcutFrom] at h
    have hlater : ∀ {claimed : List Text},
        effectiveShortcutFrom command platform context claimed (front ++ binding :: back) = none →
        shortcutConflictKey binding.shortcut platform ∈ claimed ∨
          ∃ earlier ∈ first :: front,
            Claims platform context (shortcutConflictKey binding.shortcut platform) earlier := by
      intro claimed hnone
      refine (ih hnone rfl).imp_right ?_
      rintro ⟨earlier, hmem, hclaims⟩
      exact ⟨earlier, List.mem_cons_of_mem _ hmem, hclaims⟩
    cases hwhen : matchesWhenClause first.whenAst context with
    | false =>
      rw [hwhen, if_pos (by simp)] at h
      exact hlater h
    | true =>
      rw [hwhen, if_neg (by simp)] at h
      by_cases hclaimed : shortcutConflictKey first.shortcut platform ∈ claimed
      · rw [if_pos (by simpa using hclaimed)] at h
        exact hlater h
      · rw [if_neg (by simpa using hclaimed)] at h
        by_cases hfirst : first.command = command
        · rw [if_pos hfirst] at h
          cases h
        · rw [if_neg hfirst] at h
          rcases hlater h with hmem | hfound
          · rcases List.mem_cons.mp hmem with hkey | hold
            · exact Or.inr ⟨first, List.mem_cons_self, hwhen, hkey.symm⟩
            · exact Or.inl hold
          · exact Or.inr hfound

end Scan

theorem normalizeEventKey_compiled {rule : KeybindingRule} {resolved : ResolvedKeybindingRule}
    (h : compileResolvedKeybindingRule rule = some resolved) :
    normalizeEventKey resolved.shortcut.key = resolved.shortcut.key := by
  obtain ⟨-, hparse, -⟩ := compileResolvedKeybindingRule_eq_some_iff.mp h
  obtain ⟨token, htoken, hkey⟩ := parseKeybindingShortcut_key hparse
  rw [hkey, normalizeKeyToken]
  split
  · rw [normalizeEventKey, toLowerCase_plain (by decide)]
    rfl
  · split
    · rw [normalizeEventKey, toLowerCase_plain (by decide)]
      rfl
    · rename_i hescape
      rw [normalizeEventKey, htoken.lowered]
      exact if_neg hescape

/-- A binding fires on an event without a code where its clause holds and it claims the
conflict key of the event. -/
theorem fires_iff {press : KeyPress} (hcode : press.event.code = none)
    {binding : ResolvedKeybindingRule} :
    press.fires binding = true ↔
      matchesWhenClause binding.whenAst press.context = true ∧
        { press.event with key := normalizeEventKey press.event.key } =
          shortcutEvent binding.shortcut press.platform := by
  rw [KeyPress.fires, Bool.and_eq_true, matchesShortcut_iff hcode]

/-- The event of the shortcut found resolves to the command where its key is written as events
write it, as that of every compiled rule is; where none is found, no event without a code
does. -/
theorem effectiveShortcut_resolves (keybindings : List ResolvedKeybindingRule) (platform : Text)
    (context : ShortcutMatchContext) (command : KeybindingCommand) :
    (∀ shortcut,
        findEffectiveShortcutForCommand keybindings command platform context = some shortcut →
        normalizeEventKey shortcut.key = shortcut.key →
        resolveShortcutCommand ⟨shortcutEvent shortcut platform, platform, context⟩ keybindings =
          some command) ∧
      (findEffectiveShortcutForCommand keybindings command platform context = none →
        ∀ event : ShortcutEventLike, event.code = none →
          resolveShortcutCommand ⟨event, platform, context⟩ keybindings ≠ some command) ∧
      ∀ (rule : KeybindingRule) (resolved : ResolvedKeybindingRule),
        compileResolvedKeybindingRule rule = some resolved →
        normalizeEventKey resolved.shortcut.key = resolved.shortcut.key := by
  refine ⟨?_, ?_, fun rule resolved => normalizeEventKey_compiled⟩
  · intro shortcut hfind hkey
    obtain ⟨front, binding, back, hsplit, hactive, hcommand, rfl, -, hfront⟩ :=
      effectiveShortcutFrom_eq_some hfind
    have hpress : { shortcutEvent binding.shortcut platform with
        key := normalizeEventKey (shortcutEvent binding.shortcut platform).key } =
          shortcutEvent binding.shortcut platform := by
      rw [show (shortcutEvent binding.shortcut platform).key = binding.shortcut.key from rfl, hkey]
      rfl
    rw [resolveShortcutCommand, resolveShortcutBinding_eq]
    have hfound : keybindings.reverse.find?
        (KeyPress.fires ⟨shortcutEvent binding.shortcut platform, platform, context⟩) =
          some binding := by
      refine List.find?_eq_some_iff_append.mpr ⟨(fires_iff rfl).mpr ⟨hactive, hpress⟩,
        front, back, hsplit, fun earlier hearlier => ?_⟩
      rw [Bool.not_eq_true', ← Bool.not_eq_true, fires_iff rfl]
      rintro ⟨hholds, hevent⟩
      refine hfront earlier hearlier ⟨hholds, shortcutConflictKey_eq_iff.mpr ?_⟩
      exact hevent.symm.trans hpress
    rw [hfound, Option.map_some, hcommand]
  · intro hfind event hcode hresolve
    rw [resolveShortcutCommand, resolveShortcutBinding_eq] at hresolve
    obtain ⟨binding, hfound, hcommand⟩ := Option.map_eq_some_iff.mp hresolve
    obtain ⟨hfires, front, back, hsplit, hfront⟩ := List.find?_eq_some_iff_append.mp hfound
    obtain ⟨hactive, hevent⟩ := (fires_iff hcode).mp hfires
    rcases effectiveShortcutFrom_eq_none hfind hsplit hactive hcommand with
      hclaimed | ⟨earlier, hearlier, hholds, hkey⟩
    · cases hclaimed
    · have hnot := hfront earlier hearlier
      rw [Bool.not_eq_true', ← Bool.not_eq_true, fires_iff hcode] at hnot
      exact hnot ⟨hholds, hevent.trans (shortcutConflictKey_eq_iff.mp hkey).symm⟩

end Matching

attribute [local instance] asciiCaseMapping

/-- `mod+J`, with a capital letter. -/
def modCapitalJ : KeybindingShortcut where
  key := ascii "J"
  metaKey := false
  ctrlKey := false
  shiftKey := false
  altKey := false
  modKey := true

/-- The shortcut is shown, and its event resolves to nothing. -/
theorem not_effectiveShortcut_resolves :
    ¬ ∀ (_ : CaseMapping) (keybindings : List ResolvedKeybindingRule) (platform : Text)
        (context : ShortcutMatchContext) (command : KeybindingCommand)
        (shortcut : KeybindingShortcut),
        findEffectiveShortcutForCommand keybindings command platform context = some shortcut →
        resolveShortcutCommand ⟨shortcutEvent shortcut platform, platform, context⟩ keybindings =
          some command := by
  intro h
  have hresolve := h asciiCaseMapping [⟨terminalToggle, modCapitalJ, none⟩] (ascii "Linux")
    (fun _ => false) terminalToggle modCapitalJ (by decide +kernel)
  have hnone : resolveShortcutCommand
      ⟨shortcutEvent modCapitalJ (ascii "Linux"), ascii "Linux", fun _ => false⟩
      [⟨terminalToggle, modCapitalJ, none⟩] = none := by decide +kernel
  rw [hnone] at hresolve
  cases hresolve

end GT3Code.Web
