import GT3Code.Server.Keybindings

/-! # Edits of the keybindings

An edit reads the rules of the file, writes the edited list and sets the cache by hand. The
cache is what loading the written file gives where every written rule resolves and every
string comes through the lenient decoder, and the list has no rule twice where a replacement
does not repeat a rule that stays.
-/

namespace GT3Code.Server

open GT3Code.Base GT3Code.Base.Json GT3Code.Contracts GT3Code.Shared

theorem isSameKeybindingRule_iff {left right : KeybindingRule} :
    isSameKeybindingRule left right = true ↔ left = right := by
  obtain ⟨key, command, when⟩ := left
  obtain ⟨key', command', when'⟩ := right
  simp only [isSameKeybindingRule, Bool.and_eq_true, decide_eq_true_eq, KeybindingRule.mk.injEq]
  exact ⟨fun h => ⟨h.1.2, h.1.1, h.2⟩, fun h => ⟨⟨h.2.1, h.1⟩, h.2.2⟩⟩

theorem decodeKeybindingRule_toEncoded (rule : KeybindingRule) :
    decodeKeybindingRule (toEncoded rule) = some rule := by
  obtain ⟨⟨key, hkey⟩, ⟨command, hcommand⟩, when⟩ := rule
  unfold decodeKeybindingRule toEncoded
  rw [decodeBoundedText_eq hkey, decodeKeybindingCommand, dif_pos hcommand]
  cases when with
  | none => rfl
  | some when =>
    rw [Option.map_some, decodeKeybindingWhen, decodeBoundedText_eq when.2]
    rfl

theorem encodedOfEntry_ruleEntry (rule : KeybindingRule) :
    encodedOfEntry (ruleEntry rule) = some (toEncoded rule) := by
  have hcommand : ascii "key" ≠ ascii "command" := by decide
  have hkeyWhen : ascii "key" ≠ ascii "when" := by decide
  have hcommandWhen : ascii "command" ≠ ascii "when" := by decide
  obtain ⟨key, command, when⟩ := rule
  cases when <;>
    simp [encodedOfEntry, ruleEntry, toEncoded, Doc.field?, hcommand, hkeyWhen, hcommandWhen]

theorem decodeEntry_ruleEntry (rule : KeybindingRule) :
    decodeEntry (ruleEntry rule) = some rule := by
  rw [decodeEntry, encodedOfEntry_ruleEntry, Option.bind_some, decodeKeybindingRule_toEncoded]

/-- Every string of the rule comes through the pass that strips commas. -/
def ReadsBack (rule : KeybindingRule) : Prop :=
  ∀ text ∈ rule.key.1 :: rule.command.1 :: (rule.when.map Subtype.val).toList,
    hasTrailingComma (quoteText text).raw = false

instance (rule : KeybindingRule) : Decidable (ReadsBack rule) :=
  inferInstanceAs (Decidable (∀ text ∈ _, _))

theorem ReadsBack.literals {rule : KeybindingRule} (h : ReadsBack rule) :
    ∀ text ∈ (ruleEntry rule).literals, hasTrailingComma (quoteText text).raw = false := by
  have hnames : ∀ name ∈ [ascii "key", ascii "command", ascii "when"],
      hasTrailingComma (quoteText name).raw = false := by decide
  intro text htext
  have hsplit : text ∈ [ascii "key", ascii "command", ascii "when"] ∨
      text ∈ rule.key.1 :: rule.command.1 :: (rule.when.map Subtype.val).toList := by
    obtain ⟨key, command, when⟩ := rule
    cases when with
    | none | some =>
      simp [ruleEntry] at htext ⊢
      tauto
  exact hsplit.elim (hnames text) (h text)

def configText (rules : List KeybindingRule) : Text := stringify 2 (configValue rules) ++ [10]

variable {rules : List KeybindingRule}

theorem encodeKeybindingsConfig_iff {text : Text} :
    encodeKeybindingsConfig rules = some text ↔
      rules.length ≤ MAX_KEYBINDINGS_COUNT ∧ text = configText rules := by
  unfold encodeKeybindingsConfig
  split
  · rename_i hle
    simp only [Option.some.injEq, hle, true_and]
    exact eq_comm
  · rename_i hle
    simp [hle]

theorem readText_configText (rules : List KeybindingRule) :
    readText (configText rules) = some ((configValue rules).1.map quoteText) :=
  readText_stringify_blanks 2 (configValue rules) (by decide)

theorem decodeKeybindingsConfig_configText (h : rules.length ≤ MAX_KEYBINDINGS_COUNT) :
    decodeKeybindingsConfig (configText rules) = some rules := by
  have hentries : (rules.map ruleEntry).mapM decodeEntry = some rules := by
    clear h
    induction rules with
    | nil => rfl
    | cons rule rules ih =>
      rw [List.map_cons, List.mapM_cons, decodeEntry_ruleEntry, ih]
      rfl
  rw [decodeKeybindingsConfig, parse, readText_configText, Option.map_some, denote_quoteText,
    Option.bind_some, decodeArray, configValue, Option.bind_some, hentries,
    Option.filter_some_pos (by simpa using h)]

theorem decodeRawKeybindingsEntries_configText (h : ∀ rule ∈ rules, ReadsBack rule) :
    decodeRawKeybindingsEntries (configText rules) = some (rules.map ruleEntry) := by
  have huntouched : Untouched ((configValue rules).1.map quoteText) := by
    intro literal hliteral
    rw [Doc.literals_map] at hliteral
    obtain ⟨text, htext, rfl⟩ := List.mem_map.mp hliteral
    rw [configValue, Doc.literals_arr, List.map_map] at htext
    obtain ⟨part, hpart, hmem⟩ := List.mem_flatten.mp htext
    obtain ⟨rule, hrule, rfl⟩ := List.mem_map.mp hpart
    exact (h rule hrule).literals text hmem
  rw [decodeRawKeybindingsEntries, parseLenientJson_eq (readText_configText rules),
    map_stripLiteral huntouched, denote_quoteText, Option.bind_some, decodeArray, configValue]

/-! ## Loading what was written -/

section Service

variable [CaseMapping] [TrimSchema]

def Resolvable (rule : KeybindingRule) : Prop := (resolveKeybindingRule rule).isSome = true

instance (rule : KeybindingRule) : Decidable (Resolvable rule) :=
  inferInstanceAs (Decidable (_ = true))

theorem loadEntry_eq_some_iff {entry : Doc Text} {rule : KeybindingRule} :
    loadEntry entry = some rule ↔ decodeEntry entry = some rule ∧ Resolvable rule := by
  have hresolve : ∀ rule, (decodeResolvedKeybindingRule (toEncoded rule)).isSome = true ↔
      Resolvable rule := by
    intro rule
    rw [decodeResolvedKeybindingRule, decodeKeybindingRule_toEncoded, Option.bind_some, Resolvable]
  rw [loadEntry, Option.filter_eq_some_iff, hresolve]

def HoldsRules (file : Option Text) (rules : List KeybindingRule) : Prop :=
  match file with
  | none => rules = []
  | some text =>
    ∃ entries, decodeRawKeybindingsEntries text = some entries ∧
      entries.map loadEntry = rules.map some

variable {file : Option Text} {rules : List KeybindingRule} {keybindings next : Keybindings}

theorem HoldsRules.loadWritable (h : HoldsRules file rules) :
    loadWritableCustomKeybindingsConfig file = some rules := by
  cases file with
  | none => rw [loadWritableCustomKeybindingsConfig, show rules = [] from h]
  | some text =>
    obtain ⟨entries, hentries, hmap⟩ := h
    have hfilter : entries.filterMap loadEntry = rules := by
      calc entries.filterMap loadEntry
          = (entries.map loadEntry).filterMap id := by rw [List.filterMap_map, Function.id_comp]
        _ = rules := by rw [hmap, List.filterMap_map, Function.id_comp, List.filterMap_some]
    rw [loadWritableCustomKeybindingsConfig, hentries, Option.map_some, hfilter]

theorem loadEntries_eq [FailureTexts] {entries : List (Doc Text)}
    (h : entries.map loadEntry = rules.map some) (index : Nat) :
    loadEntries index entries = (rules, []) := by
  induction entries generalizing rules index with
  | nil =>
    rw [List.map_nil] at h
    rw [List.map_eq_nil_iff.mp h.symm, loadEntries]
  | cons entry entries ih =>
    cases rules with
    | nil => cases h
    | cons rule rules =>
      rw [List.map_cons, List.map_cons, List.cons.injEq] at h
      simp only [loadEntries, ih h.2, h.1]

theorem HoldsRules.loadRuntime [FailureTexts] (h : HoldsRules file rules) :
    loadRuntimeCustomKeybindingsConfig file = (rules, []) := by
  cases file with
  | none => rw [loadRuntimeCustomKeybindingsConfig, show rules = [] from h]
  | some text =>
    obtain ⟨entries, hentries, hmap⟩ := h
    simp only [loadRuntimeCustomKeybindingsConfig, hentries, loadEntries_eq hmap]

theorem HoldsRules.resolvable (h : HoldsRules file rules) : ∀ rule ∈ rules, Resolvable rule := by
  intro rule hrule
  cases file with
  | none =>
    rw [show rules = [] from h] at hrule
    cases hrule
  | some text =>
    obtain ⟨entries, -, hmap⟩ := h
    have hmem : some rule ∈ entries.map loadEntry := hmap ▸ List.mem_map_of_mem hrule
    obtain ⟨entry, -, hentry⟩ := List.mem_map.mp hmem
    exact (loadEntry_eq_some_iff.mp hentry).2

theorem holdsRules_configText (hback : ∀ rule ∈ rules, ReadsBack rule)
    (hresolve : ∀ rule ∈ rules, Resolvable rule) : HoldsRules (some (configText rules)) rules := by
  refine ⟨_, decodeRawKeybindingsEntries_configText hback, ?_⟩
  rw [List.map_map]
  refine List.map_congr_left (fun rule hrule => ?_)
  exact loadEntry_eq_some_iff.mpr ⟨decodeEntry_ruleEntry rule, hresolve rule hrule⟩

/-- The rules that stay before an upserted one: all but the one it replaces, and of those the
latest that leave room for it. -/
def rulesStaying (removed : KeybindingRule) (rules : List KeybindingRule) : List KeybindingRule :=
  let others := rules.filter (fun rule => rule ≠ removed)
  others.drop (others.length + 1 - MAX_KEYBINDINGS_COUNT)

def removedByUpsert (input : ServerUpsertKeybindingInput) : KeybindingRule :=
  input.replace.getD (keybindingRuleFromUpsertInput input)

omit [CaseMapping] [TrimSchema] in
theorem filter_isSame (rules : List KeybindingRule) (target : KeybindingRule) :
    rules.filter (fun entry => !isSameKeybindingRule entry target) =
      rules.filter (fun entry => entry ≠ target) := by
  refine List.filter_congr (fun entry _ => ?_)
  have hsame : isSameKeybindingRule entry target = decide (entry = target) := by
    rw [Bool.eq_iff_iff, isSameKeybindingRule_iff, decide_eq_true_eq]
  rw [hsame, decide_not]

omit [CaseMapping] [TrimSchema] in
theorem keepLatest_concat {α : Type} (xs : List α) (x : α) :
    keepLatest (xs ++ [x]) = xs.drop (xs.length + 1 - MAX_KEYBINDINGS_COUNT) ++ [x] := by
  rw [keepLatest, List.length_append, List.length_singleton, List.drop_append_of_le_length]
  rw [MAX_KEYBINDINGS_COUNT]
  omega

theorem upsert_eq (input : ServerUpsertKeybindingInput) (h : HoldsRules keybindings.file rules) :
    keybindings.upsertKeybindingRule input =
      keybindings.publish
        (rulesStaying (removedByUpsert input) rules ++ [keybindingRuleFromUpsertInput input]) := by
  have hfilter : rules.filter (staysOnUpsert input) =
      rules.filter (fun entry => entry ≠ removedByUpsert input) := by
    rw [removedByUpsert, ← filter_isSame]
    refine List.filter_congr (fun entry _ => ?_)
    rw [staysOnUpsert, replaceTargetFromUpsertInput]
    cases input.replace <;> rfl
  unfold Keybindings.upsertKeybindingRule
  simp only [h.loadWritable, Option.bind_some, hfilter, keepLatest_concat, rulesStaying]

theorem remove_eq (target : KeybindingRule) (h : HoldsRules keybindings.file rules) :
    keybindings.removeKeybindingRule target =
      keybindings.publish (rules.filter (fun rule => rule ≠ target)) := by
  unfold Keybindings.removeKeybindingRule
  simp only [h.loadWritable, Option.bind_some, filter_isSame]

/-- The rule upserted last, until it is removed. -/
def lastUpserted (edits : List KeybindingEdit) : Option KeybindingRule :=
  edits.foldl (fun last edit =>
    match edit with
    | .upsert input => some (keybindingRuleFromUpsertInput input)
    | .remove target => last.filter (fun rule => rule ≠ target)) none

omit [CaseMapping] [TrimSchema] in
theorem lastUpserted_upsert (edits : List KeybindingEdit) (input : ServerUpsertKeybindingInput) :
    lastUpserted (edits ++ [.upsert input]) = some (keybindingRuleFromUpsertInput input) := by
  simp [lastUpserted]

omit [CaseMapping] [TrimSchema] in
theorem lastUpserted_remove (edits : List KeybindingEdit) (target : KeybindingRule) :
    lastUpserted (edits ++ [.remove target]) =
      (lastUpserted edits).filter (fun rule => rule ≠ target) := by
  simp [lastUpserted]

variable [FailureTexts]

/-- After these edits the file has a list without repetitions, at most the limit long, that ends
with the rule upserted last, and cache and subscribers have what loading the file gives. -/
structure Consistent (edits : List KeybindingEdit) (keybindings : Keybindings)
    (rules : List KeybindingRule) : Prop where
  persisted : keybindings.file.bind decodeKeybindingsConfig = some rules
  distinct : rules.Nodup
  last : ∀ rule ∈ lastUpserted edits, rules.getLast? = some rule
  limit : rules.length ≤ MAX_KEYBINDINGS_COUNT
  cached : keybindings.cache = some (loadConfigStateFromDisk keybindings.file)
  emitted : keybindings.changes.getLast? = some (loadConfigStateFromDisk keybindings.file)

/-- The file's entries are valid, with no rule twice, and after an edit the rest holds too. -/
structure Settled (edits : List KeybindingEdit) (keybindings : Keybindings)
    (rules : List KeybindingRule) : Prop where
  holds : HoldsRules keybindings.file rules
  distinct : rules.Nodup
  last : ∀ rule ∈ lastUpserted edits, rules.getLast? = some rule
  edited : edits ≠ [] → Consistent edits keybindings rules

variable {edits : List KeybindingEdit}

theorem settled_publish (hpublish : keybindings.publish rules = some next)
    (hresolve : ∀ rule ∈ rules, Resolvable rule) (hback : ∀ rule ∈ rules, ReadsBack rule)
    (hdistinct : rules.Nodup) (hlast : ∀ rule ∈ lastUpserted edits, rules.getLast? = some rule) :
    Settled edits next rules := by
  obtain ⟨text, htext, rfl⟩ := Option.map_eq_some_iff.mp hpublish
  obtain ⟨hlimit, rfl⟩ := encodeKeybindingsConfig_iff.mp htext
  have hholds := holdsRules_configText hback hresolve
  have hload : loadConfigStateFromDisk (some (configText rules)) =
      ⟨mergeWithDefaultKeybindings (compileResolvedKeybindingsConfig rules), []⟩ := by
    rw [loadConfigStateFromDisk, hholds.loadRuntime]
  refine ⟨hholds, hdistinct, hlast, fun _ => ⟨?_, hdistinct, hlast, hlimit, ?_, ?_⟩⟩
  · exact decodeKeybindingsConfig_configText hlimit
  · exact congrArg some hload.symm
  · exact (List.getLast?_concat ..).trans (congrArg some hload.symm)

/-! ## Edits that keep it -/

def EditsWell (rules : List KeybindingRule) : KeybindingEdit → Prop
  | .upsert input =>
    Resolvable (keybindingRuleFromUpsertInput input) ∧
      ReadsBack (keybindingRuleFromUpsertInput input) ∧
      (∀ rule ∈ rulesStaying (removedByUpsert input) rules, ReadsBack rule) ∧
      keybindingRuleFromUpsertInput input ∉ rulesStaying (removedByUpsert input) rules
  | .remove target => ∀ rule ∈ rules, rule ≠ target → ReadsBack rule

instance (rules : List KeybindingRule) : ∀ edit, Decidable (EditsWell rules edit)
  | .upsert _ => inferInstanceAs (Decidable (_ ∧ _))
  | .remove _ => inferInstanceAs (Decidable (∀ rule ∈ rules, _ → ReadsBack rule))

def EditsWellAt (keybindings : Keybindings) (edit : KeybindingEdit) : Prop :=
  ∀ rules ∈ loadWritableCustomKeybindingsConfig keybindings.file, EditsWell rules edit

instance (keybindings : Keybindings) (edit : KeybindingEdit) :
    Decidable (EditsWellAt keybindings edit) :=
  inferInstanceAs
    (Decidable (∀ rules ∈ loadWritableCustomKeybindingsConfig keybindings.file, EditsWell rules edit))

omit [CaseMapping] [TrimSchema] [FailureTexts] in
theorem rulesStaying_sublist (removed : KeybindingRule) (rules : List KeybindingRule) :
    (rulesStaying removed rules).Sublist rules :=
  (List.drop_sublist _ _).trans List.filter_sublist

theorem settled_upsert {input : ServerUpsertKeybindingInput} (h : Settled edits keybindings rules)
    (hmeets : EditsWell rules (.upsert input))
    (hstep : keybindings.upsertKeybindingRule input = some next) :
    ∃ rules', Settled (edits ++ [.upsert input]) next rules' := by
  obtain ⟨hresolve, hback, hstaying, hfresh⟩ := hmeets
  have hsublist := rulesStaying_sublist (removedByUpsert input) rules
  rw [upsert_eq input h.holds] at hstep
  refine ⟨_, settled_publish hstep ?_ ?_ ?_ ?_⟩
  · intro rule hrule
    rcases List.mem_append.mp hrule with hold | hnew
    · exact h.holds.resolvable rule (hsublist.subset hold)
    · exact List.mem_singleton.mp hnew ▸ hresolve
  · intro rule hrule
    rcases List.mem_append.mp hrule with hold | hnew
    · exact hstaying rule hold
    · exact List.mem_singleton.mp hnew ▸ hback
  · have hstay := h.distinct.sublist hsublist
    generalize rulesStaying (removedByUpsert input) rules = staying at hfresh hstay ⊢
    exact List.nodup_append_comm.mp (List.nodup_cons.mpr ⟨hfresh, hstay⟩)
  · intro rule hrule
    rw [lastUpserted_upsert] at hrule
    cases hrule
    exact List.getLast?_concat ..

theorem settled_remove {target : KeybindingRule} (h : Settled edits keybindings rules)
    (hmeets : EditsWell rules (.remove target))
    (hstep : keybindings.removeKeybindingRule target = some next) :
    ∃ rules', Settled (edits ++ [.remove target]) next rules' := by
  rw [remove_eq target h.holds] at hstep
  refine ⟨_, settled_publish hstep ?_ ?_ (h.distinct.sublist List.filter_sublist) ?_⟩
  · exact fun rule hrule => h.holds.resolvable rule (List.mem_of_mem_filter hrule)
  · intro rule hrule
    obtain ⟨hmem, hne⟩ := List.mem_filter.mp hrule
    exact hmeets rule hmem (of_decide_eq_true hne)
  · intro rule hrule
    rw [lastUpserted_remove] at hrule
    obtain ⟨hlast, hkept⟩ := Option.filter_eq_some_iff.mp hrule
    obtain ⟨front, rfl⟩ := List.getLast?_eq_some_iff.mp (h.last rule hlast)
    rw [List.filter_append, List.filter_cons_of_pos (by simpa using hkept), List.filter_nil,
      List.getLast?_concat]

theorem settled_edit {edit : KeybindingEdit} (h : ∃ rules, Settled edits keybindings rules)
    (hmeets : EditsWellAt keybindings edit) (hstep : keybindings.edit edit = some next) :
    ∃ rules, Settled (edits ++ [edit]) next rules := by
  obtain ⟨rules, hsettled⟩ := h
  have hwell := hmeets rules hsettled.holds.loadWritable
  cases edit with
  | upsert input => exact settled_upsert hsettled hwell hstep
  | remove target => exact settled_remove hsettled hwell hstep

def Keybindings.start (file : Option Text) (cache : Option KeybindingsConfigState) :
    Keybindings :=
  ⟨file, cache, []⟩

/-- File, cache and subscribers agree after every edit. -/
def ConsistentAfterEach (file : Option Text) (cache : Option KeybindingsConfigState)
    (edits : List KeybindingEdit) : Prop :=
  ∀ done, done <+: edits → done ≠ [] → ∀ keybindings,
    exec Keybindings.edit (.start file cache) done = some keybindings →
      ∃ rules, Consistent done keybindings rules

/-- In a run of edits that meet their conditions, from a file whose entries are valid and
pairwise different, file, cache and subscribers agree after every edit. -/
theorem edits_consistent (file : Option Text) (cache : Option KeybindingsConfigState)
    (rules : List KeybindingRule) (hfile : HoldsRules file rules) (hdistinct : rules.Nodup)
    (edits : List KeybindingEdit)
    (hmeet : StepsMeet Keybindings.edit EditsWellAt (.start file cache) edits) :
    ConsistentAfterEach file cache edits := by
  have hstart : Settled [] (.start file cache) rules :=
    ⟨hfile, hdistinct, fun _ hrule => absurd hrule (Option.not_mem_none _), fun h => absurd rfl h⟩
  rintro done ⟨rest, rfl⟩ hdone keybindings hexec
  have hsettled := exec_invariant_so_far
    (I := fun done keybindings =>
      StepsMeet Keybindings.edit EditsWellAt (.start file cache) done →
        ∃ rules, Settled done keybindings rules)
    (fun _ => ⟨rules, hstart⟩) (fun edits keybindings edit next hbefore hrun hstep hmeets => by
      obtain ⟨hfirst, hlast⟩ := (stepsMeet_concat hrun hstep).mp hmeets
      exact settled_edit (hbefore hfirst) hlast hstep) hexec
  obtain ⟨rules, h⟩ := hsettled ((stepsMeet_append rest hexec).mp hmeet).1
  exact ⟨rules, h.edited hdone⟩

end Service

attribute [local instance] asciiCaseMapping strictTrimSchema emptyFailureTexts

def toggleOn (key : KeybindingValue) : KeybindingRule := ⟨key, terminalToggle, none⟩

/-- Bind `key` to the command, in the place of `replace` if there is one. -/
def bindToggle (key : KeybindingValue) (replace : Option KeybindingRule) : KeybindingEdit :=
  .upsert ⟨key, terminalToggle, none, replace⟩

def modJValue : KeybindingValue := ⟨ascii "mod+j", by decide⟩

def modKValue : KeybindingValue := ⟨ascii "mod+k", by decide⟩

/-- A binding is written, replaced by another and removed. -/
def replacedRun : List KeybindingEdit :=
  [bindToggle modJValue none, bindToggle modKValue (some (toggleOn modJValue)),
    .remove (toggleOn modKValue)]

theorem edits_consistent_replaced :
    ConsistentAfterEach none none replacedRun ∧
      (exec Keybindings.edit (.start none none) (replacedRun.take 2)).map
          (fun keybindings => keybindings.file.bind decodeKeybindingsConfig) =
        some (some [toggleOn modKValue]) ∧
      (exec Keybindings.edit (.start none none) replacedRun).map
          (fun keybindings => keybindings.file.bind decodeKeybindingsConfig) = some (some []) :=
  ⟨edits_consistent none none [] rfl List.nodup_nil _ (by decide +kernel), by decide +kernel,
    by decide +kernel⟩

/-- Two bindings are written, then the second is replaced by a copy of the first. -/
theorem not_edits_consistent :
    ¬ ∀ (_ : CaseMapping) (_ : TrimSchema) (_ : FailureTexts) (file : Option Text)
        (cache : Option KeybindingsConfigState) (rules : List KeybindingRule)
        (_ : HoldsRules file rules) (_ : rules.Nodup) (edits : List KeybindingEdit),
        ConsistentAfterEach file cache edits := by
  intro h
  have hrun := h asciiCaseMapping strictTrimSchema emptyFailureTexts none none [] rfl
    List.nodup_nil [bindToggle modJValue none, bindToggle modKValue none,
      bindToggle modJValue (some (toggleOn modKValue))]
  have hend : (exec Keybindings.edit (.start none none)
      [bindToggle modJValue none, bindToggle modKValue none,
        bindToggle modJValue (some (toggleOn modKValue))]).map
      (fun keybindings => keybindings.file.bind decodeKeybindingsConfig) =
        some (some [toggleOn modJValue, toggleOn modJValue]) := by decide +kernel
  obtain ⟨keybindings, hexec, hpersisted⟩ := Option.map_eq_some_iff.mp hend
  obtain ⟨rules, hconsistent⟩ := hrun _ (List.prefix_refl _) (by simp) keybindings hexec
  have hdistinct := hconsistent.distinct
  rw [Option.some.inj (hconsistent.persisted.symm.trans hpersisted)] at hdistinct
  simp at hdistinct

end GT3Code.Server
