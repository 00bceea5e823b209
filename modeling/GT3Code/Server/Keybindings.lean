import GT3Code.Shared.Keybindings

/-! # Keybindings of the server

A rule as the config holds it and the resolved rule are the two sides of one codec.
Decoding compiles the rule, encoding writes the shortcut and the expression anew, and each
side checks what it is given against its schema. The service keeps the rules in a file, and
in a cache what it would load from there.
-/

namespace GT3Code.Server

open GT3Code.Base GT3Code.Base.Json GT3Code.Contracts GT3Code.Shared

/-- The check on the decoded side of `Schema.Trim`, which trimmed strings pass. -/
class TrimSchema where
  isTrimmed : Text → Bool
  isTrimmed_of_trimText : ∀ value, trimText value = value → isTrimmed value = true

/-- `Schema.Trim` with a check that asks for a trimmed string. -/
@[reducible] def strictTrimSchema : TrimSchema where
  isTrimmed value := trimText value = value
  isTrimmed_of_trimText _ h := decide_eq_true h

def modifierNames (shortcut : KeybindingShortcut) : List Text :=
  (if shortcut.modKey then [ascii "mod"] else []) ++
    (if shortcut.metaKey then [ascii "meta"] else []) ++
    (if shortcut.ctrlKey then [ascii "ctrl"] else []) ++
    (if shortcut.altKey then [ascii "alt"] else []) ++
    (if shortcut.shiftKey then [ascii "shift"] else [])

def encodeShortcut (shortcut : KeybindingShortcut) : Option Text :=
  if shortcut.key = [] then none
  else if shortcut.key ≠ [plus] ∧ plus ∈ shortcut.key then none
  else
    let key := if shortcut.key = ascii " " then ascii "space" else shortcut.key
    some (List.intercalate [plus] (modifierNames shortcut ++ [key]))

def encodeWhenAst : KeybindingWhenNode → Text
  | .identifier name => name
  | .not node => ascii "!(" ++ encodeWhenAst node ++ ascii ")"
  | .and left right =>
    ascii "(" ++ encodeWhenAst left ++ ascii " && " ++ encodeWhenAst right ++ ascii ")"
  | .or left right =>
    ascii "(" ++ encodeWhenAst left ++ ascii " || " ++ encodeWhenAst right ++ ascii ")"

/-- `KeybindingWhenNode` asks for names that are not empty. -/
def acceptsWhenNode : KeybindingWhenNode → Bool
  | .identifier name => !name.isEmpty
  | .not node => acceptsWhenNode node
  | .and left right => acceptsWhenNode left && acceptsWhenNode right
  | .or left right => acceptsWhenNode left && acceptsWhenNode right

section Codec

variable [TrimSchema]

/-- The checks on the decoded side of `KeybindingValue` and `KeybindingWhen`. -/
def acceptsBoundedText (limit : Nat) (value : Text) : Bool :=
  TrimSchema.isTrimmed value && decide (1 ≤ value.length) && decide (value.length ≤ limit)

/-- The checks of `ResolvedKeybindingRule`. -/
def acceptsResolvedKeybindingRule (resolved : ResolvedKeybindingRule) : Bool :=
  acceptsBoundedText MAX_KEYBINDING_VALUE_LENGTH resolved.shortcut.key &&
    resolved.whenAst.all acceptsWhenNode

/-- `ResolvedKeybindingFromConfig` on a decoded rule. -/
def resolveKeybindingRule [CaseMapping] (rule : KeybindingRule) : Option ResolvedKeybindingRule :=
  (compileResolvedKeybindingRule rule).filter acceptsResolvedKeybindingRule

/-- The encoder of `ResolvedKeybindingFromConfig`, between the checks of both schemas. -/
def encodeResolvedKeybindingRule (resolved : ResolvedKeybindingRule) :
    Option EncodedKeybindingRule :=
  if acceptsResolvedKeybindingRule resolved then
    match encodeShortcut resolved.shortcut with
    | none => none
    | some key =>
      if key = [] then none
      else
        let when := resolved.whenAst.map encodeWhenAst
        if acceptsBoundedText MAX_KEYBINDING_VALUE_LENGTH key &&
            when.all (acceptsBoundedText MAX_KEYBINDING_WHEN_LENGTH) then
          some ⟨key, resolved.command.1, when⟩
        else none
  else none

/-- `Schema.decodeExit(ResolvedKeybindingFromConfig)` -/
def decodeResolvedKeybindingRule [CaseMapping] (encoded : EncodedKeybindingRule) :
    Option ResolvedKeybindingRule :=
  (decodeKeybindingRule encoded).bind resolveKeybindingRule

end Codec

/-! ## The file -/

/-- The fields of a parsed entry; what else the object holds is ignored. -/
def encodedOfEntry (entry : Doc Text) : Option EncodedKeybindingRule :=
  match entry.field? (ascii "key"), entry.field? (ascii "command"),
    entry.field? (ascii "when") with
  | some (.str key), some (.str command), none => some ⟨key, command, none⟩
  | some (.str key), some (.str command), some (.str when) => some ⟨key, command, some when⟩
  | _, _, _ => none

/-- `Schema.decodeUnknownExit(KeybindingRule)` -/
def decodeEntry (entry : Doc Text) : Option KeybindingRule :=
  (encodedOfEntry entry).bind decodeKeybindingRule

/-- `Schema.Array(Schema.Unknown)` -/
def decodeArray (value : Value) : Option (List (Doc Text)) :=
  match value.1 with
  | .arr items => some items
  | _ => none

/-- `RawKeybindingsEntries` -/
def decodeRawKeybindingsEntries (text : Text) : Option (List (Doc Text)) :=
  (parseLenientJson text).bind decodeArray

def toEncoded (rule : KeybindingRule) : EncodedKeybindingRule :=
  ⟨rule.key.1, rule.command.1, rule.when.map Subtype.val⟩

def ruleEntry (rule : KeybindingRule) : Doc Text :=
  match rule.when with
  | none => .obj [(ascii "key", .str rule.key.1), (ascii "command", .str rule.command.1)]
  | some when =>
    .obj [(ascii "key", .str rule.key.1), (ascii "command", .str rule.command.1),
      (ascii "when", .str when.1)]

theorem distinct_ruleEntry (rule : KeybindingRule) : (ruleEntry rule).Distinct := by
  have hkeys : [ascii "key", ascii "command", ascii "when"].Nodup := by decide
  unfold ruleEntry
  cases rule.when with
  | none =>
    refine (Doc.distinct_obj _).mpr ⟨hkeys.sublist (by simp), fun entry hentry => ?_⟩
    simp only [List.mem_cons, List.not_mem_nil, or_false] at hentry
    rcases hentry with rfl | rfl <;> rfl
  | some when =>
    refine (Doc.distinct_obj _).mpr ⟨hkeys, fun entry hentry => ?_⟩
    simp only [List.mem_cons, List.not_mem_nil, or_false] at hentry
    rcases hentry with rfl | rfl | rfl <;> rfl

def configValue (rules : List KeybindingRule) : Value :=
  ⟨.arr (rules.map ruleEntry), (Doc.distinct_arr _).mpr (fun entry hentry => by
    obtain ⟨rule, -, rfl⟩ := List.mem_map.mp hentry
    exact distinct_ruleEntry rule)⟩

/-- `KeybindingsConfigPrettyJson` and the newline after it. -/
def encodeKeybindingsConfig (rules : List KeybindingRule) : Option Text :=
  if rules.length ≤ MAX_KEYBINDINGS_COUNT then some (stringify 2 (configValue rules) ++ [10])
  else none

/-- The rules that `KeybindingsConfigJson` finds in a text. -/
def decodeKeybindingsConfig (text : Text) : Option (List KeybindingRule) :=
  (((parse text).bind decodeArray).bind (List.mapM decodeEntry)).filter
    (fun rules => rules.length ≤ MAX_KEYBINDINGS_COUNT)

inductive ServerConfigIssue where
  | malformedConfig (message : Text)
  | invalidEntry (index : Nat) (message : Text)

/-- The texts of decoding failures, `Cause.pretty(cause)`. -/
class FailureTexts where
  config : Text → Text
  entry : Doc Text → Text

@[reducible] def emptyFailureTexts : FailureTexts where
  config _ := []
  entry _ := []

def trimIssueMessage (message : Text) : Text :=
  let trimmed := trimText message
  if trimmed.length > 0 then trimmed else ascii "Invalid keybindings configuration."

def malformedConfigIssue (detail : Text) : ServerConfigIssue :=
  .malformedConfig (trimIssueMessage detail)

def invalidEntryIssue (index : Nat) (detail : Text) : ServerConfigIssue :=
  .invalidEntry index (trimIssueMessage detail)

structure KeybindingsConfigState where
  keybindings : List ResolvedKeybindingRule
  issues : List ServerConfigIssue

section Service

variable [CaseMapping]

def mergeWithDefaultKeybindings (custom : List ResolvedKeybindingRule) :
    List ResolvedKeybindingRule :=
  if custom.length = 0 then DEFAULT_RESOLVED_KEYBINDINGS
  else
    let overriddenCommands := custom.map ResolvedKeybindingRule.command
    let retainedDefaults := DEFAULT_RESOLVED_KEYBINDINGS.filter
      (fun binding => !overriddenCommands.contains binding.command)
    keepLatest (retainedDefaults ++ custom)

variable [TrimSchema]

def loadEntry (entry : Doc Text) : Option KeybindingRule :=
  (decodeEntry entry).filter (fun rule => (decodeResolvedKeybindingRule (toEncoded rule)).isSome)

/-- The file is missing, or it has an array; anything else is an error. -/
def loadWritableCustomKeybindingsConfig (file : Option Text) : Option (List KeybindingRule) :=
  match file with
  | none => some []
  | some text => (decodeRawKeybindingsEntries text).map (List.filterMap loadEntry)

section Runtime

variable [FailureTexts]

def loadEntries : Nat → List (Doc Text) → List KeybindingRule × List ServerConfigIssue
  | _, [] => ([], [])
  | index, entry :: entries =>
    let (keybindings, issues) := loadEntries (index + 1) entries
    match loadEntry entry with
    | some rule => (rule :: keybindings, issues)
    | none => (keybindings, invalidEntryIssue index (FailureTexts.entry entry) :: issues)

def loadRuntimeCustomKeybindingsConfig (file : Option Text) :
    List KeybindingRule × List ServerConfigIssue :=
  match file with
  | none => ([], [])
  | some text =>
    match decodeRawKeybindingsEntries text with
    | none =>
      ([], [malformedConfigIssue
        (ascii "expected JSON array (" ++ FailureTexts.config text ++ ascii ")")])
    | some entries => loadEntries 0 entries

def loadConfigStateFromDisk (file : Option Text) : KeybindingsConfigState :=
  let (keybindings, issues) := loadRuntimeCustomKeybindingsConfig file
  ⟨mergeWithDefaultKeybindings (compileResolvedKeybindingsConfig keybindings), issues⟩

end Runtime

structure ServerUpsertKeybindingInput where
  key : KeybindingValue
  command : KeybindingCommand
  when : Option KeybindingWhen
  replace : Option KeybindingRule

def keybindingRuleFromUpsertInput (input : ServerUpsertKeybindingInput) : KeybindingRule :=
  ⟨input.key, input.command, input.when⟩

def replaceTargetFromUpsertInput (input : ServerUpsertKeybindingInput) : Option KeybindingRule :=
  input.replace

def isSameKeybindingRule (left right : KeybindingRule) : Bool :=
  left.command = right.command && left.key = right.key && left.when = right.when

/-- The filter of an upsert: the target goes, or without one the rule's own earlier entry. -/
def staysOnUpsert (input : ServerUpsertKeybindingInput) (entry : KeybindingRule) : Bool :=
  match replaceTargetFromUpsertInput input with
  | some replaceTarget => !isSameKeybindingRule entry replaceTarget
  | none => !isSameKeybindingRule entry (keybindingRuleFromUpsertInput input)

/-- The file, the cache, and what was emitted to subscribers. -/
structure Keybindings where
  file : Option Text
  cache : Option KeybindingsConfigState
  changes : List KeybindingsConfigState

/-- Write the rules, then put in the cache what they resolve to and emit it. -/
def Keybindings.publish (rules : List KeybindingRule) (keybindings : Keybindings) :
    Option Keybindings :=
  (encodeKeybindingsConfig rules).map (fun text =>
    let configState : KeybindingsConfigState :=
      ⟨mergeWithDefaultKeybindings (compileResolvedKeybindingsConfig rules), []⟩
    { file := some text
      cache := some configState
      changes := keybindings.changes ++ [configState] })

def Keybindings.upsertKeybindingRule (input : ServerUpsertKeybindingInput)
    (keybindings : Keybindings) : Option Keybindings :=
  (loadWritableCustomKeybindingsConfig keybindings.file).bind (fun customConfig =>
    let rule := keybindingRuleFromUpsertInput input
    let nextConfig := customConfig.filter (staysOnUpsert input) ++ [rule]
    keybindings.publish (keepLatest nextConfig))

def Keybindings.removeKeybindingRule (target : KeybindingRule) (keybindings : Keybindings) :
    Option Keybindings :=
  (loadWritableCustomKeybindingsConfig keybindings.file).bind (fun customConfig =>
    let nextConfig := customConfig.filter (fun entry => !isSameKeybindingRule entry target)
    keybindings.publish nextConfig)

inductive KeybindingEdit where
  | upsert (input : ServerUpsertKeybindingInput)
  | remove (target : KeybindingRule)

def Keybindings.edit (keybindings : Keybindings) : KeybindingEdit → Option Keybindings
  | .upsert input => keybindings.upsertKeybindingRule input
  | .remove target => keybindings.removeKeybindingRule target

end Service

def terminalToggle : KeybindingCommand := ⟨ascii "terminal.toggle", by decide⟩

end GT3Code.Server
