import Mathlib.Data.List.DropRight
import GT3Code.Base.Parsing
import GT3Code.Contracts.Keybindings

/-! # Parsing keybindings

`parseKeybindingShortcut` reads a shortcut, `parseKeybindingWhenExpression` a `when`
expression. The closures of the expression parser share an index into the tokens; here each
is given the tokens from that index on and says which are left. A failure is never taken
back, so what the index is after one does not matter.
-/

namespace GT3Code.Shared

open GT3Code.Base GT3Code.Base.Json GT3Code.Contracts

/-- `String.prototype.toLowerCase`. A text it leaves alone is still left alone in part, and
after ASCII units that are no capitals. -/
class CaseMapping where
  toLowerCase : Text → Text
  toLowerCase_toLowerCase : ∀ value, toLowerCase (toLowerCase value) = toLowerCase value
  toLowerCase_of_isInfix : ∀ part value, part <:+: value → toLowerCase value = value →
    toLowerCase part = part
  toLowerCase_append : ∀ front value, (∀ u ∈ front, u < 128 ∧ ¬(65 ≤ u ∧ u ≤ 90)) →
    toLowerCase value = value → toLowerCase (front ++ value) = front ++ value

section

variable [CaseMapping]

theorem toLowerCase_nil : CaseMapping.toLowerCase [] = [] :=
  CaseMapping.toLowerCase_of_isInfix [] (CaseMapping.toLowerCase []) List.nil_infix
    (CaseMapping.toLowerCase_toLowerCase [])

theorem toLowerCase_plain {value : Text} (h : ∀ u ∈ value, u < 128 ∧ ¬(65 ≤ u ∧ u ≤ 90)) :
    CaseMapping.toLowerCase value = value := by
  have happend := CaseMapping.toLowerCase_append value [] h toLowerCase_nil
  rwa [List.append_nil] at happend

end

def asciiLower (u : CodeUnit) : CodeUnit := if 65 ≤ u ∧ u ≤ 90 then u + 32 else u

theorem map_asciiLower_iff {value : Text} :
    value.map asciiLower = value ↔ ∀ u ∈ value, asciiLower u = u := by
  simpa using List.map_inj_left (f := asciiLower) (g := id) (l := value)

@[reducible] def asciiCaseMapping : CaseMapping where
  toLowerCase value := value.map asciiLower
  toLowerCase_toLowerCase value := by
    rw [List.map_map]
    refine List.map_congr_left (fun u _ => ?_)
    simp only [Function.comp_apply, asciiLower, CodeUnit]
    split_ifs <;> omega
  toLowerCase_of_isInfix part value hpart hvalue :=
    map_asciiLower_iff.mpr (fun u hu => map_asciiLower_iff.mp hvalue u (hpart.mem hu))
  toLowerCase_append front value hfront hvalue := by
    rw [List.map_append, hvalue]
    exact congrArg (· ++ value) (map_asciiLower_iff.mpr (fun u hu => if_neg (hfront u hu).2))

def plus : CodeUnit := 43

def normalizeKeyToken (token : Text) : Text :=
  if token = ascii "space" then ascii " "
  else if token = ascii "esc" then ascii "escape"
  else token

structure ShortcutParts where
  key : Option Text
  metaKey : Bool
  ctrlKey : Bool
  shiftKey : Bool
  altKey : Bool
  modKey : Bool

def ShortcutParts.none : ShortcutParts := ⟨.none, false, false, false, false, false⟩

/-- The `switch` on one token. -/
def ShortcutParts.add (parts : ShortcutParts) (token : Text) : Option ShortcutParts :=
  if token = ascii "cmd" ∨ token = ascii "meta" then some { parts with metaKey := true }
  else if token = ascii "ctrl" ∨ token = ascii "control" then some { parts with ctrlKey := true }
  else if token = ascii "shift" then some { parts with shiftKey := true }
  else if token = ascii "alt" ∨ token = ascii "option" then some { parts with altKey := true }
  else if token = ascii "mod" then some { parts with modKey := true }
  else
    match parts.key with
    | some _ => .none
    | .none => some { parts with key := some (normalizeKeyToken token) }

/-- The tokens of a shortcut: empty ones at its end stand for one `+`. -/
def shortcutTokens (lowered : Text) : List Text :=
  let rawTokens := (lowered.splitOn plus).map trimText
  let tokens := rawTokens.rdropWhile List.isEmpty
  if tokens.length < rawTokens.length then tokens ++ [[plus]] else tokens

def shortcutOfTokens (tokens : List Text) : Option KeybindingShortcut :=
  if tokens.any List.isEmpty then none
  else if tokens.length = 0 then none
  else
    (tokens.foldlM ShortcutParts.add ShortcutParts.none).bind (fun parts =>
      parts.key.map (fun key =>
        { key := key
          metaKey := parts.metaKey
          ctrlKey := parts.ctrlKey
          shiftKey := parts.shiftKey
          altKey := parts.altKey
          modKey := parts.modKey }))

def parseKeybindingShortcut [CaseMapping] (value : Text) : Option KeybindingShortcut :=
  shortcutOfTokens (shortcutTokens (CaseMapping.toLowerCase value))

inductive WhenToken where
  | identifier (value : Text)
  | not
  | and
  | or
  | lparen
  | rparen
  deriving DecidableEq

/-- `[A-Za-z_]` -/
def isIdentifierHead (u : CodeUnit) : Bool :=
  (65 ≤ u && u ≤ 90) || isLowerLetter u || u = 95

/-- `[A-Za-z0-9_.-]` -/
def isIdentifierPart (u : CodeUnit) : Bool :=
  isIdentifierHead u || isDigit u || u = 46 || u = 45

def ampersand : CodeUnit := 38
def pipe : CodeUnit := 124
def bang : CodeUnit := 33
def openParen : CodeUnit := 40
def closeParen : CodeUnit := 41

def tokenizeWhenExpression (expression : Text) : Option (List WhenToken) :=
  match expression with
  | [] => some []
  | current :: rest =>
    if isSpace current then tokenizeWhenExpression rest
    else if current = ampersand ∧ rest.head? = some ampersand then
      (tokenizeWhenExpression rest.tail).map (.and :: ·)
    else if current = pipe ∧ rest.head? = some pipe then
      (tokenizeWhenExpression rest.tail).map (.or :: ·)
    else if current = bang then (tokenizeWhenExpression rest).map (.not :: ·)
    else if current = openParen then (tokenizeWhenExpression rest).map (.lparen :: ·)
    else if current = closeParen then (tokenizeWhenExpression rest).map (.rparen :: ·)
    else if isIdentifierHead current then
      (tokenizeWhenExpression (rest.dropWhile isIdentifierPart)).map
        (.identifier (current :: rest.takeWhile isIdentifierPart) :: ·)
    else none
  termination_by expression.length
  decreasing_by
    all_goals
      simp only [List.length_cons, List.length_tail]
      have hdrop := (List.dropWhile_suffix isIdentifierPart (l := rest)).length_le
      omega

/-! ## Parsing an expression -/

abbrev WhenParser := Parser WhenToken KeybindingWhenNode

/-- The `while` of `parseUnary`: how many `!` stand in front, at most the limit. -/
def skipNots : Nat → List WhenToken → Option (Nat × List WhenToken)
  | notCount, .not :: tokens =>
    if notCount + 1 > MAX_WHEN_EXPRESSION_DEPTH then none else skipNots (notCount + 1) tokens
  | notCount, tokens => some (notCount, tokens)

theorem length_skipNots {notCount count : Nat} {tokens rest : List WhenToken}
    (h : skipNots notCount tokens = some (count, rest)) : rest.length ≤ tokens.length := by
  induction tokens generalizing notCount with
  | nil =>
    rw [skipNots] at h
    · cases h
      exact Nat.le_refl _
    · simp
  | cons token tokens ih =>
    cases token with
    | not =>
      rw [skipNots] at h
      split at h
      · cases h
      · exact Nat.le_succ_of_le (ih h)
    | _ =>
      rw [skipNots] at h
      · cases h
        exact Nat.le_refl _
      · simp

/-- `while (notCount > 0) node = { type: "not", node }` -/
def negate : Nat → KeybindingWhenNode → KeybindingWhenNode
  | 0, node => node
  | notCount + 1, node => negate notCount (.not node)

def parseUnary (parsePrimary : WhenParser) : WhenParser := fun tokens =>
  match h : skipNots 0 tokens with
  | none => none
  | some (notCount, rest) =>
    match parsePrimary rest with
    | none => none
    | some parsed =>
      some ⟨negate notCount parsed.node, parsed.rest,
        Nat.lt_of_lt_of_le parsed.shorter (length_skipNots h)⟩

def parseAnd (parsePrimary : WhenParser) : WhenParser :=
  operands .and .and (parseUnary parsePrimary)

def parseOr (parsePrimary : WhenParser) : WhenParser :=
  operands .or .or (parseAnd parsePrimary)

/-- `parsePrimary(depth)`, with `MAX_WHEN_EXPRESSION_DEPTH + 1 - depth` levels: none are
left where the source finds `depth` above the limit. -/
def parsePrimary : Nat → WhenParser
  | 0, _ => none
  | levels + 1, tokens =>
    match tokens with
    | .identifier value :: rest => some ⟨.identifier value, rest, Nat.lt_succ_self _⟩
    | .lparen :: inner =>
      match parseOr (parsePrimary levels) inner with
      | none => none
      | some expression =>
        match hrest : expression.rest with
        | .rparen :: rest =>
          some ⟨expression.node, rest, by
            have hshorter := expression.shorter
            rw [hrest, List.length_cons] at hshorter
            rw [List.length_cons]
            omega⟩
        | _ => none
    | _ => none

def parseKeybindingWhenExpression (expression : Text) : Option KeybindingWhenNode :=
  match tokenizeWhenExpression expression with
  | none => none
  | some tokens =>
    if tokens.length = 0 then none
    else
      match parseOr (parsePrimary (MAX_WHEN_EXPRESSION_DEPTH + 1)) tokens with
      | none => none
      | some parsed => if parsed.rest = [] then some parsed.node else none

section Rules

variable [CaseMapping]

def compileResolvedKeybindingRule (rule : KeybindingRule) : Option ResolvedKeybindingRule :=
  match parseKeybindingShortcut rule.key.1 with
  | none => none
  | some shortcut =>
    match rule.when with
    | some when =>
      match parseKeybindingWhenExpression when.1 with
      | none => none
      | some whenAst => some ⟨rule.command, shortcut, some whenAst⟩
    | none => some ⟨rule.command, shortcut, none⟩

theorem compileResolvedKeybindingRule_eq_some_iff {rule : KeybindingRule}
    {resolved : ResolvedKeybindingRule} :
    compileResolvedKeybindingRule rule = some resolved ↔
      rule.command = resolved.command ∧
        parseKeybindingShortcut rule.key.1 = some resolved.shortcut ∧
        rule.when.map (fun when => parseKeybindingWhenExpression when.1) =
          resolved.whenAst.map some := by
  obtain ⟨command, shortcut, whenAst⟩ := resolved
  unfold compileResolvedKeybindingRule
  cases parseKeybindingShortcut rule.key.1 with
  | none => simp
  | some parsed =>
    cases rule.when with
    | none => cases whenAst <;> simp
    | some when =>
      cases hparse : parseKeybindingWhenExpression when.1 with
      | none => cases whenAst <;> simp [hparse]
      | some ast => cases whenAst <;> simp [hparse]

/-- `compiled.slice(-MAX_KEYBINDINGS_COUNT)` -/
def keepLatest {α : Type} (xs : List α) : List α := xs.drop (xs.length - MAX_KEYBINDINGS_COUNT)

def compileResolvedKeybindingsConfig (config : List KeybindingRule) :
    List ResolvedKeybindingRule :=
  keepLatest (config.filterMap compileResolvedKeybindingRule)

end Rules

/-- `key`, `command` and `when` of the default rules. -/
def DEFAULT_KEYBINDING_ENTRIES : List EncodedKeybindingRule :=
  let entry (key command : String) (when : Option String) : EncodedKeybindingRule :=
    ⟨ascii key, ascii command, when.map ascii⟩
  let jump (when : Option String) (index : Nat) (command : Text) : EncodedKeybindingRule :=
    ⟨ascii "mod+" ++ [49 + index], command, when.map ascii⟩
  [entry "mod+j" "terminal.toggle" none,
    entry "mod+d" "terminal.split" "terminalFocus",
    entry "mod+n" "terminal.new" "terminalFocus",
    entry "mod+w" "terminal.close" "terminalFocus",
    entry "mod+d" "diff.toggle" "!terminalFocus",
    entry "mod+k" "commandPalette.toggle" "!terminalFocus",
    entry "mod+n" "chat.new" "!terminalFocus",
    entry "mod+shift+o" "chat.new" "!terminalFocus",
    entry "mod+shift+n" "chat.newLocal" "!terminalFocus",
    entry "mod+shift+m" "modelPicker.toggle" "!terminalFocus",
    entry "mod+o" "editor.openFavorite" none,
    entry "mod+shift+[" "thread.previous" none,
    entry "mod+shift+]" "thread.next" none] ++
    THREAD_JUMP_KEYBINDING_COMMANDS.mapIdx (jump none) ++
    MODEL_PICKER_JUMP_KEYBINDING_COMMANDS.mapIdx (jump "modelPickerOpen")

def DEFAULT_KEYBINDINGS : List KeybindingRule :=
  DEFAULT_KEYBINDING_ENTRIES.filterMap decodeKeybindingRule

def DEFAULT_RESOLVED_KEYBINDINGS [CaseMapping] : List ResolvedKeybindingRule :=
  compileResolvedKeybindingsConfig DEFAULT_KEYBINDINGS

end GT3Code.Shared
