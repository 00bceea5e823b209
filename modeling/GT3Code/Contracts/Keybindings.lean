import GT3Code.Base.JsonNumber
import GT3Code.Base.Trimming
import GT3Code.Shared.SchemaJson

/-! # Keybindings

A rule names a shortcut and a `when` expression by their texts. A resolved rule holds the
parsed shortcut and the expression's tree. Texts are lists of UTF-16 code units, so a
length is what the schemas measure.
-/

namespace GT3Code.Contracts

open GT3Code.Base GT3Code.Base.Json

def MAX_KEYBINDING_VALUE_LENGTH : Nat := 64
def MAX_KEYBINDING_WHEN_LENGTH : Nat := 256
def MAX_WHEN_EXPRESSION_DEPTH : Nat := 64
def MAX_SCRIPT_ID_LENGTH : Nat := 24
def MAX_KEYBINDINGS_COUNT : Nat := 256

/-- `String.prototype.trim`. -/
def trimText (value : Text) : Text := trimWhere Shared.isSpace value

/-! ## Commands -/

def THREAD_JUMP_KEYBINDING_COMMANDS : List Text :=
  ["thread.jump.1", "thread.jump.2", "thread.jump.3", "thread.jump.4", "thread.jump.5",
    "thread.jump.6", "thread.jump.7", "thread.jump.8", "thread.jump.9"].map ascii

def MODEL_PICKER_JUMP_KEYBINDING_COMMANDS : List Text :=
  ["modelPicker.jump.1", "modelPicker.jump.2", "modelPicker.jump.3", "modelPicker.jump.4",
    "modelPicker.jump.5", "modelPicker.jump.6", "modelPicker.jump.7", "modelPicker.jump.8",
    "modelPicker.jump.9"].map ascii

def THREAD_KEYBINDING_COMMANDS : List Text :=
  ["thread.previous", "thread.next"].map ascii ++ THREAD_JUMP_KEYBINDING_COMMANDS

def MODEL_PICKER_KEYBINDING_COMMANDS : List Text :=
  ascii "modelPicker.toggle" :: MODEL_PICKER_JUMP_KEYBINDING_COMMANDS

def STATIC_KEYBINDING_COMMANDS : List Text :=
  ["terminal.toggle", "terminal.split", "terminal.new", "terminal.close", "diff.toggle",
      "commandPalette.toggle", "chat.new", "chat.newLocal", "editor.openFavorite"].map ascii ++
    MODEL_PICKER_KEYBINDING_COMMANDS ++ THREAD_KEYBINDING_COMMANDS

def isLowerLetter (u : CodeUnit) : Bool := 97 ≤ u && u ≤ 122

/-- `[a-z0-9]` -/
def isScriptIdHead (u : CodeUnit) : Bool := isLowerLetter u || isDigit u

/-- `[a-z0-9-]` -/
def isScriptIdPart (u : CodeUnit) : Bool := isScriptIdHead u || u = 45

/-- At most 24 units matching `/^[a-z0-9][a-z0-9-]*$/`. -/
def isScriptId (id : Text) : Bool :=
  id.head?.any isScriptIdHead && id.all isScriptIdPart && id.length ≤ MAX_SCRIPT_ID_LENGTH

/-- `script.${id}.run` -/
def isScriptRunCommand (value : Text) : Bool :=
  (ascii "script.").isPrefixOf value && (ascii ".run").isSuffixOf value &&
    isScriptId ((value.drop 7).take (value.length - 11))

def isKeybindingCommand (value : Text) : Bool :=
  STATIC_KEYBINDING_COMMANDS.contains value || isScriptRunCommand value

abbrev KeybindingCommand := { value : Text // isKeybindingCommand value = true }

/-- A trimmed text with one to `limit` units. -/
def BoundedText (limit : Nat) (value : Text) : Prop :=
  trimText value = value ∧ 1 ≤ value.length ∧ value.length ≤ limit

instance (limit : Nat) (value : Text) : Decidable (BoundedText limit value) :=
  inferInstanceAs (Decidable (_ ∧ _))

abbrev KeybindingValue := { value : Text // BoundedText MAX_KEYBINDING_VALUE_LENGTH value }

abbrev KeybindingWhen := { value : Text // BoundedText MAX_KEYBINDING_WHEN_LENGTH value }

structure KeybindingRule where
  key : KeybindingValue
  command : KeybindingCommand
  when : Option KeybindingWhen
  deriving DecidableEq

structure EncodedKeybindingRule where
  key : Text
  command : Text
  when : Option Text

/-- `Schema.Trim` and the two checks on the length. -/
def decodeBoundedText (limit : Nat) (value : Text) :
    Option { text : Text // BoundedText limit text } :=
  if h : BoundedText limit (trimText value) then some ⟨trimText value, h⟩ else none

theorem decodeBoundedText_eq {limit : Nat} {value : Text} (h : BoundedText limit value) :
    decodeBoundedText limit value = some ⟨value, h⟩ := by
  rw [decodeBoundedText, dif_pos (h.1.symm ▸ h)]
  exact congrArg some (Subtype.ext h.1)

def decodeKeybindingCommand (value : Text) : Option KeybindingCommand :=
  if h : isKeybindingCommand value = true then some ⟨value, h⟩ else none

/-- `Schema.optional(KeybindingWhen)` -/
def decodeKeybindingWhen : Option Text → Option (Option KeybindingWhen)
  | none => some none
  | some value => (decodeBoundedText MAX_KEYBINDING_WHEN_LENGTH value).map some

def decodeKeybindingRule (encoded : EncodedKeybindingRule) : Option KeybindingRule :=
  match decodeBoundedText MAX_KEYBINDING_VALUE_LENGTH encoded.key,
    decodeKeybindingCommand encoded.command, decodeKeybindingWhen encoded.when with
  | some key, some command, some when => some ⟨key, command, when⟩
  | _, _, _ => none

structure KeybindingShortcut where
  key : Text
  metaKey : Bool
  ctrlKey : Bool
  shiftKey : Bool
  altKey : Bool
  modKey : Bool
  deriving DecidableEq

inductive KeybindingWhenNode where
  | identifier (name : Text)
  | not (node : KeybindingWhenNode)
  | and (left right : KeybindingWhenNode)
  | or (left right : KeybindingWhenNode)

structure ResolvedKeybindingRule where
  command : KeybindingCommand
  shortcut : KeybindingShortcut
  whenAst : Option KeybindingWhenNode

end GT3Code.Contracts
