import GT3Code.Web.WhenClauses

/-! # Shortcuts

The command of a key event is that of the last rule whose clause holds in the context and
whose shortcut the event matches on the platform.
-/

namespace GT3Code.Web

open GT3Code.Base GT3Code.Base.Json GT3Code.Contracts GT3Code.Shared

structure ShortcutEventLike where
  code : Option Text
  key : Text
  metaKey : Bool
  ctrlKey : Bool
  shiftKey : Bool
  altKey : Bool

def EVENT_CODE_KEY_ALIASES : List (Text × List Text) :=
  [("BracketLeft", ["["]), ("BracketRight", ["]"]), ("Digit0", ["0"]), ("Digit1", ["1"]),
    ("Digit2", ["2"]), ("Digit3", ["3"]), ("Digit4", ["4"]), ("Digit5", ["5"]),
    ("Digit6", ["6"]), ("Digit7", ["7"]), ("Digit8", ["8"]), ("Digit9", ["9"])].map
    (fun entry => (ascii entry.1, entry.2.map ascii))

/-- `/mac|iphone|ipad|ipod/i` -/
def isMacPlatform (platform : Text) : Bool :=
  (["mac", "iphone", "ipad", "ipod"].map ascii).any
    (fun name => name <:+: platform.map asciiLower)

section Matching

variable [CaseMapping]

def normalizeEventKey (key : Text) : Text :=
  let normalized := CaseMapping.toLowerCase key
  if normalized = ascii "esc" then ascii "escape" else normalized

def resolveEventKeys (event : ShortcutEventLike) : List Text :=
  let aliases := (event.code.filter (· ≠ [])).bind (fun code => List.lookup code EVENT_CODE_KEY_ALIASES)
  normalizeEventKey event.key :: aliases.getD []

omit [CaseMapping] in
def matchesShortcutModifiers (event : ShortcutEventLike) (shortcut : KeybindingShortcut)
    (platform : Text) : Bool :=
  let useMetaForMod := isMacPlatform platform
  let expectedMeta := shortcut.metaKey || (shortcut.modKey && useMetaForMod)
  let expectedCtrl := shortcut.ctrlKey || (shortcut.modKey && !useMetaForMod)
  event.metaKey == expectedMeta && event.ctrlKey == expectedCtrl &&
    event.shiftKey == shortcut.shiftKey && event.altKey == shortcut.altKey

def matchesShortcut (event : ShortcutEventLike) (shortcut : KeybindingShortcut)
    (platform : Text) : Bool :=
  matchesShortcutModifiers event shortcut platform &&
    (resolveEventKeys event).contains shortcut.key

structure KeyPress where
  event : ShortcutEventLike
  platform : Text
  context : ShortcutMatchContext

/-- The loop over the bindings from the last one: the binding it returns the command of. -/
def resolveShortcutBinding (press : KeyPress) :
    List ResolvedKeybindingRule → Option ResolvedKeybindingRule
  | [] => none
  | binding :: bindings =>
    if !matchesWhenClause binding.whenAst press.context then
      resolveShortcutBinding press bindings
    else if !matchesShortcut press.event binding.shortcut press.platform then
      resolveShortcutBinding press bindings
    else some binding

def resolveShortcutCommand (press : KeyPress) (keybindings : List ResolvedKeybindingRule) :
    Option KeybindingCommand :=
  (resolveShortcutBinding press keybindings.reverse).map ResolvedKeybindingRule.command

def KeyPress.fires (press : KeyPress) (binding : ResolvedKeybindingRule) : Bool :=
  matchesWhenClause binding.whenAst press.context &&
    matchesShortcut press.event binding.shortcut press.platform

theorem resolveShortcutBinding_eq (press : KeyPress) (bindings : List ResolvedKeybindingRule) :
    resolveShortcutBinding press bindings = bindings.find? press.fires := by
  induction bindings with
  | nil => rfl
  | cons binding bindings ih =>
    rw [resolveShortcutBinding, List.find?_cons, KeyPress.fires, ih]
    cases matchesWhenClause binding.whenAst press.context <;>
      cases matchesShortcut press.event binding.shortcut press.platform <;> rfl

end Matching

end GT3Code.Web
