import GT3Code.Base.CollapsedRuns
import GT3Code.Base.TrailingBlock
import GT3Code.Shared.Keybindings

/-! # Terminal contexts

Lines of a terminal that go with a prompt. They are appended to its text as a block, and found
again at its end.
-/

namespace GT3Code.Web

open GT3Code.Base GT3Code.Base.Json GT3Code.Contracts

def INLINE_TERMINAL_CONTEXT_PLACEHOLDER : CodeUnit := 0xFFFC

def newline : CodeUnit := 10

def isNewline (u : CodeUnit) : Bool := u == newline

/-- Numbers, with what is done with them here; `text` is `String(number)`. -/
class LineNumbers (Number : Type) where
  one : Number
  floor : Number → Number
  max : Number → Number → Number
  addIndex : Number → Nat → Number
  strictEq : Number → Number → Bool
  text : Number → Text
  text_printable : ∀ number, ∀ u ∈ text number, 33 ≤ u ∧ u ≤ 126

structure TerminalContextSelection (Number : Type) where
  terminalId : Text
  terminalLabel : Text
  lineStart : Number
  lineEnd : Number
  text : Text

structure ParsedTerminalContextEntry where
  header : Text
  body : Text
  deriving DecidableEq

structure ExtractedTerminalContexts where
  promptText : Text
  contextCount : Nat
  previewTitle : Option Text
  contexts : List ParsedTerminalContextEntry

def joinLines (lines : List Text) : Text := [newline].intercalate lines

/-- `text.replace(/\n+$/, "")` -/
def dropTrailingNewlines (text : Text) : Text := text.rdropWhile isNewline

/-- `text.trimEnd()` -/
def trimEnd (text : Text) : Text := text.rdropWhile Shared.isSpace

/-- `text.replace(/\r\n/g, "\n")` -/
def replaceCarriageReturns : Text → Text
  | 13 :: 10 :: rest => newline :: replaceCarriageReturns rest
  | u :: rest => u :: replaceCarriageReturns rest
  | [] => []

def normalizeTerminalContextText (text : Text) : Text :=
  dropTrailingNewlines ((replaceCarriageReturns text).dropWhile isNewline)

section

variable {Number : Type} [LineNumbers Number]

def normalizeTerminalContextSelection (selection : TerminalContextSelection Number) :
    Option (TerminalContextSelection Number) :=
  let text := normalizeTerminalContextText selection.text
  let terminalId := trimText selection.terminalId
  let terminalLabel := trimText selection.terminalLabel
  if text.length = 0 ∨ terminalId.length = 0 ∨ terminalLabel.length = 0 then none
  else
    let lineStart := LineNumbers.max LineNumbers.one (LineNumbers.floor selection.lineStart)
    let lineEnd := LineNumbers.max lineStart (LineNumbers.floor selection.lineEnd)
    some { terminalId, terminalLabel, lineStart, lineEnd, text }

def formatTerminalContextRange (selection : TerminalContextSelection Number) : Text :=
  if LineNumbers.strictEq selection.lineStart selection.lineEnd then
    ascii "line " ++ LineNumbers.text selection.lineStart
  else
    ascii "lines " ++ LineNumbers.text selection.lineStart ++ ascii "-" ++
      LineNumbers.text selection.lineEnd

def formatTerminalContextLabel (selection : TerminalContextSelection Number) : Text :=
  selection.terminalLabel ++ ascii " " ++ formatTerminalContextRange selection

def formatInlineTerminalContextLabel [Shared.CaseMapping]
    (selection : TerminalContextSelection Number) : Text :=
  let terminalLabel := collapseRuns Shared.isSpace 45 false
    (Shared.CaseMapping.toLowerCase (trimText selection.terminalLabel))
  let range :=
    if LineNumbers.strictEq selection.lineStart selection.lineEnd then
      LineNumbers.text selection.lineStart
    else LineNumbers.text selection.lineStart ++ ascii "-" ++ LineNumbers.text selection.lineEnd
  ascii "@" ++ terminalLabel ++ ascii ":" ++ range

def numberedLine (lineStart : Number) (index : Nat) (line : Text) : Text :=
  LineNumbers.text (LineNumbers.addIndex lineStart index) ++ ascii " | " ++ line

def buildTerminalContextBodyLines (selection : TerminalContextSelection Number) : List Text :=
  ((normalizeTerminalContextText selection.text).splitOn newline).mapIdx
    (fun index line => ascii "  " ++ numberedLine selection.lineStart index line)

def normalizedContexts (contexts : List (TerminalContextSelection Number)) :
    List (TerminalContextSelection Number) :=
  contexts.filterMap normalizeTerminalContextSelection

def contextLines (context : TerminalContextSelection Number) : List Text :=
  (ascii "- " ++ formatTerminalContextLabel context ++ ascii ":") ::
    buildTerminalContextBodyLines context

def blockLines : List (TerminalContextSelection Number) → List Text
  | [] => []
  | [context] => contextLines context
  | context :: next :: contexts => contextLines context ++ [] :: blockLines (next :: contexts)

def buildTerminalContextBlock (contexts : List (TerminalContextSelection Number)) : Text :=
  let normalized := normalizedContexts contexts
  if normalized.length = 0 then []
  else
    joinLines (ascii "<terminal_context>" :: (blockLines normalized ++
      [ascii "</terminal_context>"]))

/-- The loop of `materializeInlineTerminalContextPrompt`. -/
def materializeFrom [Shared.CaseMapping] (contexts : List (TerminalContextSelection Number)) :
    Nat → Text → Text
  | _, [] => []
  | nextContextIndex, u :: rest =>
    if u ≠ INLINE_TERMINAL_CONTEXT_PLACEHOLDER then u :: materializeFrom contexts nextContextIndex rest
    else
      match contexts[nextContextIndex]? with
      | none => materializeFrom contexts (nextContextIndex + 1) rest
      | some context =>
        formatInlineTerminalContextLabel context ++
          materializeFrom contexts (nextContextIndex + 1) rest

def materializeInlineTerminalContextPrompt [Shared.CaseMapping] (prompt : Text)
    (contexts : List (TerminalContextSelection Number)) : Text :=
  materializeFrom contexts 0 prompt

def appendTerminalContextsToPrompt [Shared.CaseMapping] (prompt : Text)
    (contexts : List (TerminalContextSelection Number)) : Text :=
  let trimmedPrompt := trimText (materializeInlineTerminalContextPrompt prompt contexts)
  let contextBlock := buildTerminalContextBlock contexts
  if contextBlock.length = 0 then trimmedPrompt
  else if trimmedPrompt.length > 0 then trimmedPrompt ++ ascii "\n\n" ++ contextBlock
  else contextBlock

end

/-- `/\n*<terminal_context>\n([\s\S]*?)\n<\/terminal_context>\s*$/` -/
def TRAILING_TERMINAL_CONTEXT_BLOCK_PATTERN : BlockPattern CodeUnit where
  lead := isNewline
  opening := ascii "<terminal_context>\n"
  closing := ascii "\n</terminal_context>"
  blank := Shared.isSpace
  opening_head := by decide
  closing_ne_nil := by decide
  closing_last := by decide

/-- `/^- (.+):$/.exec(rawLine)` -/
def headerMatch : Text → Option Text
  | 45 :: 32 :: rest =>
    if rest.getLast? = some 58 ∧ rest.dropLast ≠ [] ∧
        rest.dropLast.all (fun u => !Shared.isLineTerminator u) = true then
      some rest.dropLast
    else none
  | _ => none

structure CurrentEntry where
  header : Text
  bodyLines : List Text

structure ParseState where
  entries : List ParsedTerminalContextEntry
  current : Option CurrentEntry

def ParseState.commitCurrent (state : ParseState) : List ParsedTerminalContextEntry :=
  match state.current with
  | none => state.entries
  | some current => state.entries ++ [⟨current.header, trimEnd (joinLines current.bodyLines)⟩]

def pushBodyLine (state : ParseState) (current : CurrentEntry) (line : Text) : ParseState :=
  { state with current := some { current with bodyLines := current.bodyLines ++ [line] } }

/-- One line of the loop in `parseTerminalContextEntries`. -/
def parseLine (state : ParseState) (rawLine : Text) : ParseState :=
  match headerMatch rawLine with
  | some header => ⟨state.commitCurrent, some ⟨header, []⟩⟩
  | none =>
    match state.current with
    | none => state
    | some current =>
      if (ascii "  ").isPrefixOf rawLine then pushBodyLine state current (rawLine.drop 2)
      else if rawLine.length = 0 then pushBodyLine state current []
      else state

def parseTerminalContextEntries (block : Text) : List ParsedTerminalContextEntry :=
  ((block.splitOn newline).foldl parseLine ⟨[], none⟩).commitCurrent

def entryPreview (entry : ParsedTerminalContextEntry) : Text :=
  if entry.body.length > 0 then entry.header ++ [newline] ++ entry.body else entry.header

def extractTrailingTerminalContexts (prompt : Text) : ExtractedTerminalContexts :=
  match TRAILING_TERMINAL_CONTEXT_BLOCK_PATTERN.find 0 prompt with
  | none => { promptText := prompt, contextCount := 0, previewTitle := none, contexts := [] }
  | some (index, block) =>
    let promptText := dropTrailingNewlines (prompt.take index)
    let parsedContexts := parseTerminalContextEntries block
    { promptText
      contextCount := parsedContexts.length
      previewTitle :=
        if parsedContexts.length > 0 then
          some ((ascii "\n\n").intercalate (parsedContexts.map entryPreview))
        else none
      contexts := parsedContexts }

end GT3Code.Web
