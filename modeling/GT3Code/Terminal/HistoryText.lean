import Mathlib.Data.List.Basic

/-! # Text of a terminal's history

What of the PTY's output is kept: whole control sequences that report on the terminal
are dropped, an unfinished one waits for the next chunk, and only the last lines stay.
-/

namespace GT3Code.Terminal

/-- The last `maxLines` lines; a final line feed ends the last line. -/
def capHistory (history : String) (maxLines : Nat) : String :=
  if history.isEmpty then history
  else
    let hasTrailingNewline := history.toList.getLast? = some '\n'
    let split := history.toList.splitOn '\n'
    let lines := if hasTrailingNewline then split.dropLast else split
    if lines.length ≤ maxLines then history
    else
      let capped := ['\n'].intercalate (lines.drop (lines.length - maxLines))
      String.ofList (if hasTrailingNewline then capped ++ ['\n'] else capped)

/-! ## Control sequences -/

def isCsiFinalByte (c : Char) : Bool := 0x40 ≤ c.toNat && c.toNat ≤ 0x7e

def isParameterByte (c : Char) : Bool := c.isDigit || c = ';' || c = '?'

def shouldStripCsiSequence (body : List Char) (finalByte : Char) : Bool :=
  if finalByte = 'n' then true
  else if finalByte = 'R' && body.all isParameterByte then true
  else finalByte = 'c' && body.all (fun c => c = '>' || isParameterByte c)

def shouldStripOscSequence (content : List Char) : Bool :=
  ["10", "11", "12"].any fun code =>
    (code ++ ";?").toList.isPrefixOf content || (code ++ ";rgb:").toList.isPrefixOf content

def stripStringTerminator (value : List Char) : List Char :=
  if ['\x1b', '\\'].isSuffixOf value then value.take (value.length - 2)
  else if value.getLast? = some '\x07' ∨ value.getLast? = some '\u009c' then value.dropLast
  else value

def findStringTerminatorIndex : List Char → Option Nat
  | [] => none
  | c :: rest =>
    if c = '\x07' ∨ c = '\u009c' then some 1
    else if c = '\x1b' ∧ rest.head? = some '\\' then some 2
    else (findStringTerminatorIndex rest).map (· + 1)

def isEscapeIntermediateByte (c : Char) : Bool := 0x20 ≤ c.toNat && c.toNat ≤ 0x2f

def isEscapeFinalByte (c : Char) : Bool := 0x30 ≤ c.toNat && c.toNat ≤ 0x7e

def findEscapeSequenceEndIndex (input : List Char) : Option Nat :=
  let cursor := (input.takeWhile isEscapeIntermediateByte).length
  match input.drop cursor with
  | [] => none
  | c :: _ => if isEscapeFinalByte c then some (cursor + 1) else some 1

/-- What stands at the head of the input: its first `length` characters are kept or
dropped together, or they end before the sequence does. -/
inductive HeadSequence where
  | incomplete
  | complete (length : Nat) (keep : Bool)

/-- A sequence whose introducer is `skip` characters long and ends at its final byte. -/
def csiSequence (skip : Nat) (input : List Char) : HeadSequence :=
  match (input.drop skip).findIdx? isCsiFinalByte with
  | none => .incomplete
  | some cursor =>
    let body := (input.drop skip).take cursor
    let finalByte := ((input.drop skip).drop cursor).headD ' '
    .complete (skip + cursor + 1) (!shouldStripCsiSequence body finalByte)

def stringSequence (isOsc : Bool) (skip : Nat) (input : List Char) : HeadSequence :=
  match findStringTerminatorIndex (input.drop skip) with
  | none => .incomplete
  | some terminatorIndex =>
    let content := stripStringTerminator ((input.drop skip).take terminatorIndex)
    .complete (skip + terminatorIndex) (!isOsc || !shouldStripOscSequence content)

def headSequence : List Char → HeadSequence
  | [] => .incomplete
  | '\x1b' :: rest =>
    match rest with
    | [] => .incomplete
    | '[' :: _ => csiSequence 2 ('\x1b' :: rest)
    | next :: _ =>
      if next = ']' ∨ next = 'P' ∨ next = '^' ∨ next = '_' then
        stringSequence (next = ']') 2 ('\x1b' :: rest)
      else
        match findEscapeSequenceEndIndex rest with
        | none => .incomplete
        | some endIndex => .complete (endIndex + 1) true
  | c :: rest =>
    if c = '\u009b' then csiSequence 1 (c :: rest)
    else if c = '\u009d' ∨ c = '\u0090' ∨ c = '\u009e' ∨ c = '\u009f' then
      stringSequence (c = '\u009d') 1 (c :: rest)
    else .complete 1 true

structure SanitizedChunk where
  visibleText : String
  pendingControlSequence : String

/-- The loop of `sanitizeTerminalHistoryChunk`, from an index on; every round moves it. -/
def sanitizeFrom : Nat → List Char → List Char → SanitizedChunk
  | 0, visibleText, _ => ⟨String.ofList visibleText, ""⟩
  | _ + 1, visibleText, [] => ⟨String.ofList visibleText, ""⟩
  | fuel + 1, visibleText, c :: rest =>
    let input := c :: rest
    match headSequence input with
    | .incomplete => ⟨String.ofList visibleText, String.ofList input⟩
    | .complete length keep =>
      sanitizeFrom fuel (if keep then visibleText ++ input.take length else visibleText)
        (input.drop length)

def sanitizeTerminalHistoryChunk (pendingControlSequence data : String) : SanitizedChunk :=
  let input := (pendingControlSequence ++ data).toList
  sanitizeFrom input.length [] input

end GT3Code.Terminal
