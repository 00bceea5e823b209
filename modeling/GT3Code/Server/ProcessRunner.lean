import GT3Code.Base.FreshNames
import GT3Code.Base.Utf8Decoding
import GT3Code.Contracts.Keybindings

/-! # Running a process

A run collects what the child writes and settles its promise once. Its events come in any order;
the handlers of a settled run still collect, but settle nothing. Killing the child and clearing
the timers leave no trace in the result.
-/

namespace GT3Code.Server

open GT3Code.Base GT3Code.Base.Json GT3Code.Contracts
open GT3Code.Base.Base64Url (Byte)
open GT3Code.Base.Utf8Decoding (decode)

inductive OutputMode where
  | error
  | truncate

structure ProcessRunOptions where
  allowNonZeroExit : Bool
  maxBufferBytes : Option Nat
  outputMode : Option OutputMode

/-- A call of `runProcess`, and whether the platform is Windows. -/
structure ProcessCall where
  command : Text
  args : List Text
  options : ProcessRunOptions
  windows : Bool

structure ProcessRunResult where
  stdout : Text
  stderr : Text
  code : Option Nat
  signal : Option Text
  timedOut : Bool
  stdoutTruncated : Bool
  stderrTruncated : Bool

/-- An instance of `Error`, with the `code` of system errors. -/
structure SystemError where
  code : Option Text
  message : Text

/-! ## Error texts -/

def commandLabel (call : ProcessCall) : Text := (ascii " ").intercalate (call.command :: call.args)

def normalizeSpawnError (call : ProcessCall) : Option SystemError → Text
  | none => ascii "Failed to run " ++ commandLabel call ++ ascii "."
  | some error =>
    if error.code = some (ascii "ENOENT") then ascii "Command not found: " ++ call.command
    else ascii "Failed to run " ++ commandLabel call ++ ascii ": " ++ error.message

def WINDOWS_COMMAND_NOT_FOUND_PATTERNS : List Text :=
  [ascii "is not recognized as an internal or external command",
    ascii "n.o . reconhecido como um comando interno",
    ascii "non . riconosciuto come comando interno o esterno",
    ascii "n.est pas reconnu en tant que commande interne",
    ascii "no se reconoce como un comando interno o externo",
    ascii "wird nicht als interner oder externer befehl"]

def isLineTerminator (u : CodeUnit) : Bool := u = 10 || u = 13 || u = 0x2028 || u = 0x2029

/-- A letter of the patterns matches in either case, a point any unit of the line. -/
def patternUnitMatches (pattern u : CodeUnit) : Bool :=
  if pattern = 46 then !isLineTerminator u
  else u = pattern || (97 ≤ pattern && pattern ≤ 122 && u + 32 = pattern)

def patternMatchesAt : Text → Text → Bool
  | [], _ => true
  | _ :: _, [] => false
  | pattern :: patterns, u :: rest => patternUnitMatches pattern u && patternMatchesAt patterns rest

def hasWindowsCommandNotFoundMessage (output : Text) : Bool :=
  WINDOWS_COMMAND_NOT_FOUND_PATTERNS.any
    (fun pattern => output.tails.any (fun rest => patternMatchesAt pattern rest))

def isWindowsCommandNotFound (windows : Bool) (code : Option Nat) (stderr : Text) : Bool :=
  if windows then code = some 9009 || hasWindowsCommandNotFoundMessage stderr else false

def normalizeExitError (call : ProcessCall) (result : ProcessRunResult) : Text :=
  if isWindowsCommandNotFound call.windows result.code result.stderr then
    ascii "Command not found: " ++ call.command
  else
    let reason :=
      if result.timedOut then ascii "timed out"
      else
        ascii "failed (code=" ++ (result.code.map decimal).getD (ascii "null") ++
          ascii ", signal=" ++ result.signal.getD (ascii "null") ++ ascii ")"
    let stderr := trimText result.stderr
    let detail := if stderr.length > 0 then ascii " " ++ stderr else []
    commandLabel call ++ ascii " " ++ reason ++ ascii "." ++ detail

def normalizeStdinError (call : ProcessCall) : Option SystemError → Text
  | none => ascii "Failed to write stdin for " ++ commandLabel call ++ ascii "."
  | some error =>
    ascii "Failed to write stdin for " ++ commandLabel call ++ ascii ": " ++ error.message

inductive OutputStream where
  | stdout
  | stderr
  deriving DecidableEq

def OutputStream.text : OutputStream → Text
  | .stdout => ascii "stdout"
  | .stderr => ascii "stderr"

def normalizeBufferError (call : ProcessCall) (stream : OutputStream) (maxBufferBytes : Nat) :
    Text :=
  commandLabel call ++ ascii " exceeded " ++ stream.text ++ ascii " buffer limit (" ++
    decimal maxBufferBytes ++ ascii " bytes)."

def DEFAULT_MAX_BUFFER_BYTES : Nat := 8 * 1024 * 1024

def ProcessCall.maxBufferBytes (call : ProcessCall) : Nat :=
  call.options.maxBufferBytes.getD DEFAULT_MAX_BUFFER_BYTES

def ProcessCall.outputMode (call : ProcessCall) : OutputMode := call.options.outputMode.getD .error

structure CapturedStream where
  text : Text
  bytes : Nat
  truncated : Bool

/-- `next`, `nextBytes` and `truncated`. -/
def appendChunkWithinLimit (target : Text) (currentBytes : Nat) (chunk : List Byte)
    (maxBytes : Nat) : CapturedStream :=
  let remaining := maxBytes - currentBytes
  if remaining = 0 then ⟨target, currentBytes, true⟩
  else if chunk.length ≤ remaining then
    ⟨target ++ decode chunk, currentBytes + chunk.length, false⟩
  else ⟨target ++ decode (chunk.take remaining), currentBytes + remaining, true⟩

/-- `appendOutput` for either stream, and whether the stream is over the limit. -/
def appendOutput (call : ProcessCall) (captured : CapturedStream) (chunk : List Byte) :
    CapturedStream × Bool :=
  match call.outputMode with
  | .truncate =>
    let appended :=
      appendChunkWithinLimit captured.text captured.bytes chunk call.maxBufferBytes
    ({ appended with truncated := captured.truncated || appended.truncated }, false)
  | .error =>
    let bytes := captured.bytes + chunk.length
    ({ captured with text := captured.text ++ decode chunk, bytes },
      bytes > call.maxBufferBytes)

structure Chunk where
  bytes : List Byte
  ne_nil : bytes ≠ []

inductive ProcessEvent where
  | data (stream : OutputStream) (chunk : Chunk)
  | error (error : Option SystemError)
  | timeout
  | stdinError (error : Option SystemError)
  | close (code : Option Nat) (signal : Option Text)

inductive Settlement where
  | resolved (result : ProcessRunResult)
  | rejected (message : Text)

structure ProcessState where
  stdout : CapturedStream
  stderr : CapturedStream
  timedOut : Bool
  settled : Bool
  settlements : List Settlement

def ProcessState.captured (state : ProcessState) : OutputStream → CapturedStream
  | .stdout => state.stdout
  | .stderr => state.stderr

def ProcessState.capture (state : ProcessState) (captured : CapturedStream) :
    OutputStream → ProcessState
  | .stdout => { state with stdout := captured }
  | .stderr => { state with stderr := captured }

def finalize (state : ProcessState) (settlement : Settlement) : ProcessState :=
  if state.settled then state
  else { state with settled := true, settlements := state.settlements ++ [settlement] }

def fail (state : ProcessState) (message : Text) : ProcessState :=
  finalize state (.rejected message)

def closeResult (state : ProcessState) (code : Option Nat) (signal : Option Text) :
    ProcessRunResult where
  stdout := state.stdout.text
  stderr := state.stderr.text
  code
  signal
  timedOut := state.timedOut
  stdoutTruncated := state.stdout.truncated
  stderrTruncated := state.stderr.truncated

def handleProcessEvent (call : ProcessCall) (state : ProcessState) : ProcessEvent → ProcessState
  | .data stream chunk =>
    let (captured, exceeded) := appendOutput call (state.captured stream) chunk.bytes
    let next := state.capture captured stream
    if exceeded then fail next (normalizeBufferError call stream call.maxBufferBytes) else next
  | .error error => finalize state (.rejected (normalizeSpawnError call error))
  | .timeout => { state with timedOut := true }
  | .stdinError error => fail state (normalizeStdinError call error)
  | .close code signal =>
    let result := closeResult state code signal
    if ¬ call.options.allowNonZeroExit ∧ (state.timedOut ∨ (code ≠ none ∧ code ≠ some 0)) then
      finalize state (.rejected (normalizeExitError call result))
    else finalize state (.resolved result)

def initialProcessState : ProcessState where
  stdout := ⟨[], 0, false⟩
  stderr := ⟨[], 0, false⟩
  timedOut := false
  settled := false
  settlements := []

def runProcess (call : ProcessCall) (events : List ProcessEvent) : ProcessState :=
  events.foldl (handleProcessEvent call) initialProcessState

end GT3Code.Server
