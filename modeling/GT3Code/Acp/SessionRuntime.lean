import GT3Code.Base.Brackets
import GT3Code.Base.KeyedMap
import GT3Code.Base.Loops
import GT3Code.Gc.FolderMetadata

/-! # The ACP session runtime

The read loop handles the session updates of the agent one after another and queues parsed events;
a prompt closes the assistant segment before its request and after its response. The segment is
changed in one step and the event of the change is queued in another.
-/

namespace GT3Code.Acp

open GT3Code.Base GT3Code.Contracts GT3Code.Gc

/-! ## Parsed updates -/

structure AcpSessionMode where
  id : String
  name : String
  description : Option String

structure AcpSessionModeState where
  currentModeId : String
  availableModes : List AcpSessionMode

inductive ToolCallStatus where
  | pending
  | inProgress
  | completed
  | failed
  deriving DecidableEq

structure AcpToolCallState where
  toolCallId : String
  kind : Option String
  title : Option String
  status : Option ToolCallStatus
  command : Option String
  detail : Option String
  data : KeyedMap String Json

inductive PlanStepStatus where
  | pending
  | inProgress
  | completed
  deriving DecidableEq

structure PlanStep where
  step : String
  status : PlanStepStatus
  deriving DecidableEq

inductive AcpParsedSessionEvent where
  | modeChanged (modeId : String)
  | assistantItemStarted (itemId : String)
  | assistantItemCompleted (itemId : String)
  | planUpdated (plan : List PlanStep)
  | toolCallUpdated (toolCall : AcpToolCallState)
  | contentDelta (itemId : Option String) (text : String)

/-- What the agent notifies of. A tool call is the one `parseTypedToolCallState` reads from the
update, a chunk has the text of its content where that is text. -/
inductive SessionUpdate where
  | currentModeUpdate (currentModeId : String)
  | plan (entries : List (String × String))
  | toolCall (toolCall : Option AcpToolCallState)
  | agentMessageChunk (text : Option String)
  | other

structure SessionNotification where
  sessionId : String
  update : SessionUpdate

def normalizePlanStepStatus : String → PlanStepStatus
  | "completed" => .completed
  | "in_progress" | "inProgress" => .inProgress
  | _ => .pending

def planStep (entry : (String × String) × Nat) : PlanStep where
  step := if trim entry.1.1 = "" then "Step " ++ toString (entry.2 + 1) else trim entry.1.1
  status := normalizePlanStepStatus entry.1.2

def parseSessionUpdateEvent : SessionUpdate → Option String × List AcpParsedSessionEvent
  | .currentModeUpdate currentModeId =>
    let modeId := trim currentModeId
    (some modeId, if modeId = "" then [] else [.modeChanged modeId])
  | .plan entries =>
    (none, if entries = [] then [] else [.planUpdated (entries.zipIdx.map planStep)])
  | .toolCall toolCall => (none, (toolCall.map .toolCallUpdated).toList)
  | .agentMessageChunk text =>
    (none, (text.filter (fun text => text ≠ "")).toList.map (.contentDelta none))
  | .other => (none, [])

def updateModeState (modeState : AcpSessionModeState) (nextModeId : String) :
    AcpSessionModeState :=
  let normalized := trim nextModeId
  if normalized = "" then modeState
  else if modeState.availableModes.any fun mode => mode.id = normalized then
    { modeState with currentModeId := normalized }
  else modeState

/-- `value ? { key: value } : {}` -/
def truthy (value : Option String) : Option String := value.filter fun value => value ≠ ""

def stringEntry (key : String) (data : KeyedMap String Json) : Option String :=
  match data.get key with
  | some (.str value) => some value
  | _ => none

/-- `{ ...previous, ...next }` -/
def spread (previous next : KeyedMap String Json) : KeyedMap String Json :=
  next.rows.foldl (fun data entry => KeyedMap.set entry.1 entry.2 data) previous

def mergeToolCallState (previous : Option AcpToolCallState) (next : AcpToolCallState) :
    AcpToolCallState where
  toolCallId := next.toolCallId
  kind := truthy ((stringEntry "kind" next.data).or (previous.bind AcpToolCallState.kind))
  title := truthy (next.title.or (previous.bind AcpToolCallState.title))
  status := next.status.or (previous.bind AcpToolCallState.status)
  command := truthy (next.command.or (previous.bind AcpToolCallState.command))
  detail := truthy (next.detail.or (previous.bind AcpToolCallState.detail))
  data := spread ((previous.map AcpToolCallState.data).getD (KeyedTable.empty _)) next.data

def AcpToolCallState.ended (toolCall : AcpToolCallState) : Bool :=
  toolCall.status = some .completed ∨ toolCall.status = some .failed

def shouldEmitToolCallUpdate (previous : Option AcpToolCallState) (next : AcpToolCallState) :
    Bool :=
  if next.ended then true
  else if truthy next.detail = none then false
  else
    match previous with
    | none => true
    | some previous => previous.title ≠ next.title ∨ previous.detail ≠ next.detail

structure AcpAssistantSegmentState where
  nextSegmentIndex : Nat
  activeItemId : Option String

def assistantItemId (sessionId : String) (segmentIndex : Nat) : String :=
  "assistant:" ++ sessionId ++ ":segment:" ++ toString segmentIndex

inductive AcpOp where
  | updateMode (modeId : String)
  | closeSegment
  | ensureSegment (sessionId : String)
  | getActiveItem (number : Nat)
  | modifyToolCalls (toolCall : AcpToolCallState)
  | offer (event : AcpParsedSessionEvent)
  | sendPrompt (sessionId : String) (prompt : List Json)
  | awaitPrompt (number : Nat)
  | completePrompt (number : Nat) (exit : Except String (Option String))

structure EnsuredSegment where
  itemId : String
  started : Bool

def AcpOp.Result : AcpOp → Type
  | .closeSegment | .getActiveItem _ => Option String
  | .ensureSegment _ => EnsuredSegment
  | .modifyToolCalls _ => Option AcpToolCallState × AcpToolCallState
  | .sendPrompt _ _ => Nat
  | .awaitPrompt _ => Except String (Option String)
  | _ => Unit

abbrev AcpEffect (α : Type) := Process AcpOp AcpOp.Result String α

abbrev perform (op : AcpOp) : AcpEffect op.Result := Process.perform op

inductive AcpMessage where
  | sessionUpdate (notification : SessionNotification)
  | promptResponse (number : Nat) (exit : Except String (Option String))

structure AcpWorld where
  modeState : Option AcpSessionModeState
  toolCalls : KeyedMap String AcpToolCallState
  segment : AcpAssistantSegmentState
  events : List AcpParsedSessionEvent
  prompts : List (String × List Json)
  responses : Nat → Option (Except String (Option String))
  received : List AcpMessage
  taken : Nat
  /-- The events of the segment changes so far that were not queued yet, and the numbers of the
  messages whose blank chunk came upon no open segment. -/
  owed : List (BracketEvent String)
  skipped : List Nat

def AcpParsedSessionEvent.segment? : AcpParsedSessionEvent → Option (BracketEvent String)
  | .assistantItemStarted itemId => some (.opened itemId)
  | .assistantItemCompleted itemId => some (.closed itemId)
  | .contentDelta (some itemId) _ => some (.within itemId)
  | _ => none

namespace AcpWorld

def initial (modeState : Option AcpSessionModeState) : AcpWorld where
  modeState := modeState
  toolCalls := KeyedTable.empty _
  segment := { nextSegmentIndex := 0, activeItemId := none }
  events := []
  prompts := []
  responses := fun _ => none
  received := []
  taken := 0
  owed := []
  skipped := []

def ensured (world : AcpWorld) (sessionId : String) : EnsuredSegment :=
  match world.segment.activeItemId with
  | some itemId => { itemId := itemId, started := false }
  | none =>
    { itemId := assistantItemId sessionId world.segment.nextSegmentIndex, started := true }

def mergedToolCall (world : AcpWorld) (toolCall : AcpToolCallState) :
    Option AcpToolCallState × AcpToolCallState :=
  let previous := world.toolCalls.get toolCall.toolCallId
  (previous, mergeToolCallState previous toolCall)

def after (world : AcpWorld) : AcpOp → AcpWorld
  | .updateMode modeId =>
    { world with modeState := world.modeState.map fun current => updateModeState current modeId }
  | .closeSegment =>
    { world with
      segment := { world.segment with activeItemId := none }
      owed := world.owed ++ (world.segment.activeItemId.map .closed).toList }
  | .ensureSegment sessionId =>
    match world.ensured sessionId with
    | { itemId, started := false } => { world with owed := world.owed ++ [.within itemId] }
    | { itemId, started := true } =>
      { world with
        segment :=
          { nextSegmentIndex := world.segment.nextSegmentIndex + 1
            activeItemId := some itemId }
        owed := world.owed ++ [.opened itemId, .within itemId] }
  | .getActiveItem number =>
    match world.segment.activeItemId with
    | none => { world with skipped := number :: world.skipped }
    | some _ => world
  | .modifyToolCalls toolCall =>
    let merged := (world.mergedToolCall toolCall).2
    { world with
      toolCalls :=
        if merged.ended then KeyedMap.delete merged.toolCallId world.toolCalls
        else KeyedMap.set merged.toolCallId merged world.toolCalls }
  | .offer event =>
    { world with
      events := world.events ++ [event]
      owed :=
        match event.segment? with
        | some segmentEvent => world.owed.erase segmentEvent
        | none => world.owed }
  | .sendPrompt sessionId prompt => { world with prompts := world.prompts ++ [(sessionId, prompt)] }
  | .completePrompt number exit =>
    { world with
      responses :=
        Function.update world.responses number ((world.responses number).or (some exit)) }
  | .awaitPrompt _ => world

/-- What an operation gives; it is refused while what it waits for has not happened. -/
def result (world : AcpWorld) : (op : AcpOp) → Option op.Result
  | .closeSegment => some world.segment.activeItemId
  | .ensureSegment sessionId => some (world.ensured sessionId)
  | .getActiveItem _ => some world.segment.activeItemId
  | .modifyToolCalls toolCall => some (world.mergedToolCall toolCall)
  | .sendPrompt _ _ => some world.prompts.length
  | .awaitPrompt number => world.responses number
  | .updateMode _ | .offer _ | .completePrompt _ _ => some ()

def answer (world : AcpWorld) (op : AcpOp) : Option (op.Result × AcpWorld) :=
  (world.result op).map fun res => (res, world.after op)

theorem of_answer {world next : AcpWorld} {op : AcpOp} {res : op.Result}
    (h : world.answer op = some (res, next)) : world.result op = some res ∧ next = world.after op := by
  obtain ⟨res', hres, heq⟩ := Option.map_eq_some_iff.mp h
  cases heq
  exact ⟨hres, rfl⟩

end AcpWorld

def closeActiveAssistantSegment : AcpEffect Unit := do
  match ← perform .closeSegment with
  | some itemId => perform (.offer (.assistantItemCompleted itemId))
  | none => pure ()

def ensureActiveAssistantSegment (sessionId : String) : AcpEffect String := do
  match ← perform (.ensureSegment sessionId) with
  | { itemId, started := true } => do
      perform (.offer (.assistantItemStarted itemId))
      pure itemId
  | { itemId, started := false } => pure itemId

def offerDelta (sessionId text : String) : AcpEffect Unit := do
  let itemId ← ensureActiveAssistantSegment sessionId
  perform (.offer (.contentDelta (some itemId) text))

def handleChunk (number : Nat) (sessionId text : String) : AcpEffect Unit :=
  if trim text = "" then do
    match ← perform (.getActiveItem number) with
    | none => pure ()
    | some _ => offerDelta sessionId text
  else offerDelta sessionId text

def offerToolCall (previous : Option AcpToolCallState) (merged : AcpToolCallState) :
    AcpEffect Unit :=
  if shouldEmitToolCallUpdate previous merged then perform (.offer (.toolCallUpdated merged))
  else pure ()

def handleToolCall (toolCall : AcpToolCallState) : AcpEffect Unit := do
  closeActiveAssistantSegment
  let merged ← perform (.modifyToolCalls toolCall)
  offerToolCall merged.1 merged.2

def handleEvent (number : Nat) (sessionId : String) : AcpParsedSessionEvent → AcpEffect Unit
  | .toolCallUpdated toolCall => handleToolCall toolCall
  | .contentDelta _ text => handleChunk number sessionId text
  | event => perform (.offer event)

def handleMode (modeId : Option String) : AcpEffect Unit :=
  match truthy modeId with
  | some modeId => perform (.updateMode modeId)
  | none => pure ()

def handleSessionUpdate (number : Nat) (notification : SessionNotification) : AcpEffect Unit := do
  handleMode (parseSessionUpdateEvent notification.update).1
  Process.forEach (parseSessionUpdateEvent notification.update).2
    (handleEvent number notification.sessionId)

def routeMessage (number : Nat) : AcpMessage → AcpEffect Unit
  | .sessionUpdate notification => handleSessionUpdate number notification
  | .promptResponse prompt exit => perform (.completePrompt prompt exit)

def prompt (sessionId : String) (payload : List Json) : AcpEffect (Option String) := do
  closeActiveAssistantSegment
  let number ← perform (.sendPrompt sessionId payload)
  match ← perform (.awaitPrompt number) with
  | .ok stopReason => do
      closeActiveAssistantSegment
      pure stopReason
  | .error error => .fail error

structure PromptCall where
  payload : List Json

inductive AcpExternal where
  | receive (message : AcpMessage)

def AcpMessage.Possible (world : AcpWorld) : AcpMessage → Prop
  | .sessionUpdate _ => True
  | .promptResponse number _ => number < world.prompts.length

instance (world : AcpWorld) : ∀ message, Decidable (AcpMessage.Possible world message)
  | .sessionUpdate _ => isTrue trivial
  | .promptResponse number _ => inferInstanceAs (Decidable (number < world.prompts.length))

def acpExternal (world : AcpWorld) : AcpExternal → Option AcpWorld
  | .receive message =>
    if message.Possible world then some { world with received := world.received ++ [message] }
    else none

def acpTake (_ : Nat) (world : AcpWorld) : Option (AcpEffect PUnit × AcpWorld) :=
  (world.received[world.taken]?).map fun message =>
    (routeMessage world.taken message, { world with taken := world.taken + 1 })

def promptProgram (sessionId : String) (call : PromptCall) : AcpEffect PUnit := do
  let _ ← prompt sessionId call.payload

/-- A runtime that was started with the session id; its first process is the read loop. -/
def acpRuntime (sessionId : String) : LoopSystem AcpWorld AcpOp AcpOp.Result String Unit PromptCall
    AcpExternal where
  answer world op _ := world.answer op
  program := promptProgram sessionId
  forks _ := none
  external := acpExternal
  loops := 1
  take := acpTake
  interrupts _ _ := false
  finalize _ _ world := world

abbrev RuntimePool := Pool AcpWorld AcpOp AcpOp.Result String

abbrev RuntimeAction := LoopAction Unit PromptCall AcpExternal

/-- What the earlier runtimes of the thread queued, and the one that runs. -/
structure ThreadRuntimes where
  past : List (List AcpParsedSessionEvent)
  current : RuntimePool

/-- `resume` creates the next runtime, which loads the session under its id. -/
inductive ThreadAction where
  | runtime (action : RuntimeAction)
  | resume (modeState : Option AcpSessionModeState)

namespace ThreadRuntimes

def initial (sessionId : String) (modeState : Option AcpSessionModeState) : ThreadRuntimes where
  past := []
  current := (acpRuntime sessionId).initial (.initial modeState)

def step (sessionId : String) (state : ThreadRuntimes) : ThreadAction → Option ThreadRuntimes
  | .runtime action =>
    ((acpRuntime sessionId).step state.current action).map fun current =>
      { state with current := current }
  | .resume modeState =>
    some
      { past := state.past ++ [state.current.view.world.events]
        current := (acpRuntime sessionId).initial (.initial modeState) }

end ThreadRuntimes

end GT3Code.Acp
