import GT3Code.Base.Requests

/-! # The protocol with the Codex app server

Requests go out under numbers, responses come back on one input stream. When the stream ends
or fails, the termination handler fails what is pending. Every step of a fiber is a step.
-/

namespace GT3Code.Codex

open GT3Code.Base

variable {Value : Type}

structure CodexAppServerProtocolErrorShape (Value : Type) where
  code : Rat
  message : String
  data : Option Value

inductive CodexAppServerError (Value : Type) where
  | request (code : Rat) (errorMessage : String) (data : Option Value)
  | spawn (command : Option String)
  | processExited (code : Option Rat)
  | protocolParse (detail : String)
  | transport (detail : String)

def fromProtocolError (error : CodexAppServerProtocolErrorShape Value) :
    CodexAppServerError Value :=
  .request error.code error.message error.data

/-- A response, its `id` as `String(response.id)`. -/
structure JsonRpcResponse (Value : Type) where
  id : String
  result : Option Value
  error : Option (CodexAppServerProtocolErrorShape Value)

/-- What the deferred of a request is completed with in `handleResponse`. -/
def JsonRpcResponse.exit (response : JsonRpcResponse Value) :
    Except (CodexAppServerError Value) (Option Value) :=
  match response.error with
  | some protocolError => .error (fromProtocolError protocolError)
  | none => .ok response.result

structure RequestMessage (Value : Type) where
  id : Nat
  method : String
  params : Option Value

inductive TerminationStage (Value : Type) where
  | reading
  | classifying
  | classified (error : CodexAppServerError Value)
  | failing
  | cleared
  | ended
  | finished

structure CodexProtocol (Value : Type) where
  requests : Requests String (JsonRpcResponse Value) (CodexAppServerError Value)
  inputs : Nat → String × Option Value
  outgoing : List (RequestMessage Value)
  outgoingEnded : Bool
  terminationHandled : Bool
  stage : TerminationStage Value

/-- The parse error is the one of a message that cannot be encoded; the errors of
`classifyTermination` are those of the input stream and of `options.terminationError`. -/
inductive CodexAction (Value : Type) where
  | request (i : Nat) (method : String) (payload : Option Value)
  | registerPending (i : Nat)
  | offerOutgoing (i : Nat)
  | encodeFails (i : Nat) (error : CodexAppServerError Value)
  | removePending (i : Nat)
  | resume (i : Nat)
  | interrupt (i : Nat)
  | handleResponse (response : JsonRpcResponse Value)
  | completeDeferred
  | handleTermination
  | classifyTermination (error : CodexAppServerError Value)
  | readPending
  | failNextPending
  | clearPending
  | endOutgoing
  | onTermination

namespace CodexProtocol

def initial : CodexProtocol Value where
  requests := .initial 1
  inputs := fun _ => ("", none)
  outgoing := []
  outgoingEnded := false
  terminationHandled := false
  stage := .reading

def atRequests (state : CodexProtocol Value)
    (actions : List (RequestsAction String (JsonRpcResponse Value) (CodexAppServerError Value)))
    (stage : TerminationStage Value) : Option (CodexProtocol Value) :=
  (exec (Requests.step toString) state.requests actions).map fun requests =>
    { state with requests := requests, stage := stage }

def step (state : CodexProtocol Value) : CodexAction Value → Option (CodexProtocol Value)
  | .request i method payload =>
    { state with inputs := Function.update state.inputs i (method, payload) }.atRequests
      [.allocate i] state.stage
  | .registerPending i => state.atRequests [.register i] state.stage
  | .offerOutgoing i =>
    let message : RequestMessage Value :=
      { id := (state.requests.calls i).number
        method := (state.inputs i).1
        params := (state.inputs i).2 }
    { state with
      outgoing :=
        if state.outgoingEnded then state.outgoing
        else state.outgoing ++ [message] }.atRequests [.offer i] state.stage
  | .encodeFails i error => state.atRequests [.refuse i error] state.stage
  | .removePending i => state.atRequests [.remove i] state.stage
  | .resume i => state.atRequests [.wake i] state.stage
  | .interrupt i => state.atRequests [.interrupt i] state.stage
  | .handleResponse response =>
    match state.stage with
    | .reading =>
      if state.requests.pending.has response.id then
        state.atRequests [.receive response.id response, .take] .reading
      else state.atRequests [.receive response.id response] .reading
    | _ => none
  | .completeDeferred => state.atRequests [.complete] state.stage
  | .handleTermination =>
    match state.stage, state.requests.handling with
    | .reading, .reading =>
      if state.terminationHandled then none
      else some { state with terminationHandled := true, stage := .classifying }
    | _, _ => none
  | .classifyTermination error =>
    match state.stage with
    | .classifying => some { state with stage := .classified error }
    | _ => none
  | .readPending =>
    match state.stage with
    | .classified error => state.atRequests [.drain error] .failing
    | _ => none
  | .failNextPending => state.atRequests [.failNext] state.stage
  | .clearPending =>
    match state.stage, state.requests.handling with
    | .failing, .failing [] _ => state.atRequests [.clear] .cleared
    | _, _ => none
  | .endOutgoing =>
    match state.stage with
    | .cleared => some { state with outgoingEnded := true, stage := .ended }
    | _ => none
  | .onTermination =>
    match state.stage with
    | .ended => some { state with stage := .finished }
    | _ => none

end CodexProtocol

end GT3Code.Codex
