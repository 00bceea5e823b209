import GT3Code.Base.Requests
import Mathlib.Algebra.Group.Nat.Defs

/-! # The protocol with an ACP agent

Extension requests and the requests of the RPC client share the ids of one wire. A message
with the id of a pending extension request completes it, every other one is given to the
RPC client. Every step of a fiber is a step.
-/

namespace GT3Code.Acp

open GT3Code.Base

variable {Value : Type}

/-! ## Errors and messages -/

structure AcpProtocolErrorShape (Value : Type) where
  code : Rat
  message : String
  data : Option Value

inductive AcpError (Value : Type) where
  | request (code : Rat) (errorMessage : String) (data : Option Value)
  | spawn (command : Option String)
  | processExited (code : Option Rat)
  | protocolParse (detail : String)
  | transport (detail : String)

def fromProtocolError (error : AcpProtocolErrorShape Value) : AcpError Value :=
  .request error.code error.message error.data

def internalError (message : String) : AcpError Value := .request (-32603) message none

/-- An entry of the cause of a failed exit. The error of a `Fail` is read by `isProtocolError`. -/
inductive CauseEntry (Value : Type) where
  | fail (protocolError : Option (AcpProtocolErrorShape Value))
  | die
  | interrupt

def CauseEntry.isFail : CauseEntry Value → Bool
  | .fail _ => true
  | _ => false

inductive ExitEncoded (Value : Type) where
  | success (value : Option Value)
  | failure (cause : List (CauseEntry Value))

inductive FromServerEncoded (Value : Type) where
  | exit (requestId : String) (result : ExitEncoded Value)
  | chunk (requestId : String) (values : List Value)
  | defect
  | clientProtocolError (error : AcpError Value)
  | pong

def FromServerEncoded.requestId? : FromServerEncoded Value → Option String
  | .exit requestId _ | .chunk requestId _ => some requestId
  | _ => none

/-- What an exit completes an extension request with, in `handleExitEncoded`. -/
def ExitEncoded.extResult : ExitEncoded Value → Except (AcpError Value) (Option Value)
  | .success value => .ok value
  | .failure cause =>
    match cause.find? CauseEntry.isFail with
    | some (.fail (some error)) => .error (fromProtocolError error)
    | _ => .error (internalError "Extension request failed")

/-- What a message with its id completes an extension request with. -/
def FromServerEncoded.extResult : FromServerEncoded Value →
    Option (Except (AcpError Value) (Option Value))
  | .exit _ result => some result.extResult
  | .chunk _ _ =>
    some (.error (internalError "Streaming extension responses are not supported"))
  | _ => none

structure RequestEncoded (Value : Type) where
  id : String
  tag : String
  payload : Value

/-- The calls of the termination handler, in order; it is `dismissed` when there is no error to
fail requests with. -/
inductive TerminationStage (Value : Type) where
  | reading
  | classifying
  | dismissed
  | classified (error : AcpError Value)
  | failing (error : AcpError Value)
  | emitted
  | finished

/-- `offering` is a message on its way to the RPC client, `consumed` those that were found to be
of an extension request, and `stray` those given to the RPC client while an extension request
was pending under their id. -/
structure AcpProtocol (Value : Type) where
  ext : Requests String (FromServerEncoded Value) (AcpError Value)
  inputs : Nat → String × Option Value
  nextRpcRequestId : Nat
  outgoing : List (RequestEncoded (Option Value))
  offering : Option (FromServerEncoded Value)
  clientQueue : List (FromServerEncoded Value)
  consumed : List (FromServerEncoded Value)
  stray : List (FromServerEncoded Value)
  disconnects : Nat
  terminationHandled : Bool
  stage : TerminationStage Value

inductive AcpAction (Value : Type) where
  | sendRequest (i : Nat) (method : String) (payload : Option Value)
  | registerExt (i : Nat)
  | offerOutgoing (i : Nat)
  | encodeFails (i : Nat) (error : AcpError Value)
  | removeExtPending (i : Nat)
  | resume (i : Nat)
  | interrupt (i : Nat)
  | sendRpc (tag : String) (payload : Option Value)
  | routeDecodedMessage (message : FromServerEncoded Value)
  | resolveExtPending
  | completeDeferred
  | offerClient
  | handleTermination
  | classifyTermination (error : Option (AcpError Value))
  | getAndSetExtPending
  | failNextPending
  | emitClientProtocolError
  | onTermination

namespace AcpProtocol

def initial : AcpProtocol Value where
  ext := .initial 1
  inputs := fun _ => ("", none)
  nextRpcRequestId := 2 ^ 32
  outgoing := []
  offering := none
  clientQueue := []
  consumed := []
  stray := []
  disconnects := 0
  terminationHandled := false
  stage := .reading

def atExt (state : AcpProtocol Value)
    (actions : List (RequestsAction String (FromServerEncoded Value) (AcpError Value)))
    (stage : TerminationStage Value) : Option (AcpProtocol Value) :=
  (exec (Requests.step toString) state.ext actions).map fun ext =>
    { state with ext := ext, stage := stage }

def isPending (state : AcpProtocol Value) (message : FromServerEncoded Value) : Bool :=
  match message.requestId? with
  | some requestId => state.ext.pending.has requestId
  | none => false

def step (state : AcpProtocol Value) : AcpAction Value → Option (AcpProtocol Value)
  | .sendRequest i method payload =>
    { state with inputs := Function.update state.inputs i (method, payload) }.atExt
      [.allocate i] state.stage
  | .registerExt i => state.atExt [.register i] state.stage
  | .offerOutgoing i =>
    let message : RequestEncoded (Option Value) :=
      { id := toString (state.ext.calls i).number
        tag := (state.inputs i).1
        payload := (state.inputs i).2 }
    { state with outgoing := state.outgoing ++ [message] }.atExt [.offer i] state.stage
  | .encodeFails i error => state.atExt [.refuse i error] state.stage
  | .removeExtPending i => state.atExt [.remove i] state.stage
  | .resume i => state.atExt [.wake i] state.stage
  | .interrupt i => state.atExt [.interrupt i] state.stage
  | .sendRpc tag payload =>
    some
      { state with
        nextRpcRequestId := state.nextRpcRequestId + 1
        outgoing := state.outgoing ++ [⟨toString state.nextRpcRequestId, tag, payload⟩] }
  | .routeDecodedMessage message =>
    match state.stage, state.offering, message.requestId? with
    | .reading, none, some requestId =>
      if state.ext.pending.has requestId then
        { state with consumed := message :: state.consumed }.atExt
          [.receive requestId message] .reading
      else
        { state with offering := some message }.atExt [.receive requestId message] .reading
    | .reading, none, none =>
      match state.ext.handling with
      | .reading => some { state with offering := some message }
      | _ => none
    | _, _, _ => none
  | .resolveExtPending => state.atExt [.take] state.stage
  | .completeDeferred => state.atExt [.complete] state.stage
  | .offerClient =>
    match state.offering with
    | some message =>
      some
        { state with
          offering := none
          clientQueue := state.clientQueue ++ [message]
          stray := if state.isPending message then message :: state.stray else state.stray }
    | none => none
  | .handleTermination =>
    match state.stage, state.offering, state.ext.handling with
    | .reading, none, .reading =>
      if state.terminationHandled then none
      else
        some
          { state with
            terminationHandled := true
            disconnects := state.disconnects + 1
            stage := .classifying }
    | _, _, _ => none
  | .classifyTermination error =>
    match state.stage, error with
    | .classifying, none => some { state with stage := .dismissed }
    | .classifying, some error => some { state with stage := .classified error }
    | _, _ => none
  | .getAndSetExtPending =>
    match state.stage with
    | .classified error => state.atExt [.drain error, .clear] (.failing error)
    | _ => none
  | .failNextPending => state.atExt [.failNext] state.stage
  | .emitClientProtocolError =>
    match state.stage, state.ext.handling with
    | .failing error, .failing [] _ =>
      some
        { state with
          clientQueue := state.clientQueue ++ [.clientProtocolError error]
          stage := .emitted }
    | _, _ => none
  | .onTermination =>
    match state.stage with
    | .emitted => some { state with stage := .finished }
    | _ => none

end AcpProtocol

end GT3Code.Acp
