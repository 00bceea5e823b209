import GT3Code.Base.Framing
import GT3Code.Codex.Protocol
import GT3Code.Contracts.Keybindings

/-! # Messages on the input of the app server protocol

One message a line. The read loop keeps what follows the last newline of a chunk, and the end of
the stream hands it over. The cut into chunks changes nothing about the lines.
-/

namespace GT3Code.Codex

open GT3Code.Base GT3Code.Base.Json GT3Code.Contracts

def lineFeed : CodeUnit := 10

def carriageReturn : CodeUnit := 13

/-! ## Kinds of messages -/

def isStringValue : Doc Text → Bool
  | .str _ => true
  | _ => false

def isNumberValue : Doc Text → Bool
  | .scalar (.num _) => true
  | _ => false

/-- `Schema.is(JsonRpcId)` -/
def isJsonRpcId (value : Doc Text) : Bool := isNumberValue value || isStringValue value

def isJsonRpcError (value : Doc Text) : Bool :=
  (value.field? (ascii "code")).any isNumberValue &&
    (value.field? (ascii "message")).any isStringValue

def hasStringMethod (message : Value) : Bool :=
  (message.1.field? (ascii "method")).any isStringValue

def isIncomingRequest (message : Value) : Bool :=
  hasStringMethod message && (message.1.field? (ascii "id")).any isJsonRpcId

def isIncomingNotification (message : Value) : Bool :=
  hasStringMethod message && (message.1.field? (ascii "id")).isNone

/-- `Schema.is(JsonRpcResponseEnvelope)` -/
def isIncomingResponse (message : Value) : Bool :=
  (message.1.field? (ascii "id")).any isJsonRpcId &&
    (message.1.field? (ascii "error")).all isJsonRpcError

inductive MessageKind where
  | request
  | notification
  | response

/-- The call `routeMessage` makes. -/
structure RoutedMessage where
  kind : MessageKind
  message : Value

/-- `routeMessage` of the protocol. -/
def routeProtocolMessage (message : Value) : Option RoutedMessage :=
  if isIncomingRequest message then some ⟨.request, message⟩
  else if isIncomingNotification message then some ⟨.notification, message⟩
  else if isIncomingResponse message then some ⟨.response, message⟩
  else none

def encodeWireMessage (message : Value) : Text := stringify 0 message ++ [lineFeed]

/-- `line.replace(/\r$/, "")` -/
def dropCarriageReturn (line : Text) : Text :=
  if line.getLast? = some carriageReturn then line.dropLast else line

def isBlankLine (line : Text) : Bool := (trimText line).length == 0

/-- The lines `handleLine` was called with and the messages it routed. -/
structure IncomingLines where
  handed : List Text
  routed : List RoutedMessage

section

variable (perform : RoutedMessage → Except (CodexAppServerError Value) Unit)

/-- `perform` is what `handleRequest`, `handleNotification` and `handleResponse` come to. -/
def handleLine (incoming : IncomingLines) (line : Text) :
    Except (CodexAppServerError Value) IncomingLines :=
  let handed := incoming.handed ++ [line]
  if isBlankLine line then .ok { incoming with handed := handed }
  else
    match parse line with
    | none => .error (.protocolParse "Failed to decode Codex App Server wire message")
    | some message =>
      match routeProtocolMessage message with
      | none => .error (.protocolParse "Received protocol message in an unknown shape")
      | some routed =>
        (perform routed).map fun _ =>
          { handed := handed, routed := incoming.routed ++ [routed] }

def handleReadLine (incoming : IncomingLines) (line : Text) :
    Except (CodexAppServerError Value) IncomingLines :=
  handleLine perform incoming (dropCarriageReturn line)

/-- The remainder is handed over as it is when the stream has ended. -/
def readStdin (chunks : List Text) : Except (CodexAppServerError Value) IncomingLines := do
  let reader ← chunks.foldlM (readChunk lineFeed (handleReadLine perform)) ⟨[], ⟨[], []⟩⟩
  if isBlankLine reader.carried then return reader.state
  else handleLine perform reader.state reader.carried

end

/-! ## Lines handed over -/

def handedLines (text : Text) : List Text :=
  let cut := cutChunk lineFeed [] text
  cut.1.map dropCarriageReturn ++ if isBlankLine cut.2 then [] else [cut.2]

def UpToCarriageReturn (handed line : Text) : Prop :=
  handed = line ∨ handed ++ [carriageReturn] = line

/-- The same lines in the same order, up to blank ones and carriage returns at their ends. -/
def SameLines (handed lines : List Text) : Prop :=
  List.Forall₂ UpToCarriageReturn (handed.filter fun line => !isBlankLine line)
    (lines.filter fun line => !isBlankLine line)

section

variable {perform : RoutedMessage → Except (CodexAppServerError Value) Unit}

theorem readStdin_eq (chunks : List Text) :
    readStdin perform chunks =
      (handedLines chunks.flatten).foldlM (handleLine perform) ⟨[], []⟩ := by
  rw [readStdin, foldlM_readChunk, handedLines, List.foldlM_append, List.foldlM_map]
  simp only [readChunk]
  generalize cutChunk lineFeed [] chunks.flatten = cut
  rw [map_eq_pure_bind, bind_assoc]
  refine congrArg _ (funext fun incoming => ?_)
  rw [pure_bind]
  split
  · rfl
  · rw [List.foldlM_cons]
    simp

end

variable {line handed : Text} {messages : List Value}

theorem isBlankLine_iff : isBlankLine line = true ↔ ∀ u ∈ line, Shared.isSpace u = true := by
  rw [isBlankLine, beq_iff_eq, List.length_eq_zero_iff, trimText, trimWhere_eq_nil_iff]

theorem upToCarriageReturn_drop (line : Text) :
    UpToCarriageReturn (dropCarriageReturn line) line := by
  unfold dropCarriageReturn
  split
  · rename_i hlast
    obtain ⟨front, rfl⟩ := List.getLast?_eq_some_iff.mp hlast
    exact Or.inr (by rw [List.dropLast_concat])
  · exact Or.inl rfl

theorem UpToCarriageReturn.isBlankLine_eq (h : UpToCarriageReturn handed line) :
    isBlankLine handed = isBlankLine line := by
  rcases h with rfl | rfl
  · rfl
  · rw [Bool.eq_iff_iff, isBlankLine_iff, isBlankLine_iff]
    constructor
    · intro hblank u hu
      rcases List.mem_append.mp hu with hu | hu
      · exact hblank u hu
      · rw [List.mem_singleton.mp hu]
        decide
    · exact fun hblank u hu => hblank u (List.mem_append_left _ hu)

theorem sameLines_drop (lines : List Text) : SameLines (lines.map dropCarriageReturn) lines := by
  induction lines with
  | nil => exact .nil
  | cons line rest ih =>
    have hline := upToCarriageReturn_drop line
    unfold SameLines at ih ⊢
    rw [List.map_cons, List.filter_cons, List.filter_cons, hline.isBlankLine_eq]
    split
    · exact .cons hline ih
    · exact ih

theorem sameLines_handedLines (text : Text) :
    SameLines (handedLines text) (text.splitOn lineFeed) := by
  have hcut := cutChunk_concat lineFeed [] text
  rw [List.nil_append] at hcut
  have hfront := sameLines_drop (cutChunk lineFeed [] text).1
  unfold SameLines at hfront ⊢
  rw [← hcut, handedLines, List.filter_append, List.filter_append]
  refine List.rel_append hfront ?_
  cases hblank : isBlankLine (cutChunk lineFeed [] text).2 with
  | true => simp [hblank]
  | false =>
    rw [if_neg Bool.false_ne_true, List.filter_singleton]
    simp [hblank, UpToCarriageReturn]

section

variable (perform : RoutedMessage → Except (CodexAppServerError Value) Unit)

/-- A line that parses to a message which is routed and handled without failure. -/
def Carries (line : Text) (routed : RoutedMessage) : Prop :=
  parse line = some routed.message ∧ routeProtocolMessage routed.message = some routed ∧
    perform routed = .ok ()

def HandledLine (line : Text) : Prop :=
  isBlankLine line = true ∨ ∃ routed, Carries perform line routed

variable {perform}

variable {incoming : IncomingLines} {lines : List Text}

variable {line : Text}

theorem handleLine_carries {routed : RoutedMessage} (hblank : isBlankLine line = false)
    (h : Carries perform line routed) :
    handleLine perform incoming line =
      .ok ⟨incoming.handed ++ [line], incoming.routed ++ [routed]⟩ := by
  obtain ⟨hparse, hroute, hperform⟩ := h
  simp only [handleLine, hblank, Bool.false_eq_true, if_false, hparse, hroute, hperform]
  rfl

theorem handleLine_handed {next : IncomingLines} (h : handleLine perform incoming line = .ok next) :
    next.handed = incoming.handed ++ [line] := by
  unfold handleLine at h
  split at h
  · cases h
    rfl
  · split at h
    · cases h
    · split at h
      · cases h
      · rename_i routed _
        cases hperform : perform routed with
        | error error =>
          rw [hperform] at h
          cases h
        | ok done =>
          rw [hperform] at h
          cases h
          rfl

theorem handed_of_foldlM {last : IncomingLines}
    (h : lines.foldlM (handleLine perform) incoming = .ok last) :
    last.handed = incoming.handed ++ lines := by
  induction lines generalizing incoming with
  | nil =>
    cases h
    rw [List.append_nil]
  | cons line rest ih =>
    rw [List.foldlM_cons] at h
    cases hline : handleLine perform incoming line with
    | error error =>
      rw [hline] at h
      cases h
    | ok next =>
      rw [hline] at h
      rw [ih h, handleLine_handed hline, List.append_assoc, List.singleton_append]

theorem foldlM_of_handled (incoming : IncomingLines)
    (h : ∀ line ∈ lines, HandledLine perform line) :
    ∃ last, lines.foldlM (handleLine perform) incoming = .ok last := by
  induction lines generalizing incoming with
  | nil => exact ⟨incoming, rfl⟩
  | cons line rest ih =>
    have hline : ∃ next, handleLine perform incoming line = .ok next := by
      cases hblank : isBlankLine line with
      | true => exact ⟨_, by rw [handleLine, hblank]; rfl⟩
      | false =>
        obtain ⟨routed, hcarries⟩ :=
          (h line List.mem_cons_self).resolve_left (by simp [hblank])
        exact ⟨_, handleLine_carries hblank hcarries⟩
    obtain ⟨next, hnext⟩ := hline
    rw [List.foldlM_cons, hnext]
    exact ih next (fun later hlater => h later (List.mem_cons_of_mem _ hlater))

theorem foldlM_of_carries {messages : List RoutedMessage} (incoming : IncomingLines)
    (hblank : ∀ line ∈ lines, isBlankLine line = false)
    (h : List.Forall₂ (Carries perform) lines messages) :
    lines.foldlM (handleLine perform) incoming =
      .ok ⟨incoming.handed ++ lines, incoming.routed ++ messages⟩ := by
  induction h generalizing incoming with
  | nil => simp [pure, Except.pure]
  | cons hfirst _ ih =>
    rw [List.foldlM_cons, handleLine_carries (hblank _ List.mem_cons_self) hfirst]
    refine (ih _ (fun line hline => hblank line (List.mem_cons_of_mem _ hline))).trans ?_
    simp

end

/-! ## Written messages -/

structure RoutedMessage.Classified (routed : RoutedMessage) : Prop where
  request : routed.kind = .request ↔
    (∃ method, routed.message.1.field? (ascii "method") = some (.str method)) ∧
      ∃ id, routed.message.1.field? (ascii "id") = some id ∧ isJsonRpcId id = true
  notification : routed.kind = .notification ↔
    (∃ method, routed.message.1.field? (ascii "method") = some (.str method)) ∧
      routed.message.1.field? (ascii "id") = none
  response : routed.kind = .response ↔
    (¬∃ method, routed.message.1.field? (ascii "method") = some (.str method)) ∧
      (∃ id, routed.message.1.field? (ascii "id") = some id ∧ isJsonRpcId id = true) ∧
      ∀ error, routed.message.1.field? (ascii "error") = some error → isJsonRpcError error = true

variable {message : Value} {routed : RoutedMessage}

theorem hasStringMethod_iff :
    hasStringMethod message = true ↔
      ∃ method, message.1.field? (ascii "method") = some (.str method) := by
  rw [hasStringMethod, Option.any_eq_true]
  constructor
  · rintro ⟨value, hvalue, hstring⟩
    cases value with
    | str method => exact ⟨method, hvalue⟩
    | scalar | arr | obj => cases hstring
  · rintro ⟨method, hmethod⟩
    exact ⟨.str method, hmethod, rfl⟩

theorem isIncomingRequest_iff : isIncomingRequest message = true ↔
    (∃ method, message.1.field? (ascii "method") = some (.str method)) ∧
      ∃ id, message.1.field? (ascii "id") = some id ∧ isJsonRpcId id = true := by
  rw [isIncomingRequest, Bool.and_eq_true, hasStringMethod_iff, Option.any_eq_true]

theorem isIncomingNotification_iff : isIncomingNotification message = true ↔
    (∃ method, message.1.field? (ascii "method") = some (.str method)) ∧
      message.1.field? (ascii "id") = none := by
  rw [isIncomingNotification, Bool.and_eq_true, hasStringMethod_iff, Option.isNone_iff_eq_none]

theorem isIncomingResponse_iff : isIncomingResponse message = true ↔
    (∃ id, message.1.field? (ascii "id") = some id ∧ isJsonRpcId id = true) ∧
      ∀ error, message.1.field? (ascii "error") = some error → isJsonRpcError error = true := by
  rw [isIncomingResponse, Bool.and_eq_true, Option.any_eq_true, Option.all_eq_true]

theorem classified_of_routeMessage (h : routeProtocolMessage message = some routed) :
    routed.Classified := by
  unfold routeProtocolMessage at h
  split_ifs at h with hrequest hnotification hresponse
  · cases h
    rw [isIncomingRequest_iff] at hrequest
    constructor <;> grind
  · cases h
    rw [isIncomingRequest_iff] at hrequest
    rw [isIncomingNotification_iff] at hnotification
    constructor <;> grind
  · cases h
    rw [isIncomingRequest_iff] at hrequest
    rw [isIncomingNotification_iff] at hnotification
    rw [isIncomingResponse_iff] at hresponse
    constructor <;> grind

theorem lineFeed_notMem_stringify (message : Value) : lineFeed ∉ stringify 0 message :=
  fun h => absurd (le_of_mem_stringify h) (by decide)

theorem dropCarriageReturn_stringify (message : Value) :
    dropCarriageReturn (stringify 0 message) = stringify 0 message := by
  refine if_neg (fun hlast => ?_)
  exact absurd (le_of_mem_stringify (List.mem_of_getLast? hlast)) (by decide)

theorem head_of_routeMessage (h : routeProtocolMessage message = some routed) :
    openBrace ∈ stringify 0 message := by
  obtain ⟨d, hdistinct⟩ := message
  cases d with
  | obj entries =>
    rw [stringify, Doc.map_obj, layout_obj]
    cases entries <;> simp [bracketed, marks]
  | scalar | str | arr => exact absurd h (by simp [routeProtocolMessage, isIncomingRequest,
      isIncomingNotification, isIncomingResponse, hasStringMethod, Doc.field?])

theorem not_isBlankLine_stringify (h : routeProtocolMessage message = some routed) :
    isBlankLine (stringify 0 message) = false := by
  rw [Bool.eq_false_iff]
  intro hblank
  exact absurd (isBlankLine_iff.mp hblank _ (head_of_routeMessage h)) (by decide)

theorem message_of_routeMessage (h : routeProtocolMessage message = some routed) :
    routed.message = message := by
  unfold routeProtocolMessage at h
  split_ifs at h <;> (cases h; rfl)

theorem handedLines_flatMap_encode (messages : List Value) :
    handedLines (messages.flatMap encodeWireMessage) = messages.map (stringify 0) := by
  have hsplit : (messages.flatMap encodeWireMessage).splitOn lineFeed =
      messages.map (stringify 0) ++ [[]] := by
    refine splitOn_of_intercalate (by simp) ?_ ?_
    · intro piece hpiece
      rcases List.mem_append.mp hpiece with hpiece | hpiece
      · obtain ⟨message, -, rfl⟩ := List.mem_map.mp hpiece
        exact lineFeed_notMem_stringify message
      · rw [List.mem_singleton.mp hpiece]
        simp
    · rw [intercalate_concat, List.append_nil, List.flatMap_map]
      rfl
  have hcut : cutChunk lineFeed [] (messages.flatMap encodeWireMessage) =
      (messages.map (stringify 0), []) := by
    simp [cutChunk, hsplit]
  have hdrop : (messages.map (stringify 0)).map dropCarriageReturn = messages.map (stringify 0) := by
    rw [List.map_map]
    exact List.map_congr_left (fun message _ => dropCarriageReturn_stringify message)
  rw [handedLines, hcut]
  dsimp only
  rw [hdrop]
  simp [isBlankLine, trimText, trimWhere]

theorem carries_of_routeMessage
    {perform : RoutedMessage → Except (CodexAppServerError Value) Unit}
    (h : ∀ message ∈ messages, ∃ routed, routeProtocolMessage message = some routed ∧
      perform routed = .ok ()) :
    List.Forall₂ (Carries perform) (messages.map (stringify 0))
      (messages.filterMap routeProtocolMessage) := by
  induction messages with
  | nil => exact .nil
  | cons message rest ih =>
    obtain ⟨routed, hroute, hperform⟩ := h message List.mem_cons_self
    have hmessage := message_of_routeMessage hroute
    rw [List.map_cons, List.filterMap_cons_some hroute]
    refine .cons ⟨?_, ?_, hperform⟩ (ih (fun m hm => h m (List.mem_cons_of_mem _ hm)))
    · rw [parse_stringify, hmessage]
    · rw [hmessage, hroute]

theorem messages_of_routeMessage
    (h : ∀ message ∈ messages, ∃ routed, routeProtocolMessage message = some routed) :
    (messages.filterMap routeProtocolMessage).map RoutedMessage.message = messages := by
  induction messages with
  | nil => rfl
  | cons message rest ih =>
    obtain ⟨routed, hroute⟩ := h message List.mem_cons_self
    rw [List.filterMap_cons_some hroute, List.map_cons, message_of_routeMessage hroute,
      ih (fun m hm => h m (List.mem_cons_of_mem _ hm))]

theorem exists_line_of_mem_handedLines {text : Text} (h : handed ∈ handedLines text) :
    ∃ line ∈ text.splitOn lineFeed, UpToCarriageReturn handed line := by
  have hcut := cutChunk_concat lineFeed [] text
  rw [List.nil_append] at hcut
  rw [← hcut]
  rcases List.mem_append.mp h with hmem | hmem
  · obtain ⟨line, hline, rfl⟩ := List.mem_map.mp hmem
    exact ⟨line, List.mem_append_left _ hline, upToCarriageReturn_drop line⟩
  · split at hmem
    · cases hmem
    · exact ⟨handed, List.mem_append_right _ hmem, Or.inl rfl⟩

theorem stdin_framing (perform : RoutedMessage → Except (CodexAppServerError Value) Unit) :
    (∀ chunks, readStdin perform chunks = readStdin perform [chunks.flatten]) ∧
    (∀ chunks incoming, readStdin perform chunks = .ok incoming →
      SameLines incoming.handed (chunks.flatten.splitOn lineFeed)) ∧
    (∀ chunks, (∀ line ∈ chunks.flatten.splitOn lineFeed, ∀ handed, UpToCarriageReturn handed line →
        HandledLine perform handed) →
      ∃ incoming, readStdin perform chunks = .ok incoming) ∧
    ∀ (messages : List Value) (chunks : List Text),
      (∀ message ∈ messages, ∃ routed, routeProtocolMessage message = some routed ∧
        perform routed = .ok ()) →
      chunks.flatten = messages.flatMap encodeWireMessage →
      ∃ incoming, readStdin perform chunks = .ok incoming ∧
        incoming.routed.map RoutedMessage.message = messages ∧
        ∀ routed ∈ incoming.routed, routed.Classified := by
  refine ⟨?_, ?_, ?_, ?_⟩
  · intro chunks
    rw [readStdin_eq, readStdin_eq, List.flatten_singleton]
  · intro chunks incoming h
    rw [readStdin_eq] at h
    rw [handed_of_foldlM h, List.nil_append]
    exact sameLines_handedLines chunks.flatten
  · intro chunks hlines
    rw [readStdin_eq]
    refine foldlM_of_handled _ (fun handed hhanded => ?_)
    obtain ⟨line, hline, hsame⟩ := exists_line_of_mem_handedLines hhanded
    exact hlines line hline handed hsame
  · intro messages chunks hmessages hchunks
    have hroutes : ∀ message ∈ messages, ∃ routed, routeProtocolMessage message = some routed :=
      fun message hmessage => (hmessages message hmessage).imp fun _ h => h.1
    have hblank : ∀ line ∈ messages.map (stringify 0), isBlankLine line = false := by
      intro line hline
      obtain ⟨message, hmessage, rfl⟩ := List.mem_map.mp hline
      obtain ⟨routed, hroute⟩ := hroutes message hmessage
      exact not_isBlankLine_stringify hroute
    refine ⟨⟨messages.map (stringify 0), messages.filterMap routeProtocolMessage⟩, ?_, ?_, ?_⟩
    · rw [readStdin_eq, hchunks, handedLines_flatMap_encode]
      exact foldlM_of_carries _ hblank (carries_of_routeMessage hmessages)
    · exact messages_of_routeMessage hroutes
    · intro routed hrouted
      obtain ⟨message, -, hroute⟩ := List.mem_filterMap.mp hrouted
      exact classified_of_routeMessage hroute

def sampleRequest : Value :=
  ⟨.obj [(ascii "id", .scalar (.num ⟨ascii "1", by decide⟩)), (ascii "method", .str (ascii "a\n"))],
    rfl⟩

def sampleNotification : Value := ⟨.obj [(ascii "method", .str (ascii "b"))], rfl⟩

/-- Cut inside the first message, before its newline, and with an empty chunk between. -/
def sampleChunks : List Text :=
  [(stringify 0 sampleRequest).take 9, (stringify 0 sampleRequest).drop 9, [],
    lineFeed :: encodeWireMessage sampleNotification]

theorem stdin_framing_sample :
    ∃ incoming, readStdin (fun _ => .ok ()) sampleChunks = .ok incoming ∧
      SameLines incoming.handed (sampleChunks.flatten.splitOn lineFeed) ∧
      incoming.routed.map RoutedMessage.message = [sampleRequest, sampleNotification] ∧
      ∀ routed ∈ incoming.routed, routed.Classified := by
  obtain ⟨-, hlines, -, hmessages⟩ := stdin_framing (fun _ => .ok ())
  obtain ⟨incoming, hread, hrouted⟩ :=
    hmessages [sampleRequest, sampleNotification] sampleChunks
      (by
        intro message hmessage
        rcases List.mem_pair.mp hmessage with rfl | rfl
        · exact ⟨⟨.request, sampleRequest⟩, rfl, rfl⟩
        · exact ⟨⟨.notification, sampleNotification⟩, rfl, rfl⟩) rfl
  exact ⟨incoming, hread, hlines sampleChunks incoming hread, hrouted⟩

end GT3Code.Codex
