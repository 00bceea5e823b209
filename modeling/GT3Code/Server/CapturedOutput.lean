import GT3Code.Server.ProcessRunner

/-! # What a run captures

A run settles once, whatever the order of its events. The text it captures is that of the bytes
the child wrote exactly when no chunk ends inside a character: every chunk is decoded on its own.
-/

namespace GT3Code.Server

open GT3Code.Base GT3Code.Base.Json GT3Code.Contracts
open GT3Code.Base.Base64Url (Byte)
open GT3Code.Base.Utf8Decoding (decode KeepsCharacters flatMap_decode_eq_iff)

def SettledOnce (state : ProcessState) : Prop :=
  if state.settled then ∃ settlement, state.settlements = [settlement] else state.settlements = []

theorem settledOnce_initial : SettledOnce initialProcessState := rfl

variable {state : ProcessState} {call : ProcessCall}

theorem SettledOnce.finalize (h : SettledOnce state) (settlement : Settlement) :
    SettledOnce (finalize state settlement) := by
  unfold Server.finalize
  split_ifs with hsettled
  · exact h
  · have hnone : state.settlements = [] := by
      unfold SettledOnce at h
      rwa [if_neg hsettled] at h
    exact ⟨settlement, by simp [hnone]⟩

theorem settled_finalize (state : ProcessState) (settlement : Settlement) :
    (finalize state settlement).settled = true := by
  unfold finalize
  split_ifs with hsettled
  · exact hsettled
  · rfl

theorem settled_finalize_of_settled (h : state.settled = true) (settlement : Settlement) :
    finalize state settlement = state :=
  if_pos h

theorem SettledOnce.capture (h : SettledOnce state) (captured : CapturedStream)
    (stream : OutputStream) : SettledOnce (state.capture captured stream) := by
  cases stream <;> exact h

theorem SettledOnce.step (h : SettledOnce state) (event : ProcessEvent) :
    SettledOnce (handleProcessEvent call state event) := by
  cases event with
  | data stream chunk =>
    simp only [handleProcessEvent]
    split_ifs
    · exact (h.capture _ stream).finalize _
    · exact h.capture _ stream
  | error error => exact h.finalize _
  | timeout => exact h
  | stdinError error => exact h.finalize _
  | close code signal =>
    simp only [handleProcessEvent]
    split_ifs <;> exact h.finalize _

theorem settled_step (h : state.settled = true) (event : ProcessEvent) :
    (handleProcessEvent call state event).settled = true := by
  cases event with
  | data stream chunk =>
    have hcapture : ∀ captured, (state.capture captured stream).settled = true := by
      cases stream <;> exact fun _ => h
    simp only [handleProcessEvent]
    split_ifs
    · exact settled_finalize _ _
    · exact hcapture _
  | error error => exact settled_finalize _ _
  | timeout => exact h
  | stdinError error => exact settled_finalize _ _
  | close code signal =>
    simp only [handleProcessEvent]
    split_ifs <;> exact settled_finalize _ _

def ProcessEvent.Ends : ProcessEvent → Prop
  | .data _ _ => False
  | .timeout => False
  | .error _ => True
  | .stdinError _ => True
  | .close _ _ => True

theorem settled_of_ends (state : ProcessState) {event : ProcessEvent} (h : event.Ends) :
    (handleProcessEvent call state event).settled = true := by
  cases event with
  | data | timeout => cases h
  | error | stdinError => exact settled_finalize _ _
  | close code signal =>
    simp only [handleProcessEvent]
    split_ifs <;> exact settled_finalize _ _

theorem settledOnce_foldl (h : SettledOnce state) (events : List ProcessEvent) :
    SettledOnce (events.foldl (handleProcessEvent call) state) := by
  induction events generalizing state with
  | nil => exact h
  | cons event rest ih => exact ih (h.step event)

theorem settled_foldl (h : state.settled = true) (events : List ProcessEvent) :
    (events.foldl (handleProcessEvent call) state).settled = true := by
  induction events generalizing state with
  | nil => exact h
  | cons event rest ih => exact ih (settled_step h event)

/-- Never more than one settlement, and one as soon as an event ends the run. -/
def SettlesOnce (call : ProcessCall) (events : List ProcessEvent) : Prop :=
  (runProcess call events).settlements.length ≤ 1 ∧
    ((∃ event ∈ events, event.Ends) → (runProcess call events).settlements.length = 1)

theorem settlesOnce (call : ProcessCall) (events : List ProcessEvent) : SettlesOnce call events := by
  have honce : SettledOnce (runProcess call events) := settledOnce_foldl settledOnce_initial events
  unfold SettledOnce at honce
  constructor
  · split_ifs at honce
    · obtain ⟨settlement, hsettlement⟩ := honce
      simp [hsettlement]
    · simp [honce]
  · rintro ⟨event, hmem, hends⟩
    have hsettled : (runProcess call events).settled = true := by
      obtain ⟨before, after, rfl⟩ := List.append_of_mem hmem
      rw [runProcess, List.foldl_append, List.foldl_cons]
      exact settled_foldl (settled_of_ends _ hends) after
    rw [if_pos hsettled] at honce
    obtain ⟨settlement, hsettlement⟩ := honce
    simp [hsettlement]

/-! ## The streams -/

abbrev OutputData := List (OutputStream × Chunk)

def dataEvents (output : OutputData) : List ProcessEvent :=
  output.map (fun entry => .data entry.1 entry.2)

def chunksOf (stream : OutputStream) (output : OutputData) : List (List Byte) :=
  output.filterMap (fun entry => if entry.1 = stream then some entry.2.bytes else none)

def written (stream : OutputStream) (output : OutputData) : List Byte :=
  (chunksOf stream output).flatten

def captureChunks (call : ProcessCall) (captured : CapturedStream) (chunks : List (List Byte)) :
    CapturedStream :=
  chunks.foldl (fun captured chunk => (appendOutput call captured chunk).1) captured

theorem captured_finalize (state : ProcessState) (settlement : Settlement)
    (stream : OutputStream) : (finalize state settlement).captured stream = state.captured stream := by
  unfold finalize
  split_ifs
  · rfl
  · cases stream <;> rfl

theorem captured_capture (state : ProcessState) (captured : CapturedStream)
    (stream other : OutputStream) :
    (state.capture captured stream).captured other =
      if stream = other then captured else state.captured other := by
  cases stream <;> cases other <;> rfl

theorem captured_data (call : ProcessCall) (state : ProcessState) (stream other : OutputStream)
    (chunk : Chunk) :
    (handleProcessEvent call state (.data stream chunk)).captured other =
      if stream = other then (appendOutput call (state.captured stream) chunk.bytes).1
      else state.captured other := by
  simp only [handleProcessEvent]
  split_ifs <;> simp_all [fail, captured_finalize, captured_capture]

theorem captured_foldl_data (call : ProcessCall) (state : ProcessState) (output : OutputData)
    (stream : OutputStream) :
    ((dataEvents output).foldl (handleProcessEvent call) state).captured stream =
      captureChunks call (state.captured stream) (chunksOf stream output) := by
  induction output generalizing state with
  | nil => rfl
  | cons entry rest ih =>
    rw [dataEvents, List.map_cons, List.foldl_cons, ← dataEvents, ih, captured_data]
    by_cases h : entry.1 = stream
    · simp [chunksOf, h, captureChunks]
    · simp [chunksOf, h, captureChunks]

theorem timedOut_foldl_data (call : ProcessCall) (state : ProcessState) (output : OutputData) :
    ((dataEvents output).foldl (handleProcessEvent call) state).timedOut = state.timedOut := by
  have hdata : ∀ state stream chunk,
      (handleProcessEvent call state (.data stream chunk)).timedOut = state.timedOut := by
    intro state stream chunk
    simp only [handleProcessEvent, fail, finalize]
    cases stream <;> split_ifs <;> rfl
  induction output generalizing state with
  | nil => rfl
  | cons entry rest ih =>
    rw [dataEvents, List.map_cons, List.foldl_cons, ← dataEvents, ih, hdata]

/-- The chunks of the first `limit` bytes. -/
def limitChunks : Nat → List (List Byte) → List (List Byte)
  | _, [] => []
  | limit, chunk :: rest =>
    if limit = 0 then [] else chunk.take limit :: limitChunks (limit - chunk.length) rest

theorem limitChunks_zero (chunks : List (List Byte)) : limitChunks 0 chunks = [] := by
  cases chunks <;> rfl

theorem flatten_limitChunks (limit : Nat) (chunks : List (List Byte)) :
    (limitChunks limit chunks).flatten = chunks.flatten.take limit := by
  induction chunks generalizing limit with
  | nil => simp [limitChunks]
  | cons chunk rest ih =>
    unfold limitChunks
    split_ifs with hzero
    · simp [hzero]
    · rw [List.flatten_cons, List.flatten_cons, List.take_append, ih]

theorem captureChunks_error (hmode : call.outputMode = .error) (captured : CapturedStream)
    (chunks : List (List Byte)) :
    captureChunks call captured chunks =
      ⟨captured.text ++ chunks.flatMap decode, captured.bytes + chunks.flatten.length,
        captured.truncated⟩ := by
  induction chunks generalizing captured with
  | nil => simp [captureChunks]
  | cons chunk rest ih =>
    rw [captureChunks, List.foldl_cons, ← captureChunks, ih]
    simp [appendOutput, hmode, Nat.add_assoc]

theorem limitChunks_cons (limit : Nat) (chunk : List Byte) (rest : List (List Byte)) :
    limitChunks limit (chunk :: rest) =
      limitChunks limit [chunk] ++ limitChunks (limit - chunk.length) rest := by
  by_cases hzero : limit = 0
  · simp [hzero, limitChunks_zero]
  · simp only [limitChunks, if_neg hzero, List.singleton_append]

structure AppendedWithin (call : ProcessCall) (captured after : CapturedStream)
    (chunk : List Byte) : Prop where
  bytes : after.bytes = min call.maxBufferBytes (captured.bytes + chunk.length)
  text : after.text = captured.text ++
    (limitChunks (call.maxBufferBytes - captured.bytes) [chunk]).flatMap decode
  truncated : after.truncated = true ↔ captured.truncated = true ∨
    call.maxBufferBytes < captured.bytes + chunk.length

variable {captured : CapturedStream}

theorem appendOutput_truncate (hmode : call.outputMode = .truncate)
    (hbytes : captured.bytes ≤ call.maxBufferBytes) {chunk : List Byte} (hchunk : chunk ≠ []) :
    AppendedWithin call captured (appendOutput call captured chunk).1 chunk := by
  have hlength : 0 < chunk.length := List.length_pos_iff.mpr hchunk
  simp only [appendOutput, hmode, appendChunkWithinLimit]
  split_ifs with hfull hfits
  · refine ⟨?_, by simp [hfull, limitChunks_zero], ?_⟩
    · show captured.bytes = _
      omega
    · simp only [Bool.or_true, true_iff]
      omega
  · refine ⟨?_, ?_, ?_⟩
    · show captured.bytes + chunk.length = _
      omega
    · simp [limitChunks, hfull, List.take_of_length_le hfits]
    · rw [Bool.or_false]
      exact (or_iff_left (by omega)).symm
  · refine ⟨?_, by simp [limitChunks, hfull], ?_⟩
    · show captured.bytes + (call.maxBufferBytes - captured.bytes) = _
      omega
    · simp only [Bool.or_true, true_iff]
      omega

theorem captureChunks_truncate (hmode : call.outputMode = .truncate)
    (hbytes : captured.bytes ≤ call.maxBufferBytes) {chunks : List (List Byte)}
    (hchunks : ∀ chunk ∈ chunks, chunk ≠ []) : let after := captureChunks call captured chunks
    after.text = captured.text ++
        (limitChunks (call.maxBufferBytes - captured.bytes) chunks).flatMap decode ∧
      (after.truncated = true ↔ captured.truncated = true ∨
        call.maxBufferBytes < captured.bytes + chunks.flatten.length) := by
  induction chunks generalizing captured with
  | nil =>
    have hwithin : ¬ call.maxBufferBytes < captured.bytes := by omega
    simp [captureChunks, limitChunks, hwithin]
  | cons chunk rest ih =>
    obtain ⟨hchunk, hrest⟩ := List.forall_mem_cons.mp hchunks
    have hfirst := appendOutput_truncate hmode hbytes hchunk
    have hnext : (appendOutput call captured chunk).1.bytes ≤ call.maxBufferBytes := by
      rw [hfirst.bytes]
      exact Nat.min_le_left _ _
    obtain ⟨htext, htruncated⟩ := ih hnext hrest
    have hleft : call.maxBufferBytes - (appendOutput call captured chunk).1.bytes =
        call.maxBufferBytes - captured.bytes - chunk.length := by
      rw [hfirst.bytes]
      omega
    rw [captureChunks, List.foldl_cons, ← captureChunks]
    refine ⟨?_, ?_⟩
    · rw [htext, hfirst.text, hleft, limitChunks_cons _ chunk rest, List.flatMap_append, List.append_assoc]
    · rw [htruncated, hfirst.truncated, hfirst.bytes, List.flatten_cons, List.length_append,
        or_assoc]
      refine or_congr_right ?_
      omega

/-- In error mode a run is rejected as soon as a stream is over the limit. -/
structure RejectedOverLimit (call : ProcessCall) (state : ProcessState) : Prop where
  settled_iff : state.settled = true ↔
    ∃ stream, call.maxBufferBytes < (state.captured stream).bytes
  rejected : ∀ settlement ∈ state.settlements, ∃ message, settlement = .rejected message

theorem settlements_capture (state : ProcessState) (captured : CapturedStream)
    (stream : OutputStream) : (state.capture captured stream).settlements = state.settlements := by
  cases stream <;> rfl

theorem settled_capture (state : ProcessState) (captured : CapturedStream)
    (stream : OutputStream) : (state.capture captured stream).settled = state.settled := by
  cases stream <;> rfl

theorem RejectedOverLimit.data (hmode : call.outputMode = .error)
    (h : RejectedOverLimit call state) (stream : OutputStream) (chunk : Chunk) :
    RejectedOverLimit call (handleProcessEvent call state (.data stream chunk)) := by
  have hcaptured := captured_data call state stream
  have hbytes : ∀ captured, (appendOutput call captured chunk.bytes).1.bytes =
      captured.bytes + chunk.bytes.length := by
    intro captured
    simp [appendOutput, hmode]
  have hexceeded : (appendOutput call (state.captured stream) chunk.bytes).2 = true ↔
      call.maxBufferBytes <
        (appendOutput call (state.captured stream) chunk.bytes).1.bytes := by
    simp [appendOutput, hmode]
  have hover : (∃ other, call.maxBufferBytes < ((handleProcessEvent call state
      (.data stream chunk)).captured other).bytes) ↔
        state.settled = true ∨
          (appendOutput call (state.captured stream) chunk.bytes).2 = true := by
    rw [h.settled_iff, hexceeded]
    constructor
    · rintro ⟨other, hother⟩
      rw [hcaptured] at hother
      split_ifs at hother
      · exact Or.inr hother
      · exact Or.inl ⟨other, hother⟩
    · rintro (⟨other, hother⟩ | hnew)
      · refine ⟨other, ?_⟩
        rw [hcaptured]
        split_ifs with hsame
        · rw [hbytes, hsame]
          omega
        · exact hother
      · exact ⟨stream, by rwa [hcaptured, if_pos rfl]⟩
  constructor
  · rw [hover]
    simp only [handleProcessEvent]
    split_ifs with hfails
    · simp [fail, settled_finalize, hfails]
    · simp [settled_capture, hfails]
  · have hsame := h.rejected
    rw [← settlements_capture state
      (appendOutput call (state.captured stream) chunk.bytes).1 stream] at hsame
    simp only [handleProcessEvent, fail, finalize]
    split_ifs
    · exact hsame
    · intro settlement hmem
      rcases List.mem_append.mp hmem with hold | hnew
      · exact hsame settlement hold
      · exact ⟨_, List.mem_singleton.mp hnew⟩
    · exact hsame

theorem rejectedOverLimit_foldl (hmode : call.outputMode = .error)
    (h : RejectedOverLimit call state) (output : OutputData) :
    RejectedOverLimit call ((dataEvents output).foldl (handleProcessEvent call) state) := by
  induction output generalizing state with
  | nil => exact h
  | cons entry rest ih => exact ih (h.data hmode entry.1 entry.2)

theorem settled_foldl_truncate (hmode : call.outputMode = .truncate) (state : ProcessState)
    (output : OutputData) :
    ((dataEvents output).foldl (handleProcessEvent call) state).settled = state.settled := by
  induction output generalizing state with
  | nil => rfl
  | cons entry rest ih =>
    rw [dataEvents, List.map_cons, List.foldl_cons, ← dataEvents, ih]
    simp only [handleProcessEvent, appendOutput, hmode, Bool.false_eq_true, if_false]
    exact settled_capture _ _ _

/-! ## The captured text -/

def ProcessRunResult.output (result : ProcessRunResult) : OutputStream → Text
  | .stdout => result.stdout
  | .stderr => result.stderr

def ProcessRunResult.truncated (result : ProcessRunResult) : OutputStream → Bool
  | .stdout => result.stdoutTruncated
  | .stderr => result.stderrTruncated

def endedRun (call : ProcessCall) (output : OutputData) : ProcessState :=
  runProcess call (dataEvents output ++ [.close (some 0) none])

/-- The settlement is the text of what the child wrote, up to the limit. -/
def CapturesOutput (call : ProcessCall) (output : OutputData) : Prop :=
  match call.outputMode with
  | .error =>
    ((∀ stream, (written stream output).length ≤ call.maxBufferBytes) →
      ∃ result, (endedRun call output).settlements = [.resolved result] ∧
        ∀ stream, result.output stream = decode (written stream output)) ∧
    ((∃ stream, call.maxBufferBytes < (written stream output).length) →
      ∃ message, (endedRun call output).settlements = [.rejected message])
  | .truncate =>
    ∃ result, (endedRun call output).settlements = [.resolved result] ∧
      ∀ stream,
        result.output stream = decode ((written stream output).take call.maxBufferBytes) ∧
        (result.truncated stream = true ↔
          call.maxBufferBytes < (written stream output).length)

/-- No chunk ends inside a character, as far as the run collects them. -/
def ChunksKeepCharacters (call : ProcessCall) (output : OutputData) : Prop :=
  match call.outputMode with
  | .error =>
    (∀ stream, (written stream output).length ≤ call.maxBufferBytes) →
      ∀ stream, KeepsCharacters (chunksOf stream output)
  | .truncate =>
    ∀ stream, KeepsCharacters (limitChunks call.maxBufferBytes (chunksOf stream output))

theorem ne_nil_of_mem_chunksOf {stream : OutputStream} {output : OutputData} :
    ∀ chunk ∈ chunksOf stream output, chunk ≠ [] := by
  intro chunk hmem
  obtain ⟨entry, -, hentry⟩ := List.mem_filterMap.mp hmem
  split_ifs at hentry
  obtain rfl := Option.some.inj hentry
  exact entry.2.ne_nil

def writtenState (call : ProcessCall) (output : OutputData) : ProcessState :=
  (dataEvents output).foldl (handleProcessEvent call) initialProcessState

theorem captured_writtenState (call : ProcessCall) (output : OutputData) (stream : OutputStream) :
    (writtenState call output).captured stream =
      captureChunks call ⟨[], 0, false⟩ (chunksOf stream output) := by
  rw [writtenState, captured_foldl_data]
  cases stream <;> rfl

theorem endedRun_settlements (call : ProcessCall) (output : OutputData) :
    (endedRun call output).settlements =
      (finalize (writtenState call output)
        (.resolved (closeResult (writtenState call output) (some 0) none))).settlements := by
  have htimedOut : (writtenState call output).timedOut = false := timedOut_foldl_data _ _ _
  rw [endedRun, runProcess, List.foldl_append, ← writtenState]
  simp [handleProcessEvent, htimedOut]

theorem endedRun_resolved {output : OutputData} (h : (writtenState call output).settled = false) :
    (endedRun call output).settlements =
      [.resolved (closeResult (writtenState call output) (some 0) none)] := by
  have honce : SettledOnce (writtenState call output) := settledOnce_foldl settledOnce_initial _
  rw [SettledOnce, if_neg (by simp [h])] at honce
  rw [endedRun_settlements, finalize, if_neg (by simp [h]), honce]
  rfl

theorem output_closeResult (state : ProcessState) (stream : OutputStream) :
    (closeResult state (some 0) none).output stream = (state.captured stream).text := by
  cases stream <;> rfl

theorem truncated_closeResult (state : ProcessState) (stream : OutputStream) :
    (closeResult state (some 0) none).truncated stream = (state.captured stream).truncated := by
  cases stream <;> rfl

theorem exists_resolved_iff {output : OutputData} (h : (writtenState call output).settled = false)
    {P : ProcessRunResult → Prop} :
    (∃ result, (endedRun call output).settlements = [.resolved result] ∧ P result) ↔
      P (closeResult (writtenState call output) (some 0) none) := by
  rw [endedRun_resolved h]
  constructor
  · rintro ⟨result, hresult, hP⟩
    rw [List.cons.injEq, Settlement.resolved.injEq] at hresult
    exact hresult.1 ▸ hP
  · exact fun hP => ⟨_, rfl, hP⟩

theorem capturesOutput_error_iff (hmode : call.outputMode = .error) (output : OutputData) :
    CapturesOutput call output ↔ ChunksKeepCharacters call output := by
  have hcaptured : ∀ stream, (writtenState call output).captured stream =
      ⟨(chunksOf stream output).flatMap decode, (written stream output).length, false⟩ := by
    intro stream
    rw [captured_writtenState, captureChunks_error hmode]
    simp [written]
  have hover : RejectedOverLimit call (writtenState call output) := by
    refine rejectedOverLimit_foldl hmode ⟨⟨fun h => ?_, ?_⟩, fun _ h => ?_⟩ output
    · cases h
    · rintro ⟨stream, hstream⟩
      cases stream <;> exact absurd hstream (Nat.not_lt_zero _)
    · cases h
  have hsettled : (writtenState call output).settled = true ↔
      ∃ stream, call.maxBufferBytes < (written stream output).length := by
    simp only [hover.settled_iff, hcaptured]
  simp only [CapturesOutput, ChunksKeepCharacters, hmode]
  by_cases hfits : ∀ stream, (written stream output).length ≤ call.maxBufferBytes
  · have hwithin : ¬ ∃ stream, call.maxBufferBytes < (written stream output).length :=
      fun ⟨stream, hstream⟩ => absurd (hfits stream) (Nat.not_le.mpr hstream)
    have hopen : (writtenState call output).settled = false := by
      rwa [← Bool.not_eq_true, hsettled]
    rw [and_iff_left (fun h => absurd h hwithin), exists_resolved_iff hopen]
    refine forall_congr' fun _ => forall_congr' fun stream => ?_
    rw [output_closeResult, hcaptured]
    exact flatMap_decode_eq_iff _
  · obtain ⟨stream, hstream⟩ := not_forall.mp hfits
    have hclosed := hsettled.mpr ⟨stream, Nat.not_le.mp hstream⟩
    refine iff_of_true ⟨fun h => absurd h hfits, fun _ => ?_⟩ fun h => absurd h hfits
    have honce : SettledOnce (writtenState call output) := settledOnce_foldl settledOnce_initial _
    rw [SettledOnce, if_pos hclosed] at honce
    obtain ⟨settlement, hsettlement⟩ := honce
    obtain ⟨message, rfl⟩ := hover.rejected settlement (by simp [hsettlement])
    rw [endedRun_settlements, settled_finalize_of_settled hclosed]
    exact ⟨message, hsettlement⟩

theorem capturesOutput_truncate_iff (hmode : call.outputMode = .truncate) (output : OutputData) :
    CapturesOutput call output ↔ ChunksKeepCharacters call output := by
  have hopen : (writtenState call output).settled = false := settled_foldl_truncate hmode _ output
  simp only [CapturesOutput, ChunksKeepCharacters, hmode]
  rw [exists_resolved_iff hopen]
  refine forall_congr' fun stream => ?_
  have hempty : CapturedStream.bytes ⟨[], 0, false⟩ ≤ call.maxBufferBytes := Nat.zero_le _
  have hchunks : ∀ chunk ∈ chunksOf stream output, chunk ≠ [] := ne_nil_of_mem_chunksOf
  obtain ⟨htext, htruncated⟩ := captureChunks_truncate hmode hempty hchunks
  rw [output_closeResult, truncated_closeResult, captured_writtenState, htext, htruncated,
    ← flatMap_decode_eq_iff, flatten_limitChunks]
  simp [written]

/-- The captured text is that of the written bytes exactly when no chunk ends inside a character;
the run is settled once in any case. -/
theorem capturesOutput_iff (call : ProcessCall) (output : OutputData) :
    (CapturesOutput call output ∧ ∀ events, SettlesOnce call events) ↔
      ChunksKeepCharacters call output := by
  rw [and_iff_left (settlesOnce call)]
  cases hmode : call.outputMode with
  | error => exact capturesOutput_error_iff hmode output
  | truncate => exact capturesOutput_truncate_iff hmode output

/-! A letter of two bytes in two chunks. -/

def nodeCall : ProcessCall where
  command := ascii "node"
  args := []
  options := ⟨false, none, none⟩
  windows := false

def cutLetter : OutputData :=
  [(.stdout, ⟨[0xC3], by decide⟩), (.stdout, ⟨[0xA9], by decide⟩)]

theorem not_capturesOutput :
    ¬ ∀ (call : ProcessCall) (output : OutputData), CapturesOutput call output := by
  intro h
  have hkeeps := (capturesOutput_error_iff (by rfl) cutLetter).mp (h nodeCall cutLetter)
  have hfits : ∀ stream, (written stream cutLetter).length ≤ nodeCall.maxBufferBytes := by
    intro stream
    cases stream <;> decide
  exact absurd (hkeeps hfits .stdout) (by decide)

end GT3Code.Server
