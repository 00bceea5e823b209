import GT3Code.Base.JsonNumber
import GT3Code.Base.TextDecoder

/-! # Collecting a byte stream as text

The chunks of a stream are decoded until the limit is reached; what comes after is dropped and
a marker appended. Whether anything was dropped is decided chunk by chunk.
-/

namespace GT3Code.Server

open GT3Code.Base GT3Code.Base.Json
open GT3Code.Base.Base64Url (Byte)
open GT3Code.Base.Utf8Decoding (TextDecoder)

structure CollectedUint8StreamText where
  text : Text
  truncated : Bool
  bytes : Nat
deriving DecidableEq

/-- The state of the fold, with the decoder that all chunks share. -/
structure CollectState where
  text : Text
  bytes : Nat
  truncated : Bool
  decoder : TextDecoder

/-- An absent limit is `Number.POSITIVE_INFINITY`. -/
def collectChunk (maxBytes : Option Nat) (truncatedMarker : Text) (state : CollectState)
    (chunk : List Byte) : CollectState :=
  if state.truncated then state
  else
    let remainingBytes := maxBytes.map (· - state.bytes)
    if remainingBytes = some 0 then
      { state with
        text := state.text ++ truncatedMarker
        truncated := true }
    else
      let truncated := remainingBytes.any (· < chunk.length)
      let nextChunk := if truncated then chunk.take (remainingBytes.getD 0) else chunk
      let decoded := state.decoder.decode nextChunk
      let text := state.text ++ decoded.1
      { text := if truncated then text ++ truncatedMarker else text
        bytes := state.bytes + nextChunk.length
        truncated := truncated
        decoder := decoded.2 }

def collectUint8StreamText (maxBytes : Option Nat) (truncatedMarker : Option Text)
    (stream : List (List Byte)) : CollectedUint8StreamText :=
  let state := stream.foldl (collectChunk maxBytes (truncatedMarker.getD []))
    { text := [], bytes := 0, truncated := false, decoder := .initial }
  { text := if state.truncated then state.text else state.text ++ state.decoder.finish
    truncated := state.truncated
    bytes := state.bytes }

def withinLimit : Option Nat → List Byte → List Byte
  | none, bytes => bytes
  | some limit, bytes => bytes.take limit

/-- Some chunk comes when no byte remains, or has more than remain. -/
def cutsOff : Option Nat → List (List Byte) → Bool
  | _, [] => false
  | remaining, chunk :: rest =>
    remaining = some 0 || remaining.any (· < chunk.length) ||
      cutsOff (remaining.map (· - chunk.length)) rest

theorem foldl_collectChunk_truncated (maxBytes : Option Nat) (marker : Text) (state : CollectState)
    (h : state.truncated = true) (stream : List (List Byte)) :
    stream.foldl (collectChunk maxBytes marker) state = state := by
  induction stream with
  | nil => rfl
  | cons chunk rest ih => rwa [List.foldl_cons, collectChunk, if_pos h]

theorem foldl_collectChunk (maxBytes : Option Nat) (marker : Text) (state : CollectState)
    (h : state.truncated = false) (stream : List (List Byte)) :
    let remaining := maxBytes.map (· - state.bytes)
    let taken := withinLimit remaining stream.flatten
    let final := stream.foldl (collectChunk maxBytes marker) state
    final.truncated = cutsOff remaining stream ∧ final.bytes = state.bytes + taken.length ∧
      final.text = state.text ++ (state.decoder.decode taken).1 ++
        (if cutsOff remaining stream then marker else []) ∧
      (cutsOff remaining stream = false → final.decoder = (state.decoder.decode taken).2) := by
  induction stream generalizing state with
  | nil =>
    have hnone : ∀ remaining, withinLimit remaining [] = [] := by
      intro remaining
      cases remaining <;> simp [withinLimit]
    simp [hnone, cutsOff, h]
  | cons chunk rest ih =>
    simp only [List.foldl_cons, List.flatten_cons]
    cases maxBytes with
    | none =>
      have hstep : collectChunk none marker state chunk =
          { text := state.text ++ (state.decoder.decode chunk).1
            bytes := state.bytes + chunk.length
            truncated := false
            decoder := (state.decoder.decode chunk).2 } := by
        simp [collectChunk, h]
      obtain ⟨htruncated, hbytes, htext, hdecoder⟩ := ih (collectChunk none marker state chunk)
        (by rw [hstep])
      rw [hstep] at htruncated hbytes htext hdecoder ⊢
      simp only [Option.map_none, withinLimit, TextDecoder.decode_append,
        List.length_append] at htruncated hbytes htext hdecoder ⊢
      have hcuts : cutsOff none (chunk :: rest) = cutsOff none rest := by simp [cutsOff]
      simp only [hcuts]
      exact ⟨htruncated, by omega, by rw [htext, List.append_assoc state.text], hdecoder⟩
    | some limit =>
      simp only [Option.map_some]
      by_cases hzero : limit - state.bytes = 0
      · have hstep : collectChunk (some limit) marker state chunk =
            { state with text := state.text ++ marker, truncated := true } := by
          simp [collectChunk, h, hzero]
        rw [hstep, foldl_collectChunk_truncated _ _ _ rfl]
        simp [hzero, cutsOff, withinLimit]
      by_cases hlong : limit - state.bytes < chunk.length
      · have hstep : collectChunk (some limit) marker state chunk =
            { text := state.text ++
                (state.decoder.decode (chunk.take (limit - state.bytes))).1 ++ marker
              bytes := state.bytes + (chunk.take (limit - state.bytes)).length
              truncated := true
              decoder := (state.decoder.decode (chunk.take (limit - state.bytes))).2 } := by
          simp [collectChunk, h, hzero, hlong]
        have htake : withinLimit (some (limit - state.bytes)) (chunk ++ rest.flatten) =
            chunk.take (limit - state.bytes) := List.take_append_of_le_length (by omega)
        rw [hstep, foldl_collectChunk_truncated _ _ _ rfl, htake]
        simp [cutsOff, hlong]
      · have hstep : collectChunk (some limit) marker state chunk =
            { text := state.text ++ (state.decoder.decode chunk).1
              bytes := state.bytes + chunk.length
              truncated := false
              decoder := (state.decoder.decode chunk).2 } := by
          simp [collectChunk, h, hzero, hlong]
        have htake : withinLimit (some (limit - state.bytes)) (chunk ++ rest.flatten) =
            chunk ++ withinLimit (some (limit - (state.bytes + chunk.length))) rest.flatten := by
          simp only [withinLimit]
          rw [List.take_append, List.take_of_length_le (by omega), Nat.sub_sub]
        have hcuts : cutsOff (some (limit - state.bytes)) (chunk :: rest) =
            cutsOff (some (limit - (state.bytes + chunk.length))) rest := by
          simp [cutsOff, hzero, hlong, Nat.sub_sub]
        have hrest := ih (collectChunk (some limit) marker state chunk) (by rw [hstep])
        rw [hstep] at hrest ⊢
        simp only [Option.map_some] at hrest
        obtain ⟨htruncated, hbytes, htext, hdecoder⟩ := hrest
        simp only [htake, hcuts, TextDecoder.decode_append, List.length_append]
        exact ⟨htruncated, by omega, by rw [htext, List.append_assoc state.text], hdecoder⟩

theorem cutsOff_none (stream : List (List Byte)) : cutsOff none stream = false := by
  induction stream with
  | nil => rfl
  | cons chunk rest ih => simpa [cutsOff] using ih

theorem cutsOff_some_iff (limit : Nat) (stream : List (List Byte)) :
    cutsOff (some limit) stream = true ↔ limit < stream.flatten.length ∨
      ∃ before chunk after, stream = before ++ chunk :: after ∧
        limit ≤ before.flatten.length := by
  induction stream generalizing limit with
  | nil => simp [cutsOff]
  | cons chunk rest ih =>
    simp only [cutsOff, Option.map_some, Option.any_some, Bool.or_eq_true, decide_eq_true_eq,
      Option.some.injEq, ih, List.flatten_cons, List.length_append]
    constructor
    · rintro ((hzero | hlong) | hmore | ⟨before, other, after, rfl, hreached⟩)
      · exact .inr ⟨[], chunk, rest, rfl, by simp [hzero]⟩
      · exact .inl (by omega)
      · exact .inl (by omega)
      · refine .inr ⟨chunk :: before, other, after, rfl, ?_⟩
        rw [List.flatten_cons, List.length_append]
        omega
    · rintro (hmore | ⟨before, other, after, heq, hreached⟩)
      · omega
      · cases before with
        | nil => exact .inl (.inl (Nat.le_zero.mp hreached))
        | cons first before =>
          obtain ⟨rfl, rfl⟩ := List.cons.inj heq
          rw [List.flatten_cons, List.length_append] at hreached
          by_cases hover : limit < chunk.length
          · exact .inl (.inr hover)
          · exact .inr (.inr ⟨before, other, after, rfl, by omega⟩)

/-- The stream is collected as its bytes are: as one chunk, by one decision on their number. -/
structure ChunkingIndependent (maxBytes : Option Nat) (truncatedMarker : Option Text)
    (stream : List (List Byte)) : Prop where
  whole : collectUint8StreamText maxBytes truncatedMarker stream =
    collectUint8StreamText maxBytes truncatedMarker [stream.flatten]
  truncated : (collectUint8StreamText maxBytes truncatedMarker stream).truncated =
    maxBytes.any (· < stream.flatten.length)
  bytes : (collectUint8StreamText maxBytes truncatedMarker stream).bytes =
    maxBytes.elim stream.flatten.length (min stream.flatten.length)
  text : (collectUint8StreamText maxBytes truncatedMarker stream).text =
    let decoded := TextDecoder.initial.decode (withinLimit maxBytes stream.flatten)
    decoded.1 ++
      (if maxBytes.any (· < stream.flatten.length) then truncatedMarker.getD []
        else decoded.2.finish)

/-- A stream of exactly as many bytes as the limit ends with the chunk that reaches it. -/
def EndsAtLimit (maxBytes : Option Nat) (stream : List (List Byte)) : Prop :=
  maxBytes = some stream.flatten.length → stream.flatten ≠ [] ∧
    ∀ before chunk after, stream = before ++ chunk :: after →
      before.flatten.length < stream.flatten.length

theorem collectUint8StreamText_eq (maxBytes : Option Nat) (truncatedMarker : Option Text)
    (stream : List (List Byte)) :
    let decoded := TextDecoder.initial.decode (withinLimit maxBytes stream.flatten)
    collectUint8StreamText maxBytes truncatedMarker stream =
      { text := decoded.1 ++
          if cutsOff maxBytes stream then truncatedMarker.getD [] else decoded.2.finish
        truncated := cutsOff maxBytes stream
        bytes := (withinLimit maxBytes stream.flatten).length } := by
  obtain ⟨htruncated, hbytes, htext, hdecoder⟩ := foldl_collectChunk maxBytes
    (truncatedMarker.getD []) { text := [], bytes := 0, truncated := false, decoder := .initial }
    rfl stream
  have hmax : maxBytes.map (· - 0) = maxBytes := by simp
  simp only [hmax, List.nil_append, Nat.zero_add] at htruncated hbytes htext hdecoder
  simp only [collectUint8StreamText, htruncated, hbytes, htext]
  cases hcuts : cutsOff maxBytes stream with
  | true => simp
  | false => simp [hdecoder hcuts]

theorem endsAtLimit_iff_cutsOff (maxBytes : Option Nat) (stream : List (List Byte)) :
    EndsAtLimit maxBytes stream ↔
      cutsOff maxBytes stream = maxBytes.any (· < stream.flatten.length) ∧
        cutsOff maxBytes [stream.flatten] = maxBytes.any (· < stream.flatten.length) := by
  cases maxBytes with
  | none => simp [EndsAtLimit, cutsOff_none]
  | some limit =>
    have hcut : ∀ other : List (List Byte), other.flatten = stream.flatten →
        (cutsOff (some limit) other = decide (limit < stream.flatten.length) ↔
          ((∃ before chunk after, other = before ++ chunk :: after ∧
            limit ≤ before.flatten.length) → limit < stream.flatten.length)) := by
      intro other hsame
      rw [Bool.eq_iff_iff, cutsOff_some_iff, hsame, decide_eq_true_eq, or_iff_left_iff_imp]
    rw [Option.any_some, hcut stream rfl, hcut [stream.flatten] (List.flatten_singleton),
      EndsAtLimit, Option.some.injEq]
    constructor
    · intro h
      constructor
      · rintro ⟨before, chunk, after, hsplit, hreached⟩
        by_contra hshort
        have hle : before.flatten.length ≤ stream.flatten.length := by
          rw [hsplit, List.flatten_append, List.length_append]
          exact Nat.le_add_right _ _
        obtain ⟨-, hbefore⟩ := h (by omega)
        have hlt := hbefore before chunk after hsplit
        omega
      · rintro ⟨before, chunk, after, hsplit, hreached⟩
        by_contra hshort
        have hnil : before = [] := by
          cases before with
          | nil => rfl
          | cons first before => simp at hsplit
        rw [hnil] at hreached
        simp only [List.flatten_nil, List.length_nil, Nat.le_zero] at hreached
        obtain ⟨hne, -⟩ := h (by omega)
        exact hne (List.eq_nil_of_length_eq_zero (by omega))
    · rintro ⟨hchunks, hwhole⟩ rfl
      constructor
      · intro hnil
        have hlt := hwhole ⟨[], _, [], rfl, by simp [hnil]⟩
        omega
      · intro before chunk after hsplit
        by_contra hreached
        have hlt := hchunks ⟨before, chunk, after, hsplit, by omega⟩
        omega

/-- The result depends on the chunks where an empty one comes after as many bytes as the
limit. -/
theorem chunkingIndependent_iff (maxBytes : Option Nat) (truncatedMarker : Option Text)
    (stream : List (List Byte)) :
    ChunkingIndependent maxBytes truncatedMarker stream ↔ EndsAtLimit maxBytes stream := by
  have hcollected := collectUint8StreamText_eq maxBytes truncatedMarker
  rw [endsAtLimit_iff_cutsOff]
  constructor
  · rintro ⟨hwhole, htruncated, -, -⟩
    rw [hwhole] at htruncated
    have hone := congrArg CollectedUint8StreamText.truncated (hcollected [stream.flatten])
    have hstream := congrArg CollectedUint8StreamText.truncated (hcollected stream)
    rw [hwhole] at hstream
    exact ⟨hstream.symm.trans htruncated, hone.symm.trans htruncated⟩
  · rintro ⟨hstream, hone⟩
    constructor
    · rw [hcollected, hcollected, hstream, hone, List.flatten_singleton]
    · rw [hcollected, hstream]
    · rw [hcollected]
      cases maxBytes with
      | none => rfl
      | some limit => exact List.length_take.trans (Nat.min_comm _ _)
    · rw [hcollected, hstream]

/-- An empty chunk after the last byte that fits. -/
theorem not_chunkingIndependent :
    ¬∀ (maxBytes : Option Nat) (truncatedMarker : Option Text) (stream : List (List Byte)),
      ChunkingIndependent maxBytes truncatedMarker stream := by
  intro h
  have htruncated := (h (some 1) none [[97], []]).truncated
  revert htruncated
  decide

end GT3Code.Server
