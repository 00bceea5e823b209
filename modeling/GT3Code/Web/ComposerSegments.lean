import GT3Code.Web.TerminalContexts

/-! # Segments of a prompt

A prompt is text with tokens in it: mentions of files, names of skills, and a placeholder character
for each terminal context. Its segments, put together again, are the prompt.
-/

namespace GT3Code.Web

open GT3Code.Base GT3Code.Base.Json GT3Code.Contracts

inductive ComposerPromptSegment (Context : Type) where
  | text (text : Text)
  | mention (path : Text)
  | skill (name : Text)
  | terminalContext (context : Option Context)

variable {Context : Type}

def ComposerPromptSegment.isText : ComposerPromptSegment Context → Bool
  | .text _ => true
  | _ => false

inductive InlineTokenType where
  | mention
  | skill

structure InlineTokenMatch where
  type : InlineTokenType
  value : Text
  start : Nat
  finish : Nat

/-- The pattern of a token: a marker, the first character behind it and the others. -/
structure TokenPattern where
  marker : CodeUnit
  first : CodeUnit → Bool
  other : CodeUnit → Bool

def isLatinLetter (u : CodeUnit) : Bool := (65 ≤ u ∧ u ≤ 90) ∨ (97 ≤ u ∧ u ≤ 122)

/-- `@([^\s@]+)` -/
def mentionPattern : TokenPattern where
  marker := 64
  first u := !Shared.isSpace u && u != 64
  other u := !Shared.isSpace u && u != 64

/-- `\$([a-zA-Z][a-zA-Z0-9:_-]*)` -/
def skillPattern : TokenPattern where
  marker := 36
  first := isLatinLetter
  other u := isLatinLetter u || (48 ≤ u && u ≤ 57) || u == 58 || u == 95 || u == 45

/-- What the pattern captures at the start of a text, with white space behind. -/
def captureAt (pattern : TokenPattern) : Text → Option Text
  | marker :: first :: rest =>
    -- a shorter run of `other` has no white space behind it
    if marker = pattern.marker ∧ pattern.first first = true ∧
        (rest.dropWhile pattern.other).head?.any Shared.isSpace = true then
      some (first :: rest.takeWhile pattern.other)
    else none
  | _ => none

/-- `text.matchAll(/(^|\s)…(?=\s)/g)` from an index on, of which `skip` characters belong to the last
match. -/
def matchTokens (type : InlineTokenType) (pattern : TokenPattern) :
    Nat → Nat → Text → List InlineTokenMatch
  | _, _, [] => []
  | skip + 1, index, _ :: rest => matchTokens type pattern skip (index + 1) rest
  | 0, index, u :: rest =>
    match if index = 0 then captureAt pattern (u :: rest) else none with
    | some value =>
      { type, value, start := index, finish := index + (value.length + 1) } ::
        matchTokens type pattern value.length (index + 1) rest
    | none =>
      match if Shared.isSpace u then captureAt pattern rest else none with
      | some value =>
        { type, value, start := index + 1, finish := index + 1 + (value.length + 1) } ::
          matchTokens type pattern (value.length + 1) (index + 1) rest
      | none => matchTokens type pattern 0 (index + 1) rest

def collectInlineTokenMatches (text : Text) : List InlineTokenMatch :=
  ((matchTokens .mention mentionPattern 0 0 text).filter (fun found => found.value.length > 0) ++
    (matchTokens .skill skillPattern 0 0 text).filter
      (fun found => found.value.length > 0)).mergeSort (fun left right => left.start ≤ right.start)

def pushTextSegment (segments : List (ComposerPromptSegment Context)) (text : Text) :
    List (ComposerPromptSegment Context) :=
  if text.length = 0 then segments
  else
    match segments.getLast? with
    | some (.text last) => segments.dropLast ++ [.text (last ++ text)]
    | _ => segments ++ [.text text]

def InlineTokenMatch.segment (found : InlineTokenMatch) : ComposerPromptSegment Context :=
  match found.type with
  | .mention => .mention found.value
  | .skill => .skill found.value

/-- One match of the loop in `splitPromptTextIntoComposerSegments`, with the segments so far and the
cursor. -/
def pushTokenMatch (text : Text) (state : List (ComposerPromptSegment Context) × Nat)
    (found : InlineTokenMatch) : List (ComposerPromptSegment Context) × Nat :=
  let (segments, cursor) := state
  if found.start < cursor then (segments, cursor)
  else
    let pushed :=
      if found.start > cursor then
        pushTextSegment segments ((text.drop cursor).take (found.start - cursor))
      else segments
    (pushed ++ [found.segment], found.finish)

def splitPromptTextIntoComposerSegments (text : Text) : List (ComposerPromptSegment Context) :=
  if text.length = 0 then []
  else
    let (segments, cursor) := (collectInlineTokenMatches text).foldl (pushTokenMatch text) ([], 0)
    if cursor < text.length then pushTextSegment segments (text.drop cursor) else segments

inductive PromptSlice where
  | text (text : Text) (promptOffset : Nat)
  | terminalContext (promptOffset : Nat)

def textSlice (text : Text) (promptOffset : Nat) : List PromptSlice :=
  if text.length > 0 then [.text text promptOffset] else []

/-- The slices `forEachPromptSegmentSlice` visits from an index on, when `text` is what it passed
since `textCursor`. -/
def promptSlices (textCursor index : Nat) (text : Text) : Text → List PromptSlice
  | [] => textSlice text textCursor
  | u :: rest =>
    if u ≠ INLINE_TERMINAL_CONTEXT_PLACEHOLDER then
      promptSlices textCursor (index + 1) (text ++ [u]) rest
    else
      textSlice text textCursor ++
        .terminalContext index :: promptSlices (index + 1) (index + 1) [] rest

def segmentsOfSlices (terminalContexts : List Context) :
    Nat → List PromptSlice → List (ComposerPromptSegment Context)
  | _, [] => []
  | index, .text text _ :: slices =>
    splitPromptTextIntoComposerSegments text ++ segmentsOfSlices terminalContexts index slices
  | index, .terminalContext _ :: slices =>
    .terminalContext terminalContexts[index]? ::
      segmentsOfSlices terminalContexts (index + 1) slices

def splitPromptIntoComposerSegments (prompt : Text) (terminalContexts : List Context) :
    List (ComposerPromptSegment Context) :=
  if prompt.length = 0 then []
  else segmentsOfSlices terminalContexts 0 (promptSlices 0 0 [] prompt)

/-! ## Tiling -/

def ComposerPromptSegment.source : ComposerPromptSegment Context → Text
  | .text content => content
  | .mention path => 64 :: path
  | .skill name => 36 :: name
  | .terminalContext _ => [INLINE_TERMINAL_CONTEXT_PLACEHOLDER]

def sourceOf (segments : List (ComposerPromptSegment Context)) : Text :=
  segments.flatMap ComposerPromptSegment.source

variable {text : Text} {found : InlineTokenMatch}

variable {pattern : TokenPattern} {type : InlineTokenType}

theorem captureAt_isPrefix {value : Text} (h : captureAt pattern text = some value) :
    pattern.marker :: value <+: text := by
  match text, h with
  | marker :: first :: rest, h =>
    rw [captureAt] at h
    split_ifs at h with hcapture
    cases h
    obtain ⟨rfl, -, -⟩ := hcapture
    exact (List.prefix_cons_inj _).mpr ((List.prefix_cons_inj _).mpr (List.takeWhile_prefix _))

structure InlineTokenMatch.Stands (type : InlineTokenType) (marker : CodeUnit) (text : Text)
    (found : InlineTokenMatch) : Prop where
  type : found.type = type
  finish : found.finish = found.start + (found.value.length + 1)
  source : marker :: found.value <+: text.drop found.start

theorem stands_of_mem_matchTokens {skip index : Nat} {rest : Text}
    (hrest : text.drop index = rest) (h : found ∈ matchTokens type pattern skip index rest) :
    found.Stands type pattern.marker text := by
  induction rest generalizing skip index with
  | nil => cases h
  | cons u rest ih =>
    have hnext : text.drop (index + 1) = rest := by
      rw [← List.tail_drop, hrest, List.tail_cons]
    cases skip with
    | succ skip => exact ih hnext h
    | zero =>
      rw [matchTokens] at h
      split at h
      · rename_i value hvalue
        split_ifs at hvalue
        rw [List.mem_cons] at h
        obtain rfl | h := h
        · exact ⟨rfl, rfl, hrest.symm ▸ captureAt_isPrefix hvalue⟩
        · exact ih hnext h
      · split at h
        · rename_i value hvalue
          split_ifs at hvalue
          rw [List.mem_cons] at h
          obtain rfl | h := h
          · exact ⟨rfl, rfl, hnext.symm ▸ captureAt_isPrefix hvalue⟩
          · exact ih hnext h
        · exact ih hnext h

def InlineTokenMatch.source (found : InlineTokenMatch) : Text :=
  (found.segment : ComposerPromptSegment Unit).source

theorem source_segment (found : InlineTokenMatch) :
    (found.segment : ComposerPromptSegment Context).source = found.source := by
  rw [InlineTokenMatch.source, InlineTokenMatch.segment, InlineTokenMatch.segment]
  cases found.type <;> rfl

theorem source_of_stands {marker : CodeUnit} (h : found.Stands type marker text)
    (hmarker : marker = match type with
      | .mention => 64
      | .skill => 36) :
    found.source = marker :: found.value := by
  rw [InlineTokenMatch.source, InlineTokenMatch.segment, h.type, hmarker]
  cases type <;> rfl

theorem mem_collectInlineTokenMatches (h : found ∈ collectInlineTokenMatches text) :
    found.finish = found.start + found.source.length ∧ found.source <+: text.drop found.start := by
  rw [collectInlineTokenMatches, List.mem_mergeSort, List.mem_append, List.mem_filter,
    List.mem_filter] at h
  obtain ⟨hfound, -⟩ | ⟨hfound, -⟩ := h
  · have hstands := stands_of_mem_matchTokens (List.drop_zero) hfound
    rw [source_of_stands hstands rfl]
    exact ⟨hstands.finish, hstands.source⟩
  · have hstands := stands_of_mem_matchTokens (List.drop_zero) hfound
    rw [source_of_stands hstands rfl]
    exact ⟨hstands.finish, hstands.source⟩

@[simp] theorem sourceOf_nil : sourceOf ([] : List (ComposerPromptSegment Context)) = [] := rfl

theorem sourceOf_cons (segment : ComposerPromptSegment Context)
    (segments : List (ComposerPromptSegment Context)) :
    sourceOf (segment :: segments) = segment.source ++ sourceOf segments := rfl

theorem sourceOf_append (left right : List (ComposerPromptSegment Context)) :
    sourceOf (left ++ right) = sourceOf left ++ sourceOf right :=
  List.flatMap_append

theorem sourceOf_concat (segments : List (ComposerPromptSegment Context))
    (segment : ComposerPromptSegment Context) :
    sourceOf (segments ++ [segment]) = sourceOf segments ++ segment.source := by
  rw [sourceOf_append, sourceOf, sourceOf, List.flatMap_singleton]

theorem sourceOf_pushTextSegment (segments : List (ComposerPromptSegment Context)) (text : Text) :
    sourceOf (pushTextSegment segments text) = sourceOf segments ++ text := by
  rw [pushTextSegment]
  split_ifs with hlength
  · rw [List.length_eq_zero_iff.mp hlength, List.append_nil]
  · split
    · rename_i last hlast
      obtain ⟨init, rfl⟩ := List.getLast?_eq_some_iff.mp hlast
      rw [List.dropLast_concat, sourceOf_concat, sourceOf_concat, List.append_assoc]
      rfl
    · exact sourceOf_concat _ _

structure TiledTo (text : Text) (state : List (ComposerPromptSegment Context) × Nat) : Prop where
  source : sourceOf state.1 = text.take state.2
  bound : state.2 ≤ text.length

theorem take_add_of_isPrefix {part : Text} {start : Nat} (h : part <+: text.drop start) :
    text.take (start + part.length) = text.take start ++ part := by
  rw [List.take_add, ← List.prefix_iff_eq_take.mp h]

theorem InlineTokenMatch.source_pos (found : InlineTokenMatch) : 0 < found.source.length := by
  rw [source, segment]
  cases found.type <;> exact Nat.succ_pos _

theorem TiledTo.pushTokenMatch {state : List (ComposerPromptSegment Context) × Nat}
    (h : TiledTo text state) (hfound : found ∈ collectInlineTokenMatches text) :
    TiledTo text (pushTokenMatch text state found) := by
  obtain ⟨segments, cursor⟩ := state
  obtain ⟨hfinish, hprefix⟩ := mem_collectInlineTokenMatches hfound
  have hlength := hprefix.length_le
  have hpos := found.source_pos
  rw [List.length_drop] at hlength
  rw [Web.pushTokenMatch]
  dsimp only
  by_cases hskip : found.start < cursor
  · rw [if_pos hskip]
    exact h
  · rw [if_neg hskip]
    have hpushed : sourceOf (if found.start > cursor then
        pushTextSegment segments ((text.drop cursor).take (found.start - cursor)) else segments) =
        text.take found.start := by
      split_ifs with hgap
      · have hstart : found.start = cursor + (found.start - cursor) := by omega
        rw [sourceOf_pushTextSegment, h.source, ← List.take_add, ← hstart]
      · have hstart : found.start = cursor := by omega
        rw [h.source, hstart]
    refine ⟨?_, show found.finish ≤ text.length by omega⟩
    rw [sourceOf_concat, hpushed, source_segment, hfinish]
    exact (take_add_of_isPrefix hprefix).symm

theorem sourceOf_splitPromptText (text : Text) :
    sourceOf (splitPromptTextIntoComposerSegments text : List (ComposerPromptSegment Context)) =
      text := by
  rw [splitPromptTextIntoComposerSegments]
  split_ifs with hempty
  · exact (List.length_eq_zero_iff.mp hempty).symm
  · have htiled : TiledTo text ((collectInlineTokenMatches text).foldl (pushTokenMatch text)
        (([] : List (ComposerPromptSegment Context)), 0)) :=
      List.foldlRecOn _ _ ⟨rfl, Nat.zero_le _⟩ (fun _ hstate _ hfound => hstate.pushTokenMatch hfound)
    generalize (collectInlineTokenMatches text).foldl (pushTokenMatch text)
      (([] : List (ComposerPromptSegment Context)), 0) = state at htiled
    obtain ⟨segments, cursor⟩ := state
    dsimp only
    split_ifs with hcursor
    · rw [sourceOf_pushTextSegment, htiled.source, List.take_append_drop]
    · rw [htiled.source, List.take_of_length_le (Nat.le_of_not_lt hcursor)]

theorem sourceOf_segmentsOfSlices_append (terminalContexts : List Context) (index : Nat)
    (slices : List PromptSlice) (text : Text) (promptOffset : Nat) :
    sourceOf (segmentsOfSlices terminalContexts index (textSlice text promptOffset ++ slices)) =
      text ++ sourceOf (segmentsOfSlices terminalContexts index slices) := by
  rw [textSlice]
  split_ifs with hlength
  · rw [List.singleton_append, segmentsOfSlices, sourceOf_append, sourceOf_splitPromptText]
  · rw [List.length_eq_zero_iff.mp (Nat.eq_zero_of_not_pos hlength)]
    rfl

theorem sourceOf_promptSlices (terminalContexts : List Context) (textCursor index count : Nat)
    (text rest : Text) :
    sourceOf (segmentsOfSlices terminalContexts count (promptSlices textCursor index text rest)) =
      text ++ rest := by
  induction rest generalizing textCursor index count text with
  | nil =>
    have hslices := sourceOf_segmentsOfSlices_append terminalContexts count [] text textCursor
    rw [List.append_nil] at hslices
    exact hslices
  | cons u rest ih =>
    rw [promptSlices]
    split_ifs with hplaceholder
    · rw [ih, List.append_assoc, List.singleton_append]
    · rw [sourceOf_segmentsOfSlices_append, segmentsOfSlices, sourceOf_cons, ih,
        not_not.mp hplaceholder]
      rfl

theorem sourceOf_splitPrompt (prompt : Text) (terminalContexts : List Context) :
    sourceOf (splitPromptIntoComposerSegments prompt terminalContexts) = prompt := by
  rw [splitPromptIntoComposerSegments]
  split_ifs with hempty
  · exact (List.length_eq_zero_iff.mp hempty).symm
  · rw [sourceOf_promptSlices, List.nil_append]

end GT3Code.Web
