import GT3Code.Web.TerminalContexts

/-! # Terminal contexts survive the prompt

The appended block is found where the prompt ends, and its lines are parsed into the entries they
were made of, unless the prompt opens a block of its own or a label has more than one line.
-/

namespace GT3Code.Web

open GT3Code.Base GT3Code.Base.Json GT3Code.Contracts

theorem isLineTerminator_of_printable {u : CodeUnit} (h : 32 ≤ u ∧ u ≤ 126) :
    Shared.isLineTerminator u = false := by
  simp only [Shared.isLineTerminator, Bool.or_eq_false_iff, decide_eq_false_iff_not]
  simp only [CodeUnit] at h ⊢
  omega

theorem ascii_printable {literal : String} (h : ∀ u ∈ ascii literal, 32 ≤ u ∧ u ≤ 126) :
    ∀ u ∈ ascii literal, Shared.isLineTerminator u = false :=
  fun u hu => isLineTerminator_of_printable (h u hu)

theorem headerMatch_header {label : Text} (hne : label ≠ [])
    (hplain : ∀ u ∈ label, Shared.isLineTerminator u = false) :
    headerMatch (ascii "- " ++ label ++ ascii ":") = some label := by
  have hline : ascii "- " ++ label ++ ascii ":" = 45 :: 32 :: (label ++ [58]) := rfl
  rw [hline, headerMatch, List.dropLast_concat, List.getLast?_concat, if_pos]
  refine ⟨rfl, hne, ?_⟩
  rw [List.all_eq_true]
  exact fun u hu => by rw [hplain u hu, Bool.not_false]

theorem plain_of_headerMatch {rawLine header : Text} (h : headerMatch rawLine = some header) :
    ∀ u ∈ header, Shared.isLineTerminator u = false := by
  match rawLine, h with
  | 45 :: 32 :: rest, h =>
    rw [headerMatch] at h
    split_ifs at h with hmatch
    cases h
    intro u hu
    exact (Bool.not_eq_true' _).mp (List.all_eq_true.mp hmatch.2.2 u hu)

variable {lines : List Text}

theorem joinLines_cons {line : Text} (h : lines ≠ []) :
    joinLines (line :: lines) = line ++ newline :: joinLines lines := by
  obtain ⟨next, rest, rfl⟩ := List.exists_cons_of_ne_nil h
  rw [joinLines, List.intercalate_cons_cons, List.append_assoc]
  rfl

theorem joinLines_concat (h : lines ≠ []) (line : Text) :
    joinLines (lines ++ [line]) = joinLines lines ++ newline :: line := by
  induction lines with
  | nil => exact absurd rfl h
  | cons first rest ih =>
    cases rest with
    | nil =>
      rw [List.singleton_append, joinLines_cons (List.cons_ne_nil _ _), joinLines, joinLines,
        List.intercalate_singleton, List.intercalate_singleton]
    | cons second rest =>
      rw [List.cons_append, joinLines_cons (by simp), ih (List.cons_ne_nil _ _),
        joinLines_cons (List.cons_ne_nil _ _), List.append_assoc, List.cons_append]

theorem splitOn_joinLines (h : lines ≠ []) (hplain : ∀ line ∈ lines, newline ∉ line) :
    (joinLines lines).splitOn newline = lines :=
  List.splitOn_intercalate newline hplain h

theorem trimEnd_concat_newline (text : Text) : trimEnd (text ++ [newline]) = trimEnd text :=
  List.rdropWhile_concat_pos _ _ _ (by decide)

def PlainHeader (header : Text) : Prop := ∀ u ∈ header, Shared.isLineTerminator u = false

structure PlainHeaders (state : ParseState) : Prop where
  entries : ∀ entry ∈ state.entries, PlainHeader entry.header
  current : ∀ current ∈ state.current, PlainHeader current.header

variable {state : ParseState} {entry : ParsedTerminalContextEntry} {trimmed : Text}

theorem PlainHeaders.commitCurrent (h : PlainHeaders state) :
    ∀ entry ∈ state.commitCurrent, PlainHeader entry.header := by
  intro entry hentry
  rw [ParseState.commitCurrent] at hentry
  split at hentry
  · exact h.entries entry hentry
  · rename_i current hcurrent
    rw [List.mem_append, List.mem_singleton] at hentry
    obtain hentry | rfl := hentry
    · exact h.entries entry hentry
    · exact h.current current hcurrent

theorem PlainHeaders.parseLine (h : PlainHeaders state) (rawLine : Text) :
    PlainHeaders (parseLine state rawLine) := by
  rw [Web.parseLine]
  split
  · rename_i header hheader
    refine ⟨h.commitCurrent, fun current hcurrent => ?_⟩
    cases hcurrent
    exact plain_of_headerMatch hheader
  · split
    · exact h
    · rename_i current hcurrent
      have hpush : ∀ line, PlainHeaders (pushBodyLine state current line) := by
        intro line
        refine ⟨h.entries, fun pushed hpushed => ?_⟩
        cases hpushed
        exact h.current current hcurrent
      split_ifs
      · exact hpush _
      · exact hpush _
      · exact h

theorem plainHeader_of_mem_parse {block : Text} (h : entry ∈ parseTerminalContextEntries block) :
    PlainHeader entry.header := by
  have hplain : PlainHeaders ((block.splitOn newline).foldl parseLine ⟨[], none⟩) :=
    List.foldlRecOn _ _ ⟨by simp, by simp⟩ (fun _ hstate rawLine _ => hstate.parseLine rawLine)
  exact hplain.commitCurrent entry h

theorem plainHeader_of_mem_extract {prompt : Text}
    (h : entry ∈ (extractTrailingTerminalContexts prompt).contexts) : PlainHeader entry.header := by
  rw [extractTrailingTerminalContexts] at h
  split at h
  · cases h
  · exact plainHeader_of_mem_parse h

theorem endsWith_newline :
    TRAILING_TERMINAL_CONTEXT_BLOCK_PATTERN.EndsWith (ascii "<terminal_context>") newline :=
  ⟨rfl, by decide, by decide⟩

def leadOf (trimmed : Text) : Text := if trimmed.length > 0 then ascii "\n\n" else []

theorem leadOf_head (h : trimmed ≠ []) : (leadOf trimmed).head? = some newline := by
  rw [leadOf, if_pos (List.length_pos_iff.mpr h)]
  rfl

theorem isNewline_of_mem_leadOf : ∀ u ∈ leadOf trimmed, isNewline u = true := by
  rw [leadOf]
  split_ifs
  · decide
  · exact fun u hu => absurd hu List.not_mem_nil

def NoOpening (trimmed : Text) : Prop :=
  ¬ ascii "<terminal_context>\n" <:+: trimmed ++ [newline]

section

variable {Number : Type} [LineNumbers Number]

def numberedLines (context : TerminalContextSelection Number) : List Text :=
  ((normalizeTerminalContextText context.text).splitOn newline).mapIdx
    (numberedLine context.lineStart)

def entryOf (context : TerminalContextSelection Number) : ParsedTerminalContextEntry :=
  ⟨formatTerminalContextLabel context, trimEnd (joinLines (numberedLines context))⟩

def trimmedPrompt [Shared.CaseMapping] (prompt : Text)
    (contexts : List (TerminalContextSelection Number)) : Text :=
  trimText (materializeInlineTerminalContextPrompt prompt contexts)

def SurvivesEncoding [Shared.CaseMapping] (prompt : Text)
    (contexts : List (TerminalContextSelection Number)) : Prop :=
  let extracted := extractTrailingTerminalContexts (appendTerminalContextsToPrompt prompt contexts)
  if normalizedContexts contexts = [] then
    TRAILING_TERMINAL_CONTEXT_BLOCK_PATTERN.find 0 (trimmedPrompt prompt contexts) = none →
      extracted.promptText = trimmedPrompt prompt contexts ∧ extracted.contexts = []
  else
    extracted.promptText = dropTrailingNewlines (trimmedPrompt prompt contexts) ∧
      extracted.contexts = (normalizedContexts contexts).map entryOf

def PlainLabels (contexts : List (TerminalContextSelection Number)) : Prop :=
  ∀ context ∈ contexts, ∀ u ∈ context.terminalLabel, Shared.isLineTerminator u = false

theorem isLineTerminator_range (selection : TerminalContextSelection Number) {u : CodeUnit}
    (h : u ∈ formatTerminalContextRange selection) : Shared.isLineTerminator u = false := by
  have hnumber : ∀ number : Number, ∀ u ∈ LineNumbers.text number,
      Shared.isLineTerminator u = false := fun number u hu =>
    have hprintable := LineNumbers.text_printable number u hu
    isLineTerminator_of_printable ⟨(by decide : (32 : ℕ) ≤ 33).trans hprintable.1, hprintable.2⟩
  rw [formatTerminalContextRange] at h
  split_ifs at h
  · obtain h | h := List.mem_append.mp h
    · exact ascii_printable (by decide) u h
    · exact hnumber _ u h
  · obtain h | h := List.mem_append.mp h
    · obtain h | h := List.mem_append.mp h
      · obtain h | h := List.mem_append.mp h
        · exact ascii_printable (by decide) u h
        · exact hnumber _ u h
      · exact ascii_printable (by decide) u h
    · exact hnumber _ u h

theorem label_plain {selection : TerminalContextSelection Number}
    (h : ∀ u ∈ selection.terminalLabel, Shared.isLineTerminator u = false) :
    ∀ u ∈ formatTerminalContextLabel selection, Shared.isLineTerminator u = false := by
  intro u hu
  rw [formatTerminalContextLabel, List.mem_append, List.mem_append] at hu
  obtain (hlabel | hspace) | hrange := hu
  · exact h u hlabel
  · exact ascii_printable (by decide) u hspace
  · exact isLineTerminator_range selection hrange

theorem formatTerminalContextLabel_ne_nil (selection : TerminalContextSelection Number) :
    formatTerminalContextLabel selection ≠ [] := by
  rw [formatTerminalContextLabel]
  exact List.append_ne_nil_of_left_ne_nil
    (List.append_ne_nil_of_right_ne_nil _ (by decide)) _

/-! ## Parsing what was built -/

theorem buildTerminalContextBodyLines_eq (context : TerminalContextSelection Number) :
    buildTerminalContextBodyLines context = (numberedLines context).map (ascii "  " ++ ·) := by
  rw [buildTerminalContextBodyLines, numberedLines, List.mapIdx_eq_zipIdx_map,
    List.mapIdx_eq_zipIdx_map, List.map_map]
  rfl

theorem numberedLines_ne_nil (context : TerminalContextSelection Number) :
    numberedLines context ≠ [] := by
  rw [numberedLines, Ne, List.mapIdx_eq_nil_iff]
  exact List.splitOn_ne_nil _ _

theorem newline_notMem_ascii {literal : String} (h : ∀ u ∈ ascii literal, 32 ≤ u ∧ u ≤ 126) :
    newline ∉ ascii literal :=
  fun hmem => absurd (ascii_printable h newline hmem) (by decide)

variable {context : TerminalContextSelection Number} {line : Text}
  {contexts : List (TerminalContextSelection Number)}

theorem newline_notMem_numberedLines (h : line ∈ numberedLines context) : newline ∉ line := by
  rw [numberedLines, List.mem_mapIdx] at h
  obtain ⟨index, hindex, rfl⟩ := h
  rw [numberedLine, List.mem_append, List.mem_append, not_or, not_or]
  refine ⟨⟨fun hnumber => ?_, newline_notMem_ascii (by decide)⟩, ?_⟩
  · exact absurd (LineNumbers.text_printable _ _ hnumber).1 (by decide)
  · exact notMem_splitOn (List.getElem_mem hindex)

theorem newline_notMem_contextLines
    (h : ∀ u ∈ context.terminalLabel, Shared.isLineTerminator u = false)
    (hline : line ∈ contextLines context) : newline ∉ line := by
  rw [contextLines, buildTerminalContextBodyLines_eq, List.mem_cons, List.mem_map] at hline
  obtain rfl | ⟨numbered, hnumbered, rfl⟩ := hline
  · rw [List.mem_append, List.mem_append, not_or, not_or]
    refine ⟨⟨newline_notMem_ascii (by decide), fun hlabel => ?_⟩,
      newline_notMem_ascii (by decide)⟩
    exact absurd (label_plain h newline hlabel) (by decide)
  · rw [List.mem_append, not_or]
    exact ⟨newline_notMem_ascii (by decide), newline_notMem_numberedLines hnumbered⟩

theorem newline_notMem_blockLines (h : PlainLabels contexts) (hline : line ∈ blockLines contexts) :
    newline ∉ line := by
  induction contexts using blockLines.induct with
  | case1 => cases hline
  | case2 context => exact newline_notMem_contextLines (h context List.mem_cons_self) hline
  | case3 context next contexts ih =>
    rw [blockLines, List.mem_append, List.mem_cons] at hline
    obtain hhere | rfl | hlater := hline
    · exact newline_notMem_contextLines (h context List.mem_cons_self) hhere
    · exact List.not_mem_nil
    · exact ih (fun other hother => h other (List.mem_cons_of_mem _ hother)) hlater

theorem blockLines_ne_nil (h : contexts ≠ []) : blockLines contexts ≠ [] := by
  match contexts, h with
  | [context], _ => exact List.cons_ne_nil _ _
  | context :: next :: contexts, _ => exact List.cons_ne_nil _ _

theorem foldl_parseLine_indented (lines : List Text) (entries : List ParsedTerminalContextEntry)
    (header : Text) (bodyLines : List Text) :
    (lines.map (ascii "  " ++ ·)).foldl parseLine ⟨entries, some ⟨header, bodyLines⟩⟩ =
      ⟨entries, some ⟨header, bodyLines ++ lines⟩⟩ := by
  induction lines generalizing bodyLines with
  | nil => rw [List.append_nil]; rfl
  | cons line lines ih =>
    have hline : parseLine ⟨entries, some ⟨header, bodyLines⟩⟩ (ascii "  " ++ line) =
        ⟨entries, some ⟨header, bodyLines ++ [line]⟩⟩ := rfl
    rw [List.map_cons, List.foldl_cons, hline, ih, List.append_assoc, List.singleton_append]

theorem foldl_parseLine_contextLines
    (h : ∀ u ∈ context.terminalLabel, Shared.isLineTerminator u = false) (state : ParseState) :
    (contextLines context).foldl parseLine state =
      ⟨state.commitCurrent,
        some ⟨formatTerminalContextLabel context, numberedLines context⟩⟩ := by
  have hheader : parseLine state
      (ascii "- " ++ formatTerminalContextLabel context ++ ascii ":") =
      ⟨state.commitCurrent, some ⟨formatTerminalContextLabel context, []⟩⟩ := by
    rw [parseLine, headerMatch_header (formatTerminalContextLabel_ne_nil context) (label_plain h)]
  rw [contextLines, List.foldl_cons, hheader, buildTerminalContextBodyLines_eq,
    foldl_parseLine_indented, List.nil_append]

theorem commitCurrent_emptyLine (entries : List ParsedTerminalContextEntry)
    (context : TerminalContextSelection Number) :
    (parseLine ⟨entries, some ⟨formatTerminalContextLabel context, numberedLines context⟩⟩
      []).commitCurrent = entries ++ [entryOf context] := by
  have hempty : parseLine ⟨entries,
      some ⟨formatTerminalContextLabel context, numberedLines context⟩⟩ [] =
      ⟨entries, some ⟨formatTerminalContextLabel context, numberedLines context ++ [[]]⟩⟩ := rfl
  rw [hempty, ParseState.commitCurrent, entryOf]
  dsimp only
  rw [joinLines_concat (numberedLines_ne_nil context), trimEnd_concat_newline]

theorem commitCurrent_blockLines (h : PlainLabels contexts) (state : ParseState) :
    ((blockLines contexts).foldl parseLine state).commitCurrent =
      state.commitCurrent ++ contexts.map entryOf := by
  induction contexts using blockLines.induct generalizing state with
  | case1 => exact (List.append_nil _).symm
  | case2 context =>
    rw [blockLines, foldl_parseLine_contextLines (h context List.mem_cons_self)]
    rfl
  | case3 context next contexts ih =>
    rw [blockLines, List.foldl_append, List.foldl_cons,
      foldl_parseLine_contextLines (h context List.mem_cons_self),
      ih (fun other hother => h other (List.mem_cons_of_mem _ hother)), commitCurrent_emptyLine,
      List.append_assoc, List.singleton_append]
    rfl

theorem parseTerminalContextEntries_blockLines (hne : contexts ≠ []) (h : PlainLabels contexts) :
    parseTerminalContextEntries (joinLines (blockLines contexts)) = contexts.map entryOf := by
  rw [parseTerminalContextEntries,
    splitOn_joinLines (blockLines_ne_nil hne) (fun _ hline => newline_notMem_blockLines h hline),
    commitCurrent_blockLines h]
  rfl

variable {contexts : List (TerminalContextSelection Number)}

theorem buildTerminalContextBlock_eq (h : normalizedContexts contexts ≠ []) :
    buildTerminalContextBlock contexts =
      TRAILING_TERMINAL_CONTEXT_BLOCK_PATTERN.opening ++
        (joinLines (blockLines (normalizedContexts contexts)) ++
          TRAILING_TERMINAL_CONTEXT_BLOCK_PATTERN.closing) := by
  rw [buildTerminalContextBlock, if_neg (fun hlength => h (List.length_eq_zero_iff.mp hlength)),
    joinLines_cons (List.append_ne_nil_of_right_ne_nil _ (List.cons_ne_nil _ _)),
    joinLines_concat (blockLines_ne_nil h)]
  rfl

section

variable [Shared.CaseMapping] {prompt : Text}

theorem appendTerminalContextsToPrompt_eq (h : normalizedContexts contexts ≠ []) :
    appendTerminalContextsToPrompt prompt contexts =
      TRAILING_TERMINAL_CONTEXT_BLOCK_PATTERN.withBlock (trimmedPrompt prompt contexts)
        (leadOf (trimmedPrompt prompt contexts))
        (joinLines (blockLines (normalizedContexts contexts))) := by
  rw [appendTerminalContextsToPrompt, buildTerminalContextBlock_eq h, BlockPattern.withBlock, leadOf,
    if_neg (by simp [TRAILING_TERMINAL_CONTEXT_BLOCK_PATTERN, ascii]), trimmedPrompt]
  split_ifs with hlength
  · rw [List.append_assoc]
  · rw [List.length_eq_zero_iff.mp (Nat.eq_zero_of_not_pos hlength)]
    rfl

theorem appendTerminalContextsToPrompt_of_nil (h : normalizedContexts contexts = []) :
    appendTerminalContextsToPrompt prompt contexts = trimmedPrompt prompt contexts := by
  rw [appendTerminalContextsToPrompt, buildTerminalContextBlock, h]
  rfl

theorem trimmedPrompt_last :
    ∀ u ∈ (trimmedPrompt prompt contexts).getLast?, isNewline u = false := by
  intro u hu
  have htrimmed := (trimmedFor_trimWhere Shared.isSpace
    (materializeInlineTerminalContextPrompt prompt contexts)).2 u hu
  rw [Bool.eq_false_iff]
  intro hnewline
  rw [isNewline, beq_iff_eq] at hnewline
  rw [hnewline] at htrimmed
  exact absurd htrimmed (by decide)

theorem dropTrailingNewlines_trimmedPrompt :
    dropTrailingNewlines (trimmedPrompt prompt contexts) = trimmedPrompt prompt contexts := by
  rw [dropTrailingNewlines, List.rdropWhile_eq_self_iff]
  intro hne hnewline
  rw [trimmedPrompt_last _ (List.getLast?_eq_some_getLast hne)] at hnewline
  exact Bool.false_ne_true hnewline

theorem find_appended (h : normalizedContexts contexts ≠ [])
    (hfree : NoOpening (trimmedPrompt prompt contexts)) :
    TRAILING_TERMINAL_CONTEXT_BLOCK_PATTERN.find 0 (appendTerminalContextsToPrompt prompt contexts) =
      some ((trimmedPrompt prompt contexts).length,
        joinLines (blockLines (normalizedContexts contexts))) := by
  rw [appendTerminalContextsToPrompt_eq h]
  exact BlockPattern.find_withBlock endsWith_newline trimmedPrompt_last isNewline_of_mem_leadOf
    leadOf_head hfree

theorem promptText_ne_of_opening (h : normalizedContexts contexts ≠ [])
    (hopening : ¬ NoOpening (trimmedPrompt prompt contexts)) :
    (extractTrailingTerminalContexts (appendTerminalContextsToPrompt prompt contexts)).promptText ≠
      trimmedPrompt prompt contexts := by
  obtain ⟨index, block, hfind, hlt⟩ := BlockPattern.exists_find_lt endsWith_newline leadOf_head
    (not_not.mp hopening)
  intro heq
  rw [extractTrailingTerminalContexts, appendTerminalContextsToPrompt_eq h, hfind] at heq
  have hprefix : (trimmedPrompt prompt contexts).length ≤ index := by
    rw [← heq]
    exact ((List.rdropWhile_prefix _ _).length_le).trans (List.length_take_le _ _)
  omega

/-- Contexts survive exactly when the prompt opens no block and every label is one line. -/
theorem survivesEncoding_iff (prompt : Text) (contexts : List (TerminalContextSelection Number)) :
    SurvivesEncoding prompt contexts ↔
      normalizedContexts contexts = [] ∨
        NoOpening (trimmedPrompt prompt contexts) ∧ PlainLabels (normalizedContexts contexts) := by
  by_cases hnone : normalizedContexts contexts = []
  · refine iff_of_true ?_ (Or.inl hnone)
    rw [SurvivesEncoding, if_pos hnone]
    intro hfind
    rw [appendTerminalContextsToPrompt_of_nil hnone, extractTrailingTerminalContexts, hfind]
    exact ⟨rfl, rfl⟩
  rw [SurvivesEncoding, if_neg hnone, dropTrailingNewlines_trimmedPrompt]
  constructor
  · rintro ⟨hprompt, hcontexts⟩
    refine Or.inr ⟨?_, fun context hcontext u hu => ?_⟩
    · by_contra hopening
      exact promptText_ne_of_opening hnone hopening hprompt
    · have hentry : entryOf context ∈ (extractTrailingTerminalContexts
          (appendTerminalContextsToPrompt prompt contexts)).contexts :=
        hcontexts ▸ List.mem_map_of_mem hcontext
      refine plainHeader_of_mem_extract hentry u ?_
      rw [entryOf, formatTerminalContextLabel]
      exact List.mem_append_left _ (List.mem_append_left _ hu)
  · rintro (hnone' | ⟨hfree, hplain⟩)
    · exact absurd hnone' hnone
    · rw [extractTrailingTerminalContexts, find_appended hnone hfree]
      refine ⟨?_, parseTerminalContextEntries_blockLines hnone hplain⟩
      change dropTrailingNewlines ((appendTerminalContextsToPrompt prompt contexts).take _) = _
      rw [appendTerminalContextsToPrompt_eq hnone, BlockPattern.withBlock, List.take_left,
        dropTrailingNewlines_trimmedPrompt]

end

end

theorem intUnits_printable (n : ℤ) : ∀ u ∈ intUnits n, 33 ≤ u ∧ u ≤ 126 := by
  have hdigits : ∀ n : ℕ, ∀ u ∈ natUnits n, 33 ≤ u ∧ u ≤ 126 := by
    intro n u hu
    have hdigit := isDigit_of_mem_natUnits hu
    simp only [isDigit, Bool.and_eq_true, decide_eq_true_eq] at hdigit
    exact ⟨(by decide : 33 ≤ 48).trans hdigit.1, hdigit.2.trans (by decide)⟩
  cases n with
  | ofNat n =>
    cases n with
    | zero => decide
    | succ n => exact hdigits (n + 1)
  | negSucc n =>
    intro u hu
    obtain rfl | hu := List.mem_cons.mp hu
    · decide
    · exact hdigits (n + 1) u hu

@[reducible] def wholeLineNumbers : LineNumbers ℤ where
  one := 1
  floor := id
  max := max
  addIndex number index := number + index
  strictEq left right := left = right
  text := intUnits
  text_printable := intUnits_printable

section

attribute [local instance] wholeLineNumbers Shared.asciiCaseMapping

def buildContext : TerminalContextSelection ℤ :=
  ⟨ascii "t1", ascii "Terminal 1", 12, 13, ascii "error:\n- see above:\n"⟩

def testContext (terminalLabel : Text) : TerminalContextSelection ℤ :=
  ⟨ascii "t2", terminalLabel, 0, 0, ascii "ok"⟩

theorem survivesEncoding_two :
    SurvivesEncoding (ascii "why " ++ [INLINE_TERMINAL_CONTEXT_PLACEHOLDER])
      [buildContext, testContext (ascii "Terminal 2")] :=
  (survivesEncoding_iff _ _).mpr (Or.inr ⟨by unfold NoOpening; decide +kernel,
    by unfold PlainLabels; decide +kernel⟩)

theorem not_survivesEncoding :
    ¬ SurvivesEncoding (ascii "print <terminal_context>\n first") [testContext (ascii "Terminal 2")] ∧
    ¬ SurvivesEncoding (ascii "why") [testContext (ascii "Terminal\n2")] := by
  unfold SurvivesEncoding
  decide +kernel

end

end GT3Code.Web
