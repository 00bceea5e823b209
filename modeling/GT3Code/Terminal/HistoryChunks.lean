import GT3Code.Base.Scanning
import GT3Code.Terminal.Session

/-! # Output in chunks

A control sequence is taken when it is complete, and more output changes nothing about it;
so the history is that of the whole output, wherever that is cut. The history is capped
after every chunk, which drops only lines that the last cap drops as well.
-/

namespace GT3Code.Terminal

open GT3Code.Base

def sequenceHead : ScanHead Char := fun input =>
  match headSequence input with
  | .incomplete => none
  | .complete length keep => some (length, keep)

theorem sequenceHead_eq_some {input : List Char} {length : Nat} {keep : Bool} :
    sequenceHead input = some (length, keep) ↔ headSequence input = .complete length keep := by
  unfold sequenceHead
  cases headSequence input <;> simp

theorem sequenceHead_eq_none {input : List Char} :
    sequenceHead input = none ↔ headSequence input = .incomplete := by
  unfold sequenceHead
  cases headSequence input <;> simp

inductive Stripped : List Char → Prop where
  | csi {introducer body : List Char} {finalByte : Char}
      (hintroducer : introducer ∈ [['\x1b', '['], ['\u009b']])
      (hbody : ∀ c ∈ body, isCsiFinalByte c = false) (hfinal : isCsiFinalByte finalByte = true)
      (hstrip : shouldStripCsiSequence body finalByte = true) :
      Stripped (introducer ++ (body ++ [finalByte]))
  | osc {introducer content terminator : List Char}
      (hintroducer : introducer ∈ [['\x1b', ']'], ['\u009d']])
      (hcontent : findStringTerminatorIndex content = none)
      (hterminator : terminator ∈ [['\x07'], ['\u009c'], ['\x1b', '\\']])
      (hstrip : shouldStripOscSequence content = true) :
      Stripped (introducer ++ (content ++ terminator))

theorem findIdx?_eq_some_iff_split {p : Char → Bool} {input : List Char} {i : Nat} :
    input.findIdx? p = some i ↔ ∃ body c rest, input = body ++ c :: rest ∧ body.length = i ∧
      (∀ d ∈ body, p d = false) ∧ p c = true := by
  induction input generalizing i with
  | nil => simp
  | cons c input ih =>
    rw [List.findIdx?_cons]
    constructor
    · intro h
      by_cases hc : p c = true
      · rw [if_pos hc] at h
        cases h
        exact ⟨[], c, input, rfl, rfl, by simp, hc⟩
      · rw [if_neg hc] at h
        obtain ⟨j, hj, rfl⟩ := Option.map_eq_some_iff.mp h
        obtain ⟨body, d, rest, rfl, rfl, hbody, hd⟩ := ih.mp hj
        refine ⟨c :: body, d, rest, rfl, rfl, ?_, hd⟩
        simpa [hc] using hbody
    · rintro ⟨body, d, rest, hinput, rfl, hbody, hd⟩
      cases body with
      | nil =>
        cases hinput
        rw [if_pos hd]
        rfl
      | cons e body =>
        cases hinput
        rw [if_neg (by simp [hbody c List.mem_cons_self]), ih.mpr ⟨body, d, rest, rfl, rfl,
          fun f hf => hbody f (List.mem_cons_of_mem _ hf), hd⟩]
        rfl

theorem csiSequence_split (introducer : List Char) {body rest : List Char} {finalByte : Char}
    (hbody : ∀ c ∈ body, isCsiFinalByte c = false) (hfinal : isCsiFinalByte finalByte = true) :
    csiSequence introducer.length (introducer ++ (body ++ finalByte :: rest)) =
      .complete (introducer.length + body.length + 1)
        (!shouldStripCsiSequence body finalByte) := by
  have hfound : (body ++ finalByte :: rest).findIdx? isCsiFinalByte = some body.length :=
    findIdx?_eq_some_iff_split.mpr ⟨body, finalByte, rest, rfl, rfl, hbody, hfinal⟩
  rw [csiSequence, List.drop_left, hfound]
  simp

structure Taken (input : List Char) (head : List Char → HeadSequence) (length : Nat)
    (keep : Bool) : Prop where
  positive : 0 < length
  within : length ≤ input.length
  stable : ∀ more, head (input ++ more) = .complete length keep
  stripped : keep = false → Stripped (input.take length)

theorem taken_csiSequence (introducer : List Char) {input : List Char} {length : Nat}
    {keep : Bool} (hintroducer : introducer ∈ [['\x1b', '['], ['\u009b']])
    (h : csiSequence introducer.length (introducer ++ input) = .complete length keep) :
    Taken (introducer ++ input) (csiSequence introducer.length) length keep := by
  cases hfound : input.findIdx? isCsiFinalByte with
  | none =>
    rw [csiSequence, List.drop_left, hfound] at h
    cases h
  | some i =>
    obtain ⟨body, finalByte, rest, rfl, -, hbody, hfinal⟩ :=
      findIdx?_eq_some_iff_split.mp hfound
    rw [csiSequence_split introducer hbody hfinal] at h
    cases h
    have hwithin : introducer.length + body.length + 1 ≤
        (introducer ++ (body ++ finalByte :: rest)).length := by
      simp only [List.length_append, List.length_cons]
      omega
    refine ⟨by omega, hwithin, fun more => ?_, fun hstrip => ?_⟩
    · rw [List.append_assoc, List.append_assoc, List.cons_append]
      exact csiSequence_split introducer hbody hfinal
    · have htake : (introducer ++ (body ++ finalByte :: rest)).take
          (introducer.length + body.length + 1) = introducer ++ (body ++ [finalByte]) := by
        rw [Nat.add_assoc, List.take_length_add_append, List.take_length_add_append]
        rfl
      rw [htake]
      exact .csi hintroducer hbody hfinal (by simpa using hstrip)

theorem findStringTerminatorIndex_cons_none {c : Char} {input : List Char} :
    findStringTerminatorIndex (c :: input) = none ↔
      ¬(c = '\x07' ∨ c = '\u009c') ∧ ¬(c = '\x1b' ∧ input.head? = some '\\') ∧
        findStringTerminatorIndex input = none := by
  rw [findStringTerminatorIndex]
  split
  · simp_all
  · split <;> simp_all

theorem findStringTerminatorIndex_split {content terminator : List Char} (rest : List Char)
    (hcontent : findStringTerminatorIndex content = none)
    (hterminator : terminator ∈ [['\x07'], ['\u009c'], ['\x1b', '\\']]) :
    findStringTerminatorIndex (content ++ (terminator ++ rest)) =
      some (content.length + terminator.length) := by
  induction content with
  | nil =>
    simp only [List.mem_cons, List.not_mem_nil, or_false] at hterminator
    rcases hterminator with rfl | rfl | rfl <;> simp [findStringTerminatorIndex]
  | cons c content ih =>
    obtain ⟨hsingle, hpair, hrest⟩ := findStringTerminatorIndex_cons_none.mp hcontent
    have hnext : ¬(c = '\x1b' ∧ (content ++ (terminator ++ rest)).head? = some '\\') := by
      cases content with
      | nil =>
        simp only [List.mem_cons, List.not_mem_nil, or_false] at hterminator
        rcases hterminator with rfl | rfl | rfl <;> simp
      | cons d content => exact hpair
    rw [List.cons_append, findStringTerminatorIndex, if_neg hsingle, if_neg hnext, ih hrest,
      Option.map_some, List.length_cons]
    congr 1
    omega

theorem exists_split_of_findStringTerminatorIndex {input : List Char} {i : Nat}
    (h : findStringTerminatorIndex input = some i) :
    ∃ content terminator rest, input = content ++ (terminator ++ rest) ∧
      i = content.length + terminator.length ∧ findStringTerminatorIndex content = none ∧
      terminator ∈ [['\x07'], ['\u009c'], ['\x1b', '\\']] := by
  induction input generalizing i with
  | nil => cases h
  | cons c input ih =>
    rw [findStringTerminatorIndex] at h
    by_cases hsingle : c = '\x07' ∨ c = '\u009c'
    · rw [if_pos hsingle] at h
      cases h
      refine ⟨[], [c], input, rfl, rfl, rfl, ?_⟩
      rcases hsingle with rfl | rfl <;> simp
    · rw [if_neg hsingle] at h
      by_cases hpair : c = '\x1b' ∧ input.head? = some '\\'
      · rw [if_pos hpair] at h
        cases h
        obtain ⟨rfl, hhead⟩ := hpair
        obtain ⟨rest, rfl⟩ := List.head?_eq_some_iff.mp hhead
        exact ⟨[], ['\x1b', '\\'], rest, rfl, rfl, rfl, by simp⟩
      · rw [if_neg hpair] at h
        obtain ⟨j, hj, rfl⟩ := Option.map_eq_some_iff.mp h
        obtain ⟨content, terminator, rest, rfl, rfl, hcontent, hterminator⟩ := ih hj
        refine ⟨c :: content, terminator, rest, rfl, by rw [List.length_cons]; omega,
          findStringTerminatorIndex_cons_none.mpr ⟨hsingle, ?_, hcontent⟩, hterminator⟩
        rintro ⟨hescape, hhead⟩
        refine hpair ⟨hescape, ?_⟩
        rw [List.head?_append, hhead]
        rfl

theorem stripStringTerminator_append {content terminator : List Char}
    (hterminator : terminator ∈ [['\x07'], ['\u009c'], ['\x1b', '\\']]) :
    stripStringTerminator (content ++ terminator) = content := by
  have hsuffix : ∀ c, c ≠ '\\' → ['\x1b', '\\'].isSuffixOf (content ++ [c]) = false := by
    intro c hc
    rw [← Bool.not_eq_true, List.isSuffixOf_iff_suffix]
    rintro ⟨front, hfront⟩
    have hlast := congrArg List.getLast? hfront
    simp only [List.getLast?_append, List.getLast?_cons_cons, List.getLast?_singleton] at hlast
    simp [hc.symm] at hlast
  simp only [List.mem_cons, List.not_mem_nil, or_false] at hterminator
  unfold stripStringTerminator
  rcases hterminator with rfl | rfl | rfl
  · rw [hsuffix _ (by decide)]
    simp
  · rw [hsuffix _ (by decide)]
    simp
  · have hends : ['\x1b', '\\'].isSuffixOf (content ++ ['\x1b', '\\']) = true :=
      List.isSuffixOf_iff_suffix.mpr (List.suffix_append _ _)
    rw [if_pos hends]
    simp

theorem stringSequence_split (isOsc : Bool) (introducer : List Char)
    {content terminator : List Char} (rest : List Char)
    (hcontent : findStringTerminatorIndex content = none)
    (hterminator : terminator ∈ [['\x07'], ['\u009c'], ['\x1b', '\\']]) :
    stringSequence isOsc introducer.length (introducer ++ (content ++ (terminator ++ rest))) =
      .complete (introducer.length + (content.length + terminator.length))
        (!isOsc || !shouldStripOscSequence content) := by
  have htake : (content ++ (terminator ++ rest)).take (content.length + terminator.length) =
      content ++ terminator := by
    rw [← List.append_assoc, ← List.length_append, List.take_left]
  rw [stringSequence, List.drop_left,
    findStringTerminatorIndex_split rest hcontent hterminator]
  simp only
  rw [htake, stripStringTerminator_append hterminator]

theorem taken_stringSequence (isOsc : Bool) (introducer : List Char) {input : List Char}
    {length : Nat} {keep : Bool}
    (hintroducer : isOsc = true → introducer ∈ [['\x1b', ']'], ['\u009d']])
    (h : stringSequence isOsc introducer.length (introducer ++ input) = .complete length keep) :
    Taken (introducer ++ input) (stringSequence isOsc introducer.length) length keep := by
  cases hfound : findStringTerminatorIndex input with
  | none =>
    rw [stringSequence, List.drop_left, hfound] at h
    cases h
  | some i =>
    obtain ⟨content, terminator, rest, rfl, -, hcontent, hterminator⟩ :=
      exists_split_of_findStringTerminatorIndex hfound
    rw [stringSequence_split isOsc introducer rest hcontent hterminator] at h
    cases h
    have hpositive : 0 < terminator.length := by
      simp only [List.mem_cons, List.not_mem_nil, or_false] at hterminator
      rcases hterminator with rfl | rfl | rfl <;> decide
    refine ⟨by omega, by simp, fun more => ?_, fun hstrip => ?_⟩
    · simp only [List.append_assoc]
      exact stringSequence_split isOsc introducer (rest ++ more) hcontent hterminator
    · have htake : (introducer ++ (content ++ (terminator ++ rest))).take
          (introducer.length + (content.length + terminator.length)) =
            introducer ++ (content ++ terminator) := by
        rw [List.take_length_add_append, List.take_length_add_append, List.take_left]
      simp only [Bool.or_eq_false_iff, Bool.not_eq_false'] at hstrip
      rw [htake]
      exact .osc (hintroducer hstrip.1) hcontent hterminator hstrip.2

theorem findEscapeSequenceEndIndex_split {intermediates rest : List Char} {c : Char}
    (hintermediates : ∀ d ∈ intermediates, isEscapeIntermediateByte d = true)
    (hc : isEscapeIntermediateByte c = false) :
    findEscapeSequenceEndIndex (intermediates ++ c :: rest) =
      if isEscapeFinalByte c then some (intermediates.length + 1) else some 1 := by
  have htake : (intermediates ++ c :: rest).takeWhile isEscapeIntermediateByte = intermediates := by
    rw [List.takeWhile_append_of_pos hintermediates, List.takeWhile_cons_of_neg (by simp [hc]),
      List.append_nil]
  rw [findEscapeSequenceEndIndex, htake]
  simp

theorem findEscapeSequenceEndIndex_stable {input : List Char} {i : Nat}
    (h : findEscapeSequenceEndIndex input = some i) :
    i ≤ input.length ∧ ∀ more, findEscapeSequenceEndIndex (input ++ more) = some i := by
  have hsplit := List.takeWhile_append_dropWhile (p := isEscapeIntermediateByte) (l := input)
  cases hdrop : input.dropWhile isEscapeIntermediateByte with
  | nil =>
    rw [hdrop, List.append_nil] at hsplit
    rw [findEscapeSequenceEndIndex, hsplit] at h
    simp at h
  | cons c rest =>
    rw [hdrop] at hsplit
    have hc : isEscapeIntermediateByte c = false := by
      have hhead := List.head?_dropWhile_not isEscapeIntermediateByte input
      rw [hdrop] at hhead
      simpa using hhead
    have hall : ∀ d ∈ input.takeWhile isEscapeIntermediateByte,
        isEscapeIntermediateByte d = true := 
          fun d hd => List.all_eq_true.mp List.all_takeWhile d hd
    rw [← hsplit, findEscapeSequenceEndIndex_split hall hc] at h
    constructor
    · rw [← hsplit, List.length_append, List.length_cons]
      split at h <;> cases h <;> omega
    · intro more
      rw [← hsplit, List.append_assoc, List.cons_append, findEscapeSequenceEndIndex_split hall hc]
      exact h

theorem headSequence_escape {next : Char} (rest : List Char) (hnext : next ≠ '[') :
    headSequence ('\x1b' :: next :: rest) =
      if next = ']' ∨ next = 'P' ∨ next = '^' ∨ next = '_' then
        stringSequence (next = ']') 2 ('\x1b' :: next :: rest)
      else
        match findEscapeSequenceEndIndex (next :: rest) with
        | none => .incomplete
        | some endIndex => .complete (endIndex + 1) true := by
  exact headSequence.eq_4 next rest hnext

theorem headSequence_of_ne {c : Char} (rest : List Char) (hc : c ≠ '\x1b') :
    headSequence (c :: rest) =
      if c = '\u009b' then csiSequence 1 (c :: rest)
      else if c = '\u009d' ∨ c = '\u0090' ∨ c = '\u009e' ∨ c = '\u009f' then
        stringSequence (c = '\u009d') 1 (c :: rest)
      else .complete 1 true := by
  unfold headSequence
  split
  · rename_i heq
    cases heq
  · rename_i heq
    exact absurd (List.cons.inj heq).1 hc
  · rename_i heq
    obtain ⟨rfl, rfl⟩ := List.cons.inj heq
    rfl

theorem Taken.congr {input : List Char} {head other : List Char → HeadSequence} {length : Nat}
    {keep : Bool} (h : Taken input head length keep)
    (hsame : ∀ more, other (input ++ more) = head (input ++ more)) :
    Taken input other length keep :=
  ⟨h.positive, h.within, fun more => (hsame more).trans (h.stable more), h.stripped⟩

theorem taken_headSequence {input : List Char} {length : Nat} {keep : Bool} (hne : input ≠ [])
    (h : headSequence input = .complete length keep) :
    Taken input headSequence length keep := by
  obtain ⟨c, rest, rfl⟩ := List.exists_cons_of_ne_nil hne
  by_cases hc : c = '\x1b'
  · subst hc
    cases rest with
    | nil => cases h
    | cons next rest =>
      by_cases hcsi : next = '['
      · subst hcsi
        exact (taken_csiSequence ['\x1b', '['] (by simp) h).congr
          (fun _ => rfl)
      · rw [headSequence_escape rest hcsi] at h
        by_cases hstring : next = ']' ∨ next = 'P' ∨ next = '^' ∨ next = '_'
        · rw [if_pos hstring] at h
          refine (taken_stringSequence (next = ']') ['\x1b', next] ?_ h).congr (fun more => ?_)
          · intro hosc
            rw [of_decide_eq_true hosc]
            simp
          · exact (headSequence_escape (rest ++ more) hcsi).trans (if_pos hstring)
        · rw [if_neg hstring] at h
          cases hend : findEscapeSequenceEndIndex (next :: rest) with
          | none => simp [hend] at h
          | some endIndex =>
            rw [hend] at h
            cases h
            obtain ⟨hwithin, hstable⟩ := findEscapeSequenceEndIndex_stable hend
            refine ⟨by omega, by rw [List.length_cons]; omega, fun more => ?_, by simp⟩
            rw [List.cons_append, List.cons_append, headSequence_escape _ hcsi, if_neg hstring,
              ← List.cons_append, hstable]
  · rw [headSequence_of_ne rest hc] at h
    by_cases hcsi : c = '\u009b'
    · rw [if_pos hcsi] at h
      refine (taken_csiSequence [c] (by simp [hcsi]) h).congr (fun more => ?_)
      exact (headSequence_of_ne (rest ++ more) hc).trans (if_pos hcsi)
    · rw [if_neg hcsi] at h
      by_cases hstring : c = '\u009d' ∨ c = '\u0090' ∨ c = '\u009e' ∨ c = '\u009f'
      · rw [if_pos hstring] at h
        refine (taken_stringSequence (c = '\u009d') [c] ?_ h).congr (fun more => ?_)
        · intro hosc
          simp [of_decide_eq_true hosc]
        · exact (headSequence_of_ne (rest ++ more) hc).trans ((if_neg hcsi).trans (if_pos hstring))
      · rw [if_neg hstring] at h
        cases h
        refine ⟨Nat.one_pos, by simp, fun more => ?_, by simp⟩
        rw [List.cons_append, headSequence_of_ne _ hc, if_neg hcsi, if_neg hstring]

theorem sequenceHead_stable : sequenceHead.Stable where
  within hne hhead :=
    let htaken := taken_headSequence hne (sequenceHead_eq_some.mp hhead)
    ⟨htaken.positive, htaken.within⟩
  stable hne hhead more :=
    sequenceHead_eq_some.mpr ((taken_headSequence hne (sequenceHead_eq_some.mp hhead)).stable more)

theorem scans_sanitizeFrom {fuel : Nat} (visibleText : List Char) {input : List Char}
    (hfuel : input.length ≤ fuel) :
    ∃ kept pending, Scans sequenceHead input kept pending ∧
      sanitizeFrom fuel visibleText input =
        ⟨String.ofList (visibleText ++ kept), String.ofList pending⟩ := by
  induction fuel generalizing visibleText input with
  | zero =>
    cases List.length_eq_zero_iff.mp (Nat.le_zero.mp hfuel)
    exact ⟨[], [], .done, by simp [sanitizeFrom]⟩
  | succ fuel ih =>
    cases input with
    | nil => exact ⟨[], [], .done, by simp [sanitizeFrom]⟩
    | cons c rest =>
      rw [sanitizeFrom]
      cases hhead : headSequence (c :: rest) with
      | incomplete =>
        exact ⟨[], c :: rest, .wait (by simp) (sequenceHead_eq_none.mpr hhead), by simp⟩
      | complete length keep =>
        have htaken := taken_headSequence (by simp) hhead
        have hdrop : ((c :: rest).drop length).length ≤ fuel := by
          have hpositive := htaken.positive
          rw [List.length_drop]
          omega
        obtain ⟨kept, pending, hscans, hresult⟩ := ih
          (if keep then visibleText ++ (c :: rest).take length else visibleText) hdrop
        refine ⟨_, _, .take (by simp) (sequenceHead_eq_some.mpr hhead) hscans, ?_⟩
        simp only
        rw [hresult]
        cases keep <;> simp

theorem scans_sanitizeTerminalHistoryChunk (pendingControlSequence data : String) :
    Scans sequenceHead (pendingControlSequence.toList ++ data.toList)
      (sanitizeTerminalHistoryChunk pendingControlSequence data).visibleText.toList
      (sanitizeTerminalHistoryChunk pendingControlSequence data).pendingControlSequence.toList := by
  rw [sanitizeTerminalHistoryChunk]
  simp only [String.toList_append]
  obtain ⟨kept, pending, hscans, hresult⟩ := scans_sanitizeFrom [] (Nat.le_refl _)
  rw [hresult]
  simpa using hscans

def textLines (text : List Char) : List (List Char) :=
  if text.getLast? = some '\n' then (text.splitOn '\n').dropLast else text.splitOn '\n'

/-- What `capHistory` makes of the characters. -/
def capLines (maxLines : Nat) (text : List Char) : List Char :=
  if (textLines text).length ≤ maxLines then text
  else
    let capped := ['\n'].intercalate ((textLines text).drop ((textLines text).length - maxLines))
    if text.getLast? = some '\n' then capped ++ ['\n'] else capped

theorem toList_capHistory {maxLines : Nat} (hmax : 0 < maxLines) (history : String) :
    (capHistory history maxLines).toList = capLines maxLines history.toList := by
  unfold capHistory capLines textLines
  by_cases hempty : history.isEmpty
  · have hfew : 1 ≤ maxLines := hmax
    simp [String.isEmpty_iff.mp hempty, hfew]
  · by_cases hlast : history.toList.getLast? = some '\n'
    · simp only [hempty, hlast, if_true, Bool.false_eq_true, if_false]
      split <;> simp
    · simp only [hempty, hlast, if_false, Bool.false_eq_true]
      split <;> simp

theorem length_splitOn (text : List Char) :
    (text.splitOn '\n').length = text.count '\n' + 1 := by
  induction text with
  | nil => rfl
  | cons c text ih =>
    rw [List.splitOn_cons_eq_if_modifyHead]
    by_cases hc : c = '\n'
    · simp [hc, ih]
    · simp [hc, ih]

theorem length_textLines (text : List Char) :
    (textLines text).length =
      text.count '\n' + if text.getLast? = some '\n' then 0 else 1 := by
  unfold textLines
  split <;> simp [length_splitOn]

theorem length_textLines_append (text more : List Char) :
    (textLines text).length ≤ (textLines (text ++ more)).length := by
  cases hlast : more.getLast? with
  | none => simp [List.getLast?_eq_none_iff.mp hlast]
  | some c =>
    rw [length_textLines, length_textLines, List.count_append, List.getLast?_append, hlast,
      Option.some_or]
    by_cases hc : c = '\n'
    · have hmem : '\n' ∈ more := hc ▸ List.mem_of_getLast? hlast
      have hcount := List.count_pos_iff.mpr hmem
      split <;> omega
    · simp only [Option.some.injEq, hc, if_false]
      split <;> omega

theorem getLast?_line (line : List Char) {rest : List Char} (hrest : rest ≠ []) :
    (line ++ '\n' :: rest).getLast? = rest.getLast? := by
  obtain ⟨c, rest, rfl⟩ := List.exists_cons_of_ne_nil hrest
  rw [List.getLast?_append, List.getLast?_cons_cons]
  cases hlast : (c :: rest).getLast? with
  | none => simp at hlast
  | some d => rfl

theorem textLines_cons {line rest : List Char} (hline : '\n' ∉ line) (hrest : rest ≠ []) :
    textLines (line ++ '\n' :: rest) = line :: textLines rest := by
  have hsplit : (line ++ '\n' :: rest).splitOn '\n' = line :: rest.splitOn '\n' := by
    rw [List.splitOn_append_cons_self, List.splitOn_eq_singleton hline]
    rfl
  unfold textLines
  rw [getLast?_line line hrest, hsplit]
  split
  · rw [List.dropLast_cons_of_ne_nil (List.splitOn_ne_nil _ _)]
  · rfl

/-- A text from its lines, the last one ended by a line feed or not. -/
def joinLines (ended : Bool) (lines : List (List Char)) : List Char :=
  if ended then ['\n'].intercalate lines ++ ['\n'] else ['\n'].intercalate lines

theorem capLines_eq (maxLines : Nat) (text : List Char) :
    capLines maxLines text =
      if (textLines text).length ≤ maxLines then text
      else joinLines (text.getLast? = some '\n')
        ((textLines text).drop ((textLines text).length - maxLines)) := by
  simp [capLines, joinLines]

theorem join_textLines (text : List Char) :
    joinLines (text.getLast? = some '\n') (textLines text) = text := by
  unfold joinLines textLines
  by_cases hlast : text.getLast? = some '\n'
  · obtain ⟨front, rfl⟩ := List.getLast?_eq_some_iff.mp hlast
    rw [if_pos (by simp), if_pos hlast, List.splitOn_append_cons_self, List.splitOn_nil,
      List.dropLast_concat, List.intercalate_splitOn]
  · rw [if_neg (by simpa using hlast), if_neg hlast, List.intercalate_splitOn]

theorem capLines_cons {maxLines : Nat} {line rest : List Char}
    (hline : '\n' ∉ line) (hrest : rest ≠ []) (hmany : maxLines ≤ (textLines rest).length) :
    capLines maxLines (line ++ '\n' :: rest) = capLines maxLines rest := by
  have hdrop : (textLines rest).length + 1 - maxLines =
      (textLines rest).length - maxLines + 1 := by omega
  rw [capLines_eq, capLines_eq, textLines_cons hline hrest, getLast?_line line hrest,
    List.length_cons, if_neg (by omega), hdrop, List.drop_succ_cons]
  split
  · rename_i hfew
    rw [Nat.sub_eq_zero_of_le hfew, List.drop_zero, join_textLines]
  · rfl

theorem exists_cons_of_many {maxLines : Nat} (hmax : 0 < maxLines) {text : List Char}
    (h : maxLines < (textLines text).length) :
    ∃ line rest, text = line ++ '\n' :: rest ∧ '\n' ∉ line ∧ rest ≠ [] := by
  have hlength := length_textLines text
  have hmem : '\n' ∈ text := by
    refine List.count_pos_iff.mp ?_
    split at hlength <;> omega
  obtain ⟨line, rest, rfl, hline⟩ := List.eq_append_cons_of_mem hmem
  refine ⟨line, rest, rfl, hline, ?_⟩
  rintro rfl
  rw [List.count_append, List.count_eq_zero.mpr hline, if_pos (by simp)] at hlength
  simp at hlength
  omega

theorem capLines_append {maxLines : Nat} (hmax : 0 < maxLines) (text more : List Char) :
    capLines maxLines (capLines maxLines text ++ more) = capLines maxLines (text ++ more) := by
  induction hn : text.length using Nat.strongRecOn generalizing text with
  | _ n ih =>
    by_cases hfew : (textLines text).length ≤ maxLines
    · rw [capLines_eq maxLines text, if_pos hfew]
    · obtain ⟨line, rest, rfl, hline, hrest⟩ := exists_cons_of_many hmax (Nat.lt_of_not_le hfew)
      rw [textLines_cons hline hrest, List.length_cons] at hfew
      have hmany : maxLines ≤ (textLines rest).length := by omega
      have hlonger := length_textLines_append rest more
      rw [capLines_cons hline hrest hmany, List.append_assoc, List.cons_append,
        capLines_cons hline (by simp [hrest]) (by omega)]
      refine ih rest.length ?_ rest rfl
      rw [← hn, List.length_append, List.length_cons]
      omega

/-- The session after the chunks of output, each drained at its time. -/
def handleChunks (historyLineLimit : Nat) (session : TerminalSessionState)
    (chunks : List (String × String)) : TerminalSessionState :=
  chunks.foldl (fun session chunk => (session.handleOutput historyLineLimit chunk.1 chunk.2).2)
    session

/-- The history is that of the visible text so far, and what waits is what the scan left. -/
def Drained (historyLineLimit : Nat) (output : List Char) (session : TerminalSessionState) : Prop :=
  ∃ visible, Scans sequenceHead output visible session.pendingHistoryControlSequence.toList ∧
    session.history.toList = capLines historyLineLimit visible

theorem Drained.handleOutput {historyLineLimit : Nat} (hlimit : 0 < historyLineLimit)
    {output : List Char} {session : TerminalSessionState}
    (h : Drained historyLineLimit output session) (now data : String) :
    Drained historyLineLimit (output ++ data.toList)
      (session.handleOutput historyLineLimit now data).2 := by
  obtain ⟨visible, hscans, hhistory⟩ := h
  have hchunk := scans_sanitizeTerminalHistoryChunk session.pendingHistoryControlSequence data
  refine ⟨_, hscans.append sequenceHead_stable hchunk, ?_⟩
  simp only [TerminalSessionState.handleOutput]
  by_cases hnone : (sanitizeTerminalHistoryChunk session.pendingHistoryControlSequence
      data).visibleText.isEmpty
  · rw [if_pos hnone, String.isEmpty_iff.mp hnone]
    simpa using hhistory
  · rw [if_neg hnone, toList_capHistory hlimit, String.toList_append, hhistory,
      capLines_append hlimit]

theorem drained_handleChunks {historyLineLimit : Nat} (hlimit : 0 < historyLineLimit)
    {output : List Char} {session : TerminalSessionState}
    (h : Drained historyLineLimit output session) (chunks : List (String × String)) :
    Drained historyLineLimit (output ++ (String.join (chunks.map Prod.snd)).toList)
      (handleChunks historyLineLimit session chunks) := by
  induction chunks generalizing output session with
  | nil => simpa [handleChunks] using h
  | cons chunk chunks ih =>
    have hrest := ih (h.handleOutput hlimit chunk.1 chunk.2)
    rw [List.map_cons, String.join_cons, String.toList_append, ← List.append_assoc]
    exact hrest

theorem Drained.unique {historyLineLimit : Nat} {output : List Char}
    {session other : TerminalSessionState} (h : Drained historyLineLimit output session)
    (hother : Drained historyLineLimit output other) :
    session.history = other.history ∧
      session.pendingHistoryControlSequence = other.pendingHistoryControlSequence := by
  obtain ⟨visible, hscans, hhistory⟩ := h
  obtain ⟨visible', hscans', hhistory'⟩ := hother
  obtain ⟨rfl, hpending⟩ := hscans.unique hscans'
  exact ⟨String.toList_injective (hhistory.trans hhistory'.symm),
    String.toList_injective hpending⟩

/-- The input is cut into pieces and what waits; the pieces that are kept are the visible text in
order, and each other one is a complete control sequence that is to be dropped. -/
def DropsOnlyStripped (pendingControlSequence data : String) : Prop :=
  let sanitized := sanitizeTerminalHistoryChunk pendingControlSequence data
  ∃ pieces : List (List Char × Bool),
    pendingControlSequence.toList ++ data.toList =
      (pieces.map Prod.fst).flatten ++ sanitized.pendingControlSequence.toList ∧
    sanitized.visibleText.toList = ((pieces.filter Prod.snd).map Prod.fst).flatten ∧
    ∀ piece ∈ pieces, piece.2 = false → Stripped piece.1

theorem dropsOnlyStripped (pendingControlSequence data : String) :
    DropsOnlyStripped pendingControlSequence data := by
  obtain ⟨pieces, hinput, hkept, hpieces, -⟩ :=
    (scans_sanitizeTerminalHistoryChunk pendingControlSequence data).pieces sequenceHead_stable
  refine ⟨pieces, hinput, hkept, fun piece hpiece hdropped => ?_⟩
  obtain ⟨rest, hne, hhead⟩ := hpieces piece hpiece
  have hstripped := (taken_headSequence hne (sequenceHead_eq_some.mp hhead)).stripped hdropped
  rwa [List.take_left] at hstripped

/-- Chunks of output leave the history and the pending sequence of the whole output in one
chunk; sanitizing drops nothing but the sequences it is to drop. -/
theorem history_independent_of_chunks {historyLineLimit : Nat} (hlimit : 1 ≤ historyLineLimit)
    {session : TerminalSessionState} (hhistory : session.history = "")
    (hpending : session.pendingHistoryControlSequence = "") (chunks : List (String × String))
    (now : String) :
    let whole := (session.handleOutput historyLineLimit now
      (String.join (chunks.map Prod.snd))).2
    (handleChunks historyLineLimit session chunks).history = whole.history ∧
      (handleChunks historyLineLimit session chunks).pendingHistoryControlSequence =
        whole.pendingHistoryControlSequence ∧
      ∀ pendingControlSequence data, DropsOnlyStripped pendingControlSequence data := by
  have hstart : Drained historyLineLimit [] session := by
    refine ⟨[], ?_, ?_⟩
    · rw [hpending]
      exact .done
    · rw [hhistory, capLines_eq, if_pos (by simpa [textLines] using hlimit)]
      rfl
  have hchunks := drained_handleChunks hlimit hstart chunks
  have hwhole := hstart.handleOutput hlimit now (String.join (chunks.map Prod.snd))
  obtain ⟨hsame, hwaits⟩ := hchunks.unique hwhole
  exact ⟨hsame, hwaits, dropsOnlyStripped⟩

/-- Output cut within a sequence that is dropped. -/
theorem history_independent_of_chunks_cut :
    (handleChunks 1 (TerminalSessionState.created
        ⟨"t", "default", "/", none, 80, 24⟩ "" none "")
      [("", "a\nb\x1b[6"), ("", "n"), ("", "c")]).history = "bc" := by
  have h := (@history_independent_of_chunks 1 (Nat.le_refl _)
    (TerminalSessionState.created ⟨"t", "default", "/", none, 80, 24⟩ "" none "") rfl rfl
    [("", "a\nb\x1b[6"), ("", "n"), ("", "c")] "").1
  rw [h]
  decide +kernel

end GT3Code.Terminal
