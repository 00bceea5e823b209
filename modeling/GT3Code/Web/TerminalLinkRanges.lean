import GT3Code.Web.TerminalLinks

/-! # Links over wrapped lines

A line of the terminal goes on in the rows below it that are marked as wrapped. Links are looked
for in the whole of it, and their ends are found again in the buffer.
-/

namespace GT3Code.Web

open GT3Code.Base GT3Code.Base.Json

/-- A row of the buffer; `translateToString(true)` gives its first `trimmedLength` cells. -/
structure TerminalBufferLine where
  isWrapped : Option Bool
  cells : Text
  trimmedLength : Nat

def TerminalBufferLine.wrapped (line : TerminalBufferLine) : Bool := line.isWrapped = some true

def TerminalBufferLine.translateToString (line : TerminalBufferLine) (trimRight : Bool) : Text :=
  if trimRight then line.cells.take line.trimmedLength else line.cells

structure WrappedTerminalLinkLineSegment where
  bufferLineNumber : Nat
  text : Text
  startIndex : Nat
  endIndex : Nat
  deriving DecidableEq

structure WrappedTerminalLinkLine where
  text : Text
  segments : List WrappedTerminalLinkLineSegment
  deriving DecidableEq

structure TerminalLinkBufferPosition where
  x : Nat
  y : Nat

structure TerminalLinkBufferRange where
  start : TerminalLinkBufferPosition
  finish : TerminalLinkBufferPosition

section Buffer

variable (lines : List TerminalBufferLine)

/-- `getLine(bufferLineNumber - 1)` -/
def lineNumbered : Nat → Option TerminalBufferLine
  | 0 => none
  | index + 1 => lines[index]?

def findStartLine : Nat → TerminalBufferLine → Option (Nat × TerminalBufferLine)
  | number + 2, startLine =>
    if startLine.wrapped then
      match lineNumbered lines (number + 1) with
      | none => none
      | some previousLine => findStartLine (number + 1) previousLine
    else some (number + 2, startLine)
  | number, startLine => some (number, startLine)

/-- The second loop, over the rows from `currentBufferLineNumber` on. -/
def collectSegments : List TerminalBufferLine → Nat → Nat → List WrappedTerminalLinkLineSegment
  | [], _, _ => []
  | currentLine :: rest, currentBufferLineNumber, nextStartIndex =>
    let hasWrappedContinuation := rest.head?.any TerminalBufferLine.wrapped
    let text := currentLine.translateToString (!hasWrappedContinuation)
    { bufferLineNumber := currentBufferLineNumber
      text
      startIndex := nextStartIndex
      endIndex := nextStartIndex + text.length } ::
        if hasWrappedContinuation then
          collectSegments rest (currentBufferLineNumber + 1) (nextStartIndex + text.length)
        else []

def collectWrappedTerminalLinkLine (bufferLineNumber : Nat) : Option WrappedTerminalLinkLine :=
  match lineNumbered lines bufferLineNumber with
  | none => none
  | some anchorLine =>
    match findStartLine lines bufferLineNumber anchorLine with
    | none => none
    | some (startBufferLineNumber, _) =>
      let segments :=
        collectSegments (lines.drop (startBufferLineNumber - 1)) startBufferLineNumber 0
      some ⟨segments.flatMap WrappedTerminalLinkLineSegment.text, segments⟩

end Buffer

def resolveCharacterPosition (segments : List WrappedTerminalLinkLineSegment)
    (characterIndex : Nat) : TerminalLinkBufferPosition :=
  match segments.find? (fun segment => characterIndex < segment.endIndex) with
  | some segment => ⟨characterIndex - segment.startIndex + 1, segment.bufferLineNumber⟩
  | none =>
    let lastSegment := segments.getLast?
    ⟨max ((lastSegment.map (fun segment => segment.text.length)).getD 0) 1,
      (lastSegment.map WrappedTerminalLinkLineSegment.bufferLineNumber).getD 1⟩

def resolveWrappedTerminalLinkRange (wrappedLine : WrappedTerminalLinkLine)
    (found : TerminalLinkMatch) : TerminalLinkBufferRange :=
  { start := resolveCharacterPosition wrappedLine.segments found.start
    finish := resolveCharacterPosition wrappedLine.segments (found.finish - 1) }

/-- Rows from `first` on: one that starts a line, and all the rows the line goes on in. -/
structure IsWrappedRun (lines : List TerminalBufferLine) (first : Nat)
    (run after : List TerminalBufferLine) : Prop where
  rows : lines.drop first = run ++ after
  startsLine : run.head?.any TerminalBufferLine.wrapped = false
  nonempty : run ≠ []
  goesOn : ∀ line ∈ run.tail, line.wrapped = true
  ends : after.head?.any TerminalBufferLine.wrapped = false

def runTexts : List TerminalBufferLine → List Text
  | [] => []
  | [last] => [last.translateToString true]
  | line :: next :: rest => line.translateToString false :: runTexts (next :: rest)

structure IsLineOf (first : Nat) (run : List TerminalBufferLine)
    (wrappedLine : WrappedTerminalLinkLine) : Prop where
  text_eq : wrappedLine.text = (runTexts run).flatten
  numbers : wrappedLine.segments.map WrappedTerminalLinkLineSegment.bufferLineNumber =
    List.range' (first + 1) run.length
  texts : wrappedLine.segments.map WrappedTerminalLinkLineSegment.text = runTexts run

/-- A row at or above `row` starts a line. -/
def StartsInBuffer (lines : List TerminalBufferLine) (row : Nat) : Prop :=
  ∃ first ≤ row, ∃ line, lines[first]? = some line ∧ line.wrapped = false

/-- The run of the row, or nothing where it starts above the buffer. -/
def CollectsRun (lines : List TerminalBufferLine) (row : Nat) :
    Option WrappedTerminalLinkLine → Prop
  | some wrappedLine => ∃ first run after, IsWrappedRun lines first run after ∧
      first ≤ row ∧ row < first + run.length ∧ IsLineOf first run wrappedLine
  | none => ¬ StartsInBuffer lines row

/-! ## Collecting -/

section Collecting

variable {lines : List TerminalBufferLine}

variable {row : Nat} {anchorLine next : TerminalBufferLine}
  {segment : WrappedTerminalLinkLineSegment} {segments : List WrappedTerminalLinkLineSegment}
  {cell : CellPosition}

theorem findStartLine_spec (h : lines[row]? = some anchorLine) :
    ∃ first startLine, findStartLine lines (row + 1) anchorLine = some (first + 1, startLine) ∧
      lines[first]? = some startLine ∧ first ≤ row ∧
      (∀ index, first < index → index ≤ row → ∃ line, lines[index]? = some line ∧
        line.wrapped = true) ∧
      (startLine.wrapped = true → first = 0) := by
  induction row generalizing anchorLine with
  | zero => exact ⟨0, anchorLine, rfl, h, Nat.le_refl 0, fun index hlt hle => by omega, fun _ => rfl⟩
  | succ row ih =>
    cases hwrapped : anchorLine.wrapped with
    | false =>
      refine ⟨row + 1, anchorLine, ?_, h, Nat.le_refl _, fun index hlt hle => by omega, ?_⟩
      · rw [findStartLine, if_neg (by simp [hwrapped])]
      · simp [hwrapped]
    | true =>
      obtain ⟨previousLine, hprevious⟩ : ∃ line, lines[row]? = some line := by
        have hlength := (List.getElem?_eq_some_iff.mp h).1
        exact ⟨_, List.getElem?_eq_getElem (by omega)⟩
      obtain ⟨first, startLine, hfound, hstart, hle, hrun, htop⟩ := ih hprevious
      refine ⟨first, startLine, ?_, hstart, by omega, fun index hlt hindex => ?_, htop⟩
      · rw [findStartLine, if_pos hwrapped, lineNumbered, hprevious]
        exact hfound
      · rcases Nat.lt_or_ge row index with hlast | hbefore
        · obtain rfl : index = row + 1 := by omega
          exact ⟨anchorLine, h, hwrapped⟩
        · exact hrun index hlt hbefore

def runFrom : List TerminalBufferLine → List TerminalBufferLine
  | [] => []
  | line :: rest => line :: rest.takeWhile TerminalBufferLine.wrapped

variable {line : TerminalBufferLine} {rest : List TerminalBufferLine} {index first : Nat}

theorem collectSegments_cons_wrapped (h : next.wrapped = true) (number start : Nat) :
    collectSegments (line :: next :: rest) number start =
      ⟨number, line.cells, start, start + line.cells.length⟩ ::
        collectSegments (next :: rest) (number + 1) (start + line.cells.length) := by
  rw [collectSegments]
  simp [h, TerminalBufferLine.translateToString]

theorem collectSegments_last (h : rest.head?.any TerminalBufferLine.wrapped = false)
    (number start : Nat) :
    collectSegments (line :: rest) number start =
      [⟨number, line.translateToString true, start,
        start + (line.translateToString true).length⟩] := by
  rw [collectSegments]
  simp [h]

theorem runFrom_wrapped (h : next.wrapped = true) :
    runFrom (line :: next :: rest) = line :: runFrom (next :: rest) := by
  rw [runFrom, runFrom, List.takeWhile_cons_of_pos h]

theorem runFrom_last (h : rest.head?.any TerminalBufferLine.wrapped = false) :
    runFrom (line :: rest) = [line] := by
  cases rest with
  | nil => rfl
  | cons next rest => rw [runFrom, List.takeWhile_cons_of_neg (by simpa using h)]

theorem runTexts_wrapped (line next : TerminalBufferLine) (rest : List TerminalBufferLine) :
    runTexts (line :: runFrom (next :: rest)) = line.cells :: runTexts (runFrom (next :: rest)) :=
  rfl

theorem collectSegments_spec (line : TerminalBufferLine) (rest : List TerminalBufferLine)
    (number start : Nat) :
    (collectSegments (line :: rest) number start).map
        WrappedTerminalLinkLineSegment.bufferLineNumber =
      List.range' number (runFrom (line :: rest)).length ∧
    (collectSegments (line :: rest) number start).map WrappedTerminalLinkLineSegment.text =
      runTexts (runFrom (line :: rest)) := by
  induction rest generalizing line number start with
  | nil =>
    rw [collectSegments_last rfl, runFrom_last rfl]
    exact ⟨rfl, rfl⟩
  | cons next rest ih =>
    cases hnext : next.wrapped with
    | true =>
      obtain ⟨hnumbers, htexts⟩ := ih next (number + 1) (start + line.cells.length)
      rw [collectSegments_cons_wrapped hnext, runFrom_wrapped hnext, List.map_cons,
        List.map_cons, hnumbers, htexts]
      exact ⟨rfl, rfl⟩
    | false =>
      have hends : (next :: rest).head?.any TerminalBufferLine.wrapped = false := hnext
      rw [collectSegments_last hends, runFrom_last hends]
      exact ⟨rfl, rfl⟩

theorem resolveCharacterPosition_lt (h : index < segment.endIndex) :
    resolveCharacterPosition (segment :: segments) index =
      ⟨index - segment.startIndex + 1, segment.bufferLineNumber⟩ := by
  rw [resolveCharacterPosition, List.find?_cons_of_pos (by simpa using h)]

theorem resolveCharacterPosition_ge (h : segment.endIndex ≤ index) (hne : segments ≠ []) :
    resolveCharacterPosition (segment :: segments) index =
      resolveCharacterPosition segments index := by
  rw [resolveCharacterPosition, resolveCharacterPosition,
    List.find?_cons_of_neg (by simpa using h), List.getLast?_cons_of_ne_nil hne]

theorem collectSegments_ne_nil (line : TerminalBufferLine) (rest : List TerminalBufferLine)
    (number start : Nat) : collectSegments (line :: rest) number start ≠ [] := by
  rw [collectSegments]
  exact List.cons_ne_nil _ _

theorem resolveCharacterPosition_last (hends : rest.head?.any TerminalBufferLine.wrapped = false)
    {number start : Nat} (h : cellAt (runTexts (runFrom (line :: rest))) index = some cell) :
    resolveCharacterPosition (collectSegments (line :: rest) number start) (start + index) =
      ⟨cell.column + 1, number + cell.row⟩ := by
  rw [runFrom_last hends, runTexts] at h
  rw [collectSegments_last hends]
  by_cases hindex : index < (line.translateToString true).length
  · rw [cellAt_lt hindex] at h
    cases h
    rw [resolveCharacterPosition_lt (by dsimp only; omega), Nat.add_sub_cancel_left]
    rfl
  · rw [cellAt_ge (by omega)] at h
    cases h

theorem resolveCharacterPosition_of_cellAt (number start : Nat)
    (h : cellAt (runTexts (runFrom (line :: rest))) index = some cell) :
    resolveCharacterPosition (collectSegments (line :: rest) number start) (start + index) =
      ⟨cell.column + 1, number + cell.row⟩ := by
  induction rest generalizing line number start index cell with
  | nil => exact resolveCharacterPosition_last rfl h
  | cons next rest ih =>
    cases hnext : next.wrapped with
    | false =>
      have hends : (next :: rest).head?.any TerminalBufferLine.wrapped = false := hnext
      exact resolveCharacterPosition_last hends h
    | true =>
      rw [runFrom_wrapped hnext, runTexts_wrapped] at h
      rw [collectSegments_cons_wrapped hnext]
      by_cases hindex : index < line.cells.length
      · rw [cellAt_lt hindex] at h
        cases h
        rw [resolveCharacterPosition_lt (by dsimp only; omega), Nat.add_sub_cancel_left]
        rfl
      · rw [cellAt_ge (by omega)] at h
        obtain ⟨inner, hinner, rfl⟩ := Option.map_eq_some_iff.mp h
        have hrest := ih (number + 1) (start + line.cells.length) hinner
        have hskip : start + line.cells.length + (index - line.cells.length) =
            start + index := by omega
        have hbehind : start + line.cells.length ≤ start + index := by omega
        rw [resolveCharacterPosition_ge hbehind (collectSegments_ne_nil next rest _ _),
          ← hskip, hrest, Nat.add_assoc, Nat.add_comm 1]

theorem goesOn_runFrom (line : TerminalBufferLine) (rest : List TerminalBufferLine) :
    GoesOn (runTexts (runFrom (line :: rest)))
      ((line :: rest).map TerminalBufferLine.cells) := by
  induction rest generalizing line with
  | nil => exact ⟨[], _, line.cells, [], rfl, rfl, List.take_prefix _ _⟩
  | cons next rest ih =>
    cases hnext : next.wrapped with
    | true =>
      obtain ⟨whole, cut, full, more, htexts, hrows, hcut⟩ := ih next
      refine ⟨line.cells :: whole, cut, full, more, ?_, ?_, hcut⟩
      · rw [runFrom_wrapped hnext, runTexts_wrapped, htexts, List.cons_append]
      · rw [List.map_cons, hrows, List.cons_append]
    | false =>
      have hends : (next :: rest).head?.any TerminalBufferLine.wrapped = false := hnext
      rw [runFrom_last hends]
      exact ⟨[], _, line.cells, _, rfl, rfl, List.take_prefix _ _⟩

/-- The cells of the buffer from the first position of the range to the last one. -/
def readRange (lines : List TerminalBufferLine) (range : TerminalLinkBufferRange) : Text :=
  readCells (lines.map TerminalBufferLine.cells) ⟨range.start.y - 1, range.start.x - 1⟩
    ⟨range.finish.y - 1, range.finish.x - 1⟩

/-- The line collected from the rows behind the first `first`. -/
def lineFrom (lines : List TerminalBufferLine) (first : Nat) : WrappedTerminalLinkLine :=
  let segments := collectSegments (lines.drop first) (first + 1) 0
  ⟨segments.flatMap WrappedTerminalLinkLineSegment.text, segments⟩

theorem collectWrappedTerminalLinkLine_eq {startLine : TerminalBufferLine}
    (hrow : lines[row]? = some anchorLine)
    (hstart : findStartLine lines (row + 1) anchorLine = some (first + 1, startLine)) :
    collectWrappedTerminalLinkLine lines (row + 1) = some (lineFrom lines first) := by
  rw [collectWrappedTerminalLinkLine, lineNumbered, hrow]
  dsimp only
  rw [hstart]
  rfl

theorem isLineOf_lineFrom (h : lines.drop first = line :: rest) :
    IsLineOf first (runFrom (line :: rest)) (lineFrom lines first) := by
  obtain ⟨hnumbers, htexts⟩ := collectSegments_spec line rest (first + 1) 0
  rw [← h] at hnumbers htexts
  refine ⟨?_, by rwa [← h], by rwa [← h]⟩
  rw [← h, ← htexts]
  rfl

theorem readRange_resolve (h : lines.drop first = line :: rest) {found : TerminalLinkMatch}
    (hlt : found.start < found.finish) (hle : found.finish ≤ (lineFrom lines first).text.length) :
    readRange lines (resolveWrappedTerminalLinkRange (lineFrom lines first) found) =
      slice found.start found.finish (lineFrom lines first).text := by
  have hline := isLineOf_lineFrom h
  rw [hline.text_eq] at hle ⊢
  have hstart : found.start < (runTexts (runFrom (line :: rest))).flatten.length := by omega
  have hlast : found.finish - 1 < (runTexts (runFrom (line :: rest))).flatten.length := by omega
  obtain ⟨startCell, hstartCell⟩ := exists_cellAt hstart
  obtain ⟨lastCell, hlastCell⟩ := exists_cellAt hlast
  have hbefore : found.start ≤ found.finish - 1 := by omega
  have hrange : resolveWrappedTerminalLinkRange (lineFrom lines first) found =
      ⟨⟨startCell.column + 1, first + 1 + startCell.row⟩,
        ⟨lastCell.column + 1, first + 1 + lastCell.row⟩⟩ := by
    have hfirst := resolveCharacterPosition_of_cellAt (first + 1) 0 hstartCell
    have hfinal := resolveCharacterPosition_of_cellAt (first + 1) 0 hlastCell
    rw [Nat.zero_add, ← h] at hfirst hfinal
    rw [resolveWrappedTerminalLinkRange, lineFrom, hfirst, hfinal]
  have hstartRow : first + 1 + startCell.row - 1 = first + startCell.row := by omega
  have hlastRow : first + 1 + lastCell.row - 1 = first + lastCell.row := by omega
  calc readRange lines (resolveWrappedTerminalLinkRange (lineFrom lines first) found)
      = readCells ((lines.map TerminalBufferLine.cells).drop first) startCell lastCell := by
        rw [hrange, readRange, readCells_drop]
        dsimp only
        rw [hstartRow, hlastRow, Nat.add_sub_cancel, Nat.add_sub_cancel]
    _ = readCells (runTexts (runFrom (line :: rest))) startCell lastCell := by
        rw [← List.map_drop, h]
        exact (goesOn_runFrom line rest).readCells hbefore hstartCell hlastCell
    _ = slice found.start found.finish (runTexts (runFrom (line :: rest))).flatten := by
        have hfinish : found.finish - 1 + 1 = found.finish := by omega
        rw [readCells_of_cellAt hbefore hstartCell hlastCell, hfinish]

end Collecting

/-- The line of the row is collected, and its links are slices of it that are found again. -/
structure LinksPointAtText (lines : List TerminalBufferLine) (row : Nat) : Prop where
  collected : CollectsRun lines row (collectWrappedTerminalLinkLine lines (row + 1))
  slices : ∀ wrappedLine ∈ collectWrappedTerminalLinkLine lines (row + 1),
    ∀ found ∈ extractTerminalLinks wrappedLine.text,
      found.text = slice found.start found.finish wrappedLine.text
  apart : ∀ wrappedLine ∈ collectWrappedTerminalLinkLine lines (row + 1),
    (extractTerminalLinks wrappedLine.text).Pairwise (fun a b => a.finish ≤ b.start)
  readsBack : ∀ wrappedLine ∈ collectWrappedTerminalLinkLine lines (row + 1),
    ∀ found ∈ extractTerminalLinks wrappedLine.text,
      readRange lines (resolveWrappedTerminalLinkRange wrappedLine found) = found.text

section Pointing

variable {lines : List TerminalBufferLine}

variable {first : Nat}

variable {line : TerminalBufferLine} {rest : List TerminalBufferLine} {row : Nat}

theorem isWrappedRun_runFrom (h : lines.drop first = line :: rest)
    (hstarts : line.wrapped = false) :
    IsWrappedRun lines first (runFrom (line :: rest))
      (rest.dropWhile TerminalBufferLine.wrapped) where
  rows := by rw [h, runFrom, List.cons_append, List.takeWhile_append_dropWhile]
  startsLine := hstarts
  nonempty := List.cons_ne_nil _ _
  goesOn := fun _ hmem => List.mem_takeWhile_imp hmem
  ends := by
    cases hhead : (rest.dropWhile TerminalBufferLine.wrapped).head? with
    | none => rfl
    | some next => exact head_dropWhile _ rest next hhead

theorem length_takeWhile_wrapped (h : lines.drop first = line :: rest)
    (hrun : ∀ index, first < index → index ≤ row → ∃ line, lines[index]? = some line ∧
      line.wrapped = true) :
    row ≤ first + (rest.takeWhile TerminalBufferLine.wrapped).length := by
  by_contra hlong
  obtain ⟨next, hnext, hwrapped⟩ :=
    hrun (first + ((rest.takeWhile TerminalBufferLine.wrapped).length + 1)) (by omega) (by omega)
  have hhead : (rest.dropWhile TerminalBufferLine.wrapped).head? = some next := by
    have hbehind : (rest.takeWhile TerminalBufferLine.wrapped ++
          rest.dropWhile TerminalBufferLine.wrapped)[
            (rest.takeWhile TerminalBufferLine.wrapped).length]? =
        (rest.dropWhile TerminalBufferLine.wrapped)[0]? := by
      rw [List.getElem?_append_right (Nat.le_refl _), Nat.sub_self]
    rw [List.takeWhile_append_dropWhile] at hbehind
    rw [← List.getElem?_drop, h, List.getElem?_cons_succ] at hnext
    rw [List.head?_eq_getElem?, ← hbehind, hnext]
  rw [head_dropWhile _ rest next hhead] at hwrapped
  cases hwrapped

theorem startsInBuffer_of_run {run after : List TerminalBufferLine}
    (h : IsWrappedRun lines first run after) (hle : first ≤ row) : StartsInBuffer lines row := by
  obtain ⟨line, rest, rfl⟩ := List.exists_cons_of_ne_nil h.nonempty
  refine ⟨first, hle, line, ?_, h.startsLine⟩
  have hget : (lines.drop first)[0]? = some line := by
    rw [h.rows]
    rfl
  rwa [List.getElem?_drop] at hget

theorem linksPointAtText_iff (lines : List TerminalBufferLine) (row : Fin lines.length) :
    LinksPointAtText lines row ↔ StartsInBuffer lines row := by
  obtain ⟨first, startLine, hfound, hstart, hle, hrun, htop⟩ :=
    findStartLine_spec (List.getElem?_eq_getElem row.isLt)
  have hcollected := collectWrappedTerminalLinkLine_eq (List.getElem?_eq_getElem row.isLt) hfound
  obtain ⟨hlength, hget⟩ := List.getElem?_eq_some_iff.mp hstart
  have hdrop : lines.drop first = startLine :: lines.drop (first + 1) := by
    rw [← hget]
    exact List.drop_eq_getElem_cons hlength
  constructor
  · intro hpoints
    have hrun := hpoints.collected
    rw [hcollected] at hrun
    obtain ⟨_, _, _, hwrapped, hbefore, -, -⟩ := hrun
    exact startsInBuffer_of_run hwrapped hbefore
  · rintro ⟨start, hstartLe, line, hline, hunwrapped⟩
    have hstarts : startLine.wrapped = false := by
      by_contra hwrapped
      obtain rfl := htop (by simpa using hwrapped)
      have hsome : ∃ other, lines[start]? = some other ∧ other.wrapped = true := by
        rcases Nat.eq_zero_or_pos start with rfl | hpos
        · exact ⟨startLine, hstart, by simpa using hwrapped⟩
        · exact hrun start hpos hstartLe
      obtain ⟨other, hother, hothers⟩ := hsome
      cases hline.symm.trans hother
      rw [hunwrapped] at hothers
      cases hothers
    have hreach := length_takeWhile_wrapped hdrop hrun
    have hspec := extractTerminalLinks_spec (lineFrom lines first).text
    refine ⟨?_, ?_, ?_, ?_⟩
    · rw [hcollected]
      refine ⟨first, _, _, isWrappedRun_runFrom hdrop hstarts, hle, ?_, isLineOf_lineFrom hdrop⟩
      rw [runFrom, List.length_cons]
      omega
    · intro wrappedLine hwrapped found hlink
      cases hcollected.symm.trans hwrapped
      exact (hspec.1 found hlink).text_eq
    · intro wrappedLine hwrapped
      cases hcollected.symm.trans hwrapped
      exact hspec.2
    · intro wrappedLine hwrapped found hlink
      cases hcollected.symm.trans hwrapped
      have hislink := hspec.1 found hlink
      have hlong := hislink.nonempty
      have hfinish := hislink.finish_eq
      rw [readRange_resolve hdrop (by omega) hislink.inLine, ← hislink.text_eq]

def scrolledOut : List TerminalBufferLine := [⟨some true, ascii "/bc?x=1", 7⟩]

theorem not_linksPointAtText : ¬ LinksPointAtText scrolledOut 0 := by
  intro hpoints
  have hcollected := hpoints.collected
  have hline : collectWrappedTerminalLinkLine scrolledOut 1 =
      some ⟨ascii "/bc?x=1", [⟨1, ascii "/bc?x=1", 0, 7⟩]⟩ := by decide
  rw [hline] at hcollected
  obtain ⟨first, run, after, hrun, hfirst, -, -⟩ := hcollected
  obtain ⟨row, hrow, line, hstarts, hunwrapped⟩ := startsInBuffer_of_run hrun hfirst
  cases Nat.le_zero.mp hrow
  cases hstarts
  cases hunwrapped

end Pointing

end GT3Code.Web
