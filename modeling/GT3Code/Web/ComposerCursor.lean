import GT3Code.Base.FoldedText
import GT3Code.Web.ComposerSegments
import Mathlib.Data.Rat.Floor

/-! # Cursors of the composer

In the composer every token of a prompt is one character. A collapsed cursor counts the characters
the composer shows, an expanded one those of the prompt.
-/

namespace GT3Code.Web

open GT3Code.Base GT3Code.Base.Json GT3Code.Contracts

variable {Context : Type}

/-- `splitPromptIntoComposerSegments(text)`: no terminal contexts are passed. -/
def composerSegments (text : Text) : List (ComposerPromptSegment Empty) :=
  splitPromptIntoComposerSegments text []

def isInlineTokenSegment (segment : ComposerPromptSegment Context) : Bool := !segment.isText

/-- A cursor that is not a finite number is `none`. -/
def clampCursor (text : Text) : Option ℚ → Nat
  | none => text.length
  | some cursor => (max 0 (min (text.length : ℤ) ⌊cursor⌋)).toNat

/-- The loop of `expandCollapsedComposerCursor`. -/
def expandSegments :
    List (ComposerPromptSegment Context) → (remaining expandedCursor : Nat) → Nat
  | [], _, expandedCursor => expandedCursor
  | .mention path :: segments, remaining, expandedCursor =>
    let expandedLength := path.length + 1
    if remaining ≤ 1 then expandedCursor + if remaining = 0 then 0 else expandedLength
    else expandSegments segments (remaining - 1) (expandedCursor + expandedLength)
  | .skill name :: segments, remaining, expandedCursor =>
    let expandedLength := name.length + 1
    if remaining ≤ 1 then expandedCursor + if remaining = 0 then 0 else expandedLength
    else expandSegments segments (remaining - 1) (expandedCursor + expandedLength)
  | .terminalContext _ :: segments, remaining, expandedCursor =>
    if remaining ≤ 1 then expandedCursor + remaining
    else expandSegments segments (remaining - 1) (expandedCursor + 1)
  | .text text :: segments, remaining, expandedCursor =>
    let segmentLength := text.length
    if remaining ≤ segmentLength then expandedCursor + remaining
    else expandSegments segments (remaining - segmentLength) (expandedCursor + segmentLength)

def expandCollapsedComposerCursor (text : Text) (cursorInput : Option ℚ) : Nat :=
  let collapsedCursor := clampCursor text cursorInput
  let segments := composerSegments text
  if segments.length = 0 then collapsedCursor else expandSegments segments collapsedCursor 0

def collapsedSegmentLength : ComposerPromptSegment Context → Nat
  | .text text => text.length
  | _ => 1

def clampCollapsedComposerCursorForSegments (segments : List (ComposerPromptSegment Context))
    (cursorInput : Option ℚ) : Nat :=
  let collapsedLength := segments.foldl
    (fun total segment => total + collapsedSegmentLength segment) 0
  match cursorInput with
  | none => collapsedLength
  | some cursor => (max 0 (min (collapsedLength : ℤ) ⌊cursor⌋)).toNat

def clampCollapsedComposerCursor (text : Text) (cursorInput : Option ℚ) : Nat :=
  clampCollapsedComposerCursorForSegments (composerSegments text) cursorInput

/-- The loop of `collapseExpandedComposerCursor`. -/
def collapseSegments :
    List (ComposerPromptSegment Context) → (remaining collapsedCursor : Nat) → Nat
  | [], _, collapsedCursor => collapsedCursor
  | .mention path :: segments, remaining, collapsedCursor =>
    let expandedLength := path.length + 1
    if remaining = 0 then collapsedCursor
    else if remaining ≤ expandedLength then collapsedCursor + 1
    else collapseSegments segments (remaining - expandedLength) (collapsedCursor + 1)
  | .skill name :: segments, remaining, collapsedCursor =>
    let expandedLength := name.length + 1
    if remaining = 0 then collapsedCursor
    else if remaining ≤ expandedLength then collapsedCursor + 1
    else collapseSegments segments (remaining - expandedLength) (collapsedCursor + 1)
  | .terminalContext _ :: segments, remaining, collapsedCursor =>
    if remaining ≤ 1 then collapsedCursor + remaining
    else collapseSegments segments (remaining - 1) (collapsedCursor + 1)
  | .text text :: segments, remaining, collapsedCursor =>
    let segmentLength := text.length
    if remaining ≤ segmentLength then collapsedCursor + remaining
    else collapseSegments segments (remaining - segmentLength) (collapsedCursor + segmentLength)

def collapseExpandedComposerCursor (text : Text) (cursorInput : Option ℚ) : Nat :=
  let expandedCursor := clampCursor text cursorInput
  let segments := composerSegments text
  if segments.length = 0 then expandedCursor else collapseSegments segments expandedCursor 0

/-- A cursor is strictly inside a token that ends at `finish`. -/
def InsideToken (segments : List (ComposerPromptSegment Context)) (cursor finish : Nat) : Prop :=
  ∃ before token after, segments = before ++ token :: after ∧ isInlineTokenSegment token = true ∧
    (sourceOf before).length < cursor ∧ cursor < finish ∧
    finish = (sourceOf before).length + token.source.length

structure ConvertsWithoutLoss (text : Text) : Prop where
  tiles : ∀ (Context : Type) (terminalContexts : List Context),
    sourceOf (splitPromptIntoComposerSegments text terminalContexts) = text
  collapse_expand : ∀ cursor : Option ℚ,
    collapseExpandedComposerCursor text (some (expandCollapsedComposerCursor text cursor)) =
      clampCollapsedComposerCursor text cursor
  expand_collapse : ∀ cursor : Nat, cursor ≤ text.length →
    (∀ finish, ¬ InsideToken (composerSegments text) cursor finish) →
      expandCollapsedComposerCursor text (some (collapseExpandedComposerCursor text (some cursor))) =
        cursor
  expand_collapse_inside : ∀ cursor finish : Nat,
    InsideToken (composerSegments text) cursor finish →
      expandCollapsedComposerCursor text (some (collapseExpandedComposerCursor text (some cursor))) =
        finish
  expand_mono : Monotone (fun cursor : ℚ => expandCollapsedComposerCursor text (some cursor))
  collapse_mono : Monotone (fun cursor : ℚ => collapseExpandedComposerCursor text (some cursor))

/-! ## Segments as pieces -/

def ComposerPromptSegment.piece : ComposerPromptSegment Context → Folded.Piece
  | .text content => .plain content.length
  | .mention path => .folded path.length
  | .skill name => .folded name.length
  | .terminalContext _ => .folded 0

def piecesOf (segments : List (ComposerPromptSegment Context)) : List Folded.Piece :=
  segments.map ComposerPromptSegment.piece

theorem length_piece (segment : ComposerPromptSegment Context) :
    segment.piece.length = segment.source.length := by
  cases segment <;> rfl

theorem shown_piece (segment : ComposerPromptSegment Context) :
    segment.piece.shown = collapsedSegmentLength segment := by
  cases segment <;> rfl

theorem length_piecesOf (segments : List (ComposerPromptSegment Context)) :
    Folded.length (piecesOf segments) = (sourceOf segments).length := by
  induction segments with
  | nil => rfl
  | cons segment segments ih =>
    rw [piecesOf, List.map_cons, Folded.length, ← piecesOf, ih, length_piece, sourceOf_cons,
      List.length_append]

theorem foldl_collapsedSegmentLength (segments : List (ComposerPromptSegment Context))
    (total : Nat) :
    segments.foldl (fun total segment => total + collapsedSegmentLength segment) total =
      total + Folded.shown (piecesOf segments) := by
  induction segments generalizing total with
  | nil => rfl
  | cons segment segments ih =>
    rw [List.foldl_cons, ih, piecesOf, piecesOf, List.map_cons, Folded.shown, shown_piece]
    omega

theorem expandSegments_eq (segments : List (ComposerPromptSegment Context))
    (remaining expandedCursor : Nat) :
    expandSegments segments remaining expandedCursor =
      expandedCursor + Folded.expand (piecesOf segments) remaining := by
  induction segments generalizing remaining expandedCursor with
  | nil => rfl
  | cons segment segments ih =>
    have htoken : ∀ more, (if remaining ≤ 1 then
        expandedCursor + if remaining = 0 then 0 else more + 1
        else expandSegments segments (remaining - 1) (expandedCursor + (more + 1))) =
        expandedCursor + Folded.expand (.folded more :: piecesOf segments) remaining := by
      intro more
      cases remaining with
      | zero => rfl
      | succ remaining =>
        cases remaining with
        | zero => simp [Folded.expand]
        | succ remaining =>
          rw [if_neg (by omega), Nat.add_sub_cancel, ih, Folded.expand]
          omega
    cases segment with
    | mention path => exact htoken path.length
    | skill name => exact htoken name.length
    | terminalContext context =>
      refine Eq.trans ?_ (htoken 0)
      rw [expandSegments]
      split_ifs
      · omega
      · omega
      · rfl
    | text content =>
      change (if remaining ≤ content.length then expandedCursor + remaining
        else expandSegments segments (remaining - content.length)
          (expandedCursor + content.length)) =
        expandedCursor + (min remaining content.length +
          Folded.expand (piecesOf segments) (remaining - content.length))
      split_ifs with hle
      · rw [Nat.sub_eq_zero_of_le hle, Folded.expand_zero]
        omega
      · rw [ih]
        omega

theorem collapseSegments_eq (segments : List (ComposerPromptSegment Context))
    (remaining collapsedCursor : Nat) :
    collapseSegments segments remaining collapsedCursor =
      collapsedCursor + Folded.collapse (piecesOf segments) remaining := by
  induction segments generalizing remaining collapsedCursor with
  | nil => rfl
  | cons segment segments ih =>
    have htoken : ∀ more, (if remaining = 0 then collapsedCursor
        else if remaining ≤ more + 1 then collapsedCursor + 1
        else collapseSegments segments (remaining - (more + 1)) (collapsedCursor + 1)) =
        collapsedCursor + Folded.collapse (.folded more :: piecesOf segments) remaining := by
      intro more
      cases remaining with
      | zero => rfl
      | succ remaining =>
        rw [if_neg (Nat.succ_ne_zero remaining), Folded.collapse]
        split_ifs with hle
        · rw [Nat.sub_eq_zero_of_le (Nat.le_of_succ_le_succ hle), Folded.collapse_zero]
        · rw [ih, Nat.succ_sub_succ]
          omega
    cases segment with
    | mention path => exact htoken path.length
    | skill name => exact htoken name.length
    | terminalContext context =>
      refine Eq.trans ?_ (htoken 0)
      rw [collapseSegments]
      split_ifs
      · omega
      · omega
      · omega
      · rfl
    | text content =>
      change (if remaining ≤ content.length then collapsedCursor + remaining
        else collapseSegments segments (remaining - content.length)
          (collapsedCursor + content.length)) =
        collapsedCursor + (min remaining content.length +
          Folded.collapse (piecesOf segments) (remaining - content.length))
      split_ifs with hle
      · rw [Nat.sub_eq_zero_of_le hle, Folded.collapse_zero]
        omega
      · rw [ih]
        omega

def composerPieces (text : Text) : List Folded.Piece := piecesOf (composerSegments text)

theorem length_composerPieces (text : Text) : Folded.length (composerPieces text) = text.length := by
  rw [composerPieces, length_piecesOf, composerSegments, sourceOf_splitPrompt]

variable {text : Text} {segments : List (ComposerPromptSegment Context)} {finish : Nat}

theorem clampCursor_eq_zero (h : (composerSegments text).length = 0) (cursor : Option ℚ) :
    clampCursor text cursor = 0 := by
  have hlength : text.length = 0 := by
    rw [← length_composerPieces, composerPieces, List.length_eq_zero_iff.mp h]
    rfl
  cases cursor with
  | none => exact hlength
  | some cursor =>
    rw [clampCursor]
    omega

theorem expandCollapsedComposerCursor_eq (text : Text) (cursor : Option ℚ) :
    expandCollapsedComposerCursor text cursor =
      Folded.expand (composerPieces text) (clampCursor text cursor) := by
  rw [expandCollapsedComposerCursor]
  split_ifs with hempty
  · rw [clampCursor_eq_zero hempty, Folded.expand_zero]
  · rw [expandSegments_eq, Nat.zero_add, composerPieces]

theorem collapseExpandedComposerCursor_eq (text : Text) (cursor : Option ℚ) :
    collapseExpandedComposerCursor text cursor =
      Folded.collapse (composerPieces text) (clampCursor text cursor) := by
  rw [collapseExpandedComposerCursor]
  split_ifs with hempty
  · rw [clampCursor_eq_zero hempty, Folded.collapse_zero]
  · rw [collapseSegments_eq, Nat.zero_add, composerPieces]

variable {cursor : Nat}

theorem clampCursor_natCast (h : cursor ≤ text.length) :
    clampCursor text (some cursor) = cursor := by
  rw [clampCursor, Int.floor_natCast]
  omega

theorem clampCursor_mono (text : Text) :
    Monotone (fun cursor : ℚ => clampCursor text (some cursor)) := by
  intro left right hle
  have hfloor := Int.floor_le_floor hle
  simp only [clampCursor]
  omega

theorem clampCollapsedComposerCursor_eq (text : Text) (cursor : Option ℚ) :
    clampCollapsedComposerCursor text cursor =
      min (clampCursor text cursor) (Folded.shown (composerPieces text)) := by
  have hle := Folded.shown_le_length (composerPieces text)
  rw [length_composerPieces] at hle
  have hshown := foldl_collapsedSegmentLength (composerSegments text) 0
  rw [Nat.zero_add, ← composerPieces] at hshown
  cases cursor with
  | none =>
    rw [clampCollapsedComposerCursor, clampCollapsedComposerCursorForSegments, hshown]
    exact (Nat.min_eq_right hle).symm
  | some cursor =>
    rw [clampCollapsedComposerCursor, clampCollapsedComposerCursorForSegments, hshown]
    simp only [clampCursor]
    omega

theorem InsideToken.inside (h : InsideToken segments cursor finish) :
    Folded.Inside (piecesOf segments) cursor finish := by
  obtain ⟨before, token, after, rfl, htoken, hstart, hend, rfl⟩ := h
  induction before generalizing cursor with
  | nil =>
    rw [sourceOf_nil, List.length_nil, Nat.zero_add] at hend ⊢
    cases token with
    | text content => cases htoken
    | mention | skill | terminalContext => exact Folded.Inside.here hstart hend
  | cons segment before ih =>
    rw [sourceOf_cons, List.length_append] at hstart hend ⊢
    obtain ⟨rest, rfl⟩ := Nat.exists_eq_add_of_le
      (show segment.source.length ≤ cursor by omega)
    have hlater := ih (show (sourceOf before).length < rest by omega)
      (show rest < (sourceOf before).length + token.source.length by omega)
    rw [Nat.add_assoc, ← length_piece]
    exact Folded.Inside.later hlater

theorem insideToken_of_inside (h : Folded.Inside (piecesOf segments) cursor finish) :
    InsideToken segments cursor finish := by
  induction segments generalizing cursor finish with
  | nil => cases h
  | cons segment segments ih =>
    rw [piecesOf, List.map_cons] at h
    generalize hpiece : segment.piece = piece at h
    cases h with
    | here hstart hend =>
      have hlength := length_piece segment
      rw [hpiece] at hlength
      have htoken : isInlineTokenSegment segment = true := by
        cases segment with
        | text content => cases hpiece
        | _ => rfl
      exact ⟨[], segment, segments, rfl, htoken, hstart, hend,
        hlength.trans (Nat.zero_add _).symm⟩
    | later hlater =>
      obtain ⟨before, token, after, rfl, htoken, hstart, hend, rfl⟩ := ih hlater
      have hbefore : (sourceOf (segment :: before)).length =
          segment.source.length + (sourceOf before).length := by
        rw [sourceOf_cons, List.length_append]
      rw [← hpiece, length_piece]
      exact ⟨segment :: before, token, after, rfl, htoken, by omega, by omega, by omega⟩

/-- Cursors of the composer convert without loss. -/
theorem composerCursors_convert (text : Text) : ConvertsWithoutLoss text := by
  have hexpand : ∀ cursor, expandCollapsedComposerCursor text
      (some (collapseExpandedComposerCursor text (some (cursor : ℕ)))) =
        Folded.expand (composerPieces text)
          (Folded.collapse (composerPieces text) (clampCursor text (some (cursor : ℕ)))) := by
    intro cursor
    have hle := (Folded.collapse_le_shown (composerPieces text)
      (clampCursor text (some cursor))).trans (Folded.shown_le_length _)
    rw [length_composerPieces] at hle
    rw [expandCollapsedComposerCursor_eq, collapseExpandedComposerCursor_eq,
      clampCursor_natCast hle]
  refine ⟨fun _ terminalContexts => sourceOf_splitPrompt text terminalContexts, fun cursor => ?_,
    fun cursor hcursor houtside => ?_, fun cursor finish hinside => ?_, ?_, ?_⟩
  · have hle := Folded.expand_le_length (composerPieces text) (clampCursor text cursor)
    rw [length_composerPieces] at hle
    rw [collapseExpandedComposerCursor_eq, expandCollapsedComposerCursor_eq,
      clampCursor_natCast hle, Folded.collapse_expand, clampCollapsedComposerCursor_eq]
  · rw [hexpand, clampCursor_natCast hcursor]
    exact Folded.expand_collapse_of_not_inside
      (fun finish hinside => houtside finish (insideToken_of_inside hinside))
      ((length_composerPieces text).symm ▸ hcursor)
  · have hin : Folded.Inside (composerPieces text) cursor finish := hinside.inside
    have hcursor := hin.lt.le.trans hin.le_length
    rw [length_composerPieces] at hcursor
    rw [hexpand, clampCursor_natCast hcursor]
    exact Folded.expand_collapse_of_inside hin
  · intro left right hle
    simp only [expandCollapsedComposerCursor_eq]
    exact Folded.expand_mono _ (clampCursor_mono text hle)
  · intro left right hle
    simp only [collapseExpandedComposerCursor_eq]
    exact Folded.collapse_mono _ (clampCursor_mono text hle)

/-- The mention is one character of the composer; a cursor inside it moves behind it. -/
example : collapseExpandedComposerCursor (ascii "a @bcd e") (some 4) = 3 ∧
    expandCollapsedComposerCursor (ascii "a @bcd e") (some 3) = 6 := by
  decide +kernel

end GT3Code.Web
