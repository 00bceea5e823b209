import GT3Code.Base.Ordering
import GT3Code.Base.PatternScan
import GT3Code.Shared.Keybindings

/-! # Links in a terminal

Addresses and paths in a line of text. A link is a slice of the line, and no two of them overlap.
-/

namespace GT3Code.Web

open GT3Code.Base GT3Code.Base.Json GT3Code.Contracts

inductive TerminalLinkKind where
  | url
  | path
  deriving DecidableEq

structure TerminalLinkMatch where
  kind : TerminalLinkKind
  text : Text
  start : Nat
  finish : Nat

/-- `[^\s"'<>]`, without the backtick. -/
def isLinkUnit (u : CodeUnit) : Bool :=
  !Shared.isSpace u && u != 34 && u != 39 && u != 96 && u != 60 && u != 62

def isLetterUnit (u : CodeUnit) : Bool := isLowerLetter (Shared.asciiLower u)

/-- `[A-Za-z0-9._-]` -/
def isNameUnit (u : CodeUnit) : Bool :=
  isLetterUnit u || isDigit u || u == 46 || u == 95 || u == 45

def runLength (p : CodeUnit → Bool) (text : Text) : Nat := (text.takeWhile p).length

def withLinkUnits (text : Text) (length : Nat) : Option Nat :=
  let run := runLength isLinkUnit (text.drop length)
  if run = 0 then none else some (length + run)

/-- `https?:\/\/[^\s"'<>]+` -/
def URL_PATTERN : Pattern CodeUnit := fun text =>
  if (ascii "https://").isPrefixOf text then withLinkUnits text 8
  else if (ascii "http://").isPrefixOf text then withLinkUnits text 7
  else none

/-- `~\/|\.{1,2}\/|\/|[A-Za-z]:[\\/]|\\\\` -/
def rootLength : Text → Option Nat
  | 126 :: 47 :: _ => some 2
  | 46 :: 47 :: _ => some 2
  | 46 :: 46 :: 47 :: _ => some 3
  | 47 :: _ => some 1
  | 92 :: 92 :: _ => some 2
  | letter :: 58 :: separator :: _ =>
    if isLetterUnit letter ∧ (separator = 92 ∨ separator = 47) then some 3 else none
  | _ => none

/-- `(?:\/[A-Za-z0-9._-]+)*`, with enough rounds for the text. -/
def partsLength : Nat → Text → Nat
  | rounds + 1, 47 :: rest =>
    let name := runLength isNameUnit rest
    if name = 0 then 0 else 1 + name + partsLength rounds (rest.drop name)
  | _, _ => 0

/-- `(?::\d+)?` -/
def positionLength : Text → Nat
  | 58 :: rest =>
    let digits := runLength isDigit rest
    if digits = 0 then 0 else 1 + digits
  | _ => 0

/-- `[A-Za-z0-9._-]+(?:\/[A-Za-z0-9._-]+)+(?::\d+){0,2}` -/
def namedPath (text : Text) : Option Nat :=
  let name := runLength isNameUnit text
  let parts := partsLength text.length (text.drop name)
  if name = 0 ∨ parts = 0 then none
  else
    let line := positionLength (text.drop (name + parts))
    let column := if line = 0 then 0 else positionLength (text.drop (name + parts + line))
    some (name + parts + line + column)

def FILE_PATH_PATTERN : Pattern CodeUnit := fun text =>
  ((rootLength text).bind (withLinkUnits text)).or (namedPath text)

/-- `[.,;!?]` -/
def isTrailingPunctuation (u : CodeUnit) : Bool :=
  u == 46 || u == 44 || u == 59 || u == 33 || u == 63

/-- The text read from its end, without closing delimiters that nothing opens. -/
def trimUnbalancedEnd (opening closing : CodeUnit) : Text → Text
  | [] => []
  | u :: rest =>
    if u = closing ∧ (u :: rest).count opening < (u :: rest).count closing then
      trimUnbalancedEnd opening closing rest
    else u :: rest

def trimUnbalanced (opening closing : CodeUnit) (output : Text) : Text :=
  (trimUnbalancedEnd opening closing output.reverse).reverse

def trimClosingDelimiters (value : Text) : Text :=
  let output := value.rdropWhile isTrailingPunctuation
  if output.length = 0 then output
  else trimUnbalanced 123 125 (trimUnbalanced 91 93 (trimUnbalanced 40 41 output))

/-- `/^https?:\/\//i` -/
def startsAsUrl (value : Text) : Bool :=
  (ascii "https://").isPrefixOf (value.map Shared.asciiLower) ||
    (ascii "http://").isPrefixOf (value.map Shared.asciiLower)

def overlaps (a b : TerminalLinkMatch) : Bool := a.start < b.finish ∧ b.start < a.finish

def collectMatch (kind : TerminalLinkKind) (existing found : List TerminalLinkMatch)
    (rawMatch : Nat × Text) : List TerminalLinkMatch :=
  let trimmed := trimClosingDelimiters rawMatch.2
  if rawMatch.2.length = 0 ∨ trimmed.length = 0 ∨ (kind = .path ∧ startsAsUrl trimmed) then found
  else
    let candidate : TerminalLinkMatch :=
      { kind, text := trimmed, start := rawMatch.1, finish := rawMatch.1 + trimmed.length }
    if (existing ++ found).any (overlaps candidate) then found else found ++ [candidate]

def collectMatches (line : Text) (kind : TerminalLinkKind) (pattern : Pattern CodeUnit)
    (existing : List TerminalLinkMatch) : List TerminalLinkMatch :=
  (matchAll pattern line).foldl (collectMatch kind existing) []

def extractTerminalLinks (line : Text) : List TerminalLinkMatch :=
  let urlMatches := collectMatches line .url URL_PATTERN []
  let pathMatches := collectMatches line .path FILE_PATH_PATTERN urlMatches
  toSorted (byKey TerminalLinkMatch.start) (urlMatches ++ pathMatches)

theorem trimUnbalancedEnd_suffix (opening closing : CodeUnit) (text : Text) :
    trimUnbalancedEnd opening closing text <:+ text := by
  induction text with
  | nil => exact List.suffix_rfl
  | cons u rest ih =>
    unfold trimUnbalancedEnd
    split
    · exact ih.trans (List.suffix_cons u rest)
    · exact List.suffix_rfl

theorem isPrefix_trimUnbalanced (opening closing : CodeUnit) (text : Text) :
    trimUnbalanced opening closing text <+: text := by
  have hsuffix := trimUnbalancedEnd_suffix opening closing text.reverse
  rw [← List.reverse_prefix, List.reverse_reverse] at hsuffix
  exact hsuffix

theorem isPrefix_trimClosingDelimiters (value : Text) : trimClosingDelimiters value <+: value := by
  have hpunctuation := List.rdropWhile_prefix isTrailingPunctuation (l := value)
  unfold trimClosingDelimiters
  dsimp only
  split
  · exact hpunctuation
  · exact ((isPrefix_trimUnbalanced ..).trans (isPrefix_trimUnbalanced ..)).trans
      ((isPrefix_trimUnbalanced ..).trans hpunctuation)

structure IsLink (line : Text) (found : TerminalLinkMatch) : Prop where
  text_eq : found.text = slice found.start found.finish line
  finish_eq : found.finish = found.start + found.text.length
  nonempty : 0 < found.text.length
  inLine : found.finish ≤ line.length

structure LinksOk (line : Text) (links : List TerminalLinkMatch) : Prop where
  isLink : ∀ found ∈ links, IsLink line found
  apart : links.Pairwise (fun a b => overlaps a b = false)

variable {line : Text}

variable {kind : TerminalLinkKind} {existing : List TerminalLinkMatch}

theorem isLink_of_match {raw trimmed : Text} {start : Nat} (hmatch : raw <+: line.drop start)
    (htrimmed : trimmed <+: raw) (hlength : trimmed.length ≠ 0) :
    IsLink line { kind, text := trimmed, start, finish := start + trimmed.length } := by
  have hprefix : trimmed <+: line.drop start := htrimmed.trans hmatch
  refine ⟨eq_slice_of_isPrefix hprefix, rfl, Nat.pos_of_ne_zero hlength, ?_⟩
  have hle := hprefix.length_le
  rw [List.length_drop] at hle
  dsimp only
  omega

theorem overlaps_comm (a b : TerminalLinkMatch) : overlaps a b = overlaps b a := by
  simp only [overlaps, and_comm]

theorem linksOk_collectMatch {found : List TerminalLinkMatch} {rawMatch : Nat × Text}
    (h : LinksOk line (existing ++ found)) (hraw : rawMatch.2 <+: line.drop rawMatch.1) :
    LinksOk line (existing ++ collectMatch kind existing found rawMatch) := by
  unfold collectMatch
  dsimp only
  split
  · exact h
  · rename_i hkept
    split
    · exact h
    · rename_i hfree
      have hlink := @isLink_of_match _ kind _ _ _ hraw (isPrefix_trimClosingDelimiters rawMatch.2)
        (fun hlength => hkept (Or.inr (Or.inl hlength)))
      rw [← List.append_assoc]
      refine ⟨?_, ?_⟩
      · intro other hother
        rcases List.mem_append.mp hother with hold | hnew
        · exact h.isLink other hold
        · exact List.mem_singleton.mp hnew ▸ hlink
      · refine List.pairwise_append.mpr ⟨h.apart, List.pairwise_singleton _ _, ?_⟩
        intro other hother candidate hcandidate
        rw [List.mem_singleton.mp hcandidate, overlaps_comm]
        simpa using List.any_eq_false.mp (Bool.not_eq_true _ ▸ hfree) other hother

theorem linksOk_collectMatches (h : LinksOk line existing) (kind : TerminalLinkKind)
    (pattern : Pattern CodeUnit) :
    LinksOk line (existing ++ collectMatches line kind pattern existing) := by
  have hstart : LinksOk line (existing ++ []) := by rwa [List.append_nil]
  exact List.foldlRecOn (motive := fun found => LinksOk line (existing ++ found)) _ _ hstart
    (fun found hfound rawMatch hraw => linksOk_collectMatch hfound (mem_matchAll hraw))

theorem extractTerminalLinks_spec (line : Text) :
    (∀ found ∈ extractTerminalLinks line, IsLink line found) ∧
      (extractTerminalLinks line).Pairwise (fun a b => a.finish ≤ b.start) := by
  have hnone : LinksOk line [] := ⟨fun _ hmem => absurd hmem List.not_mem_nil, List.Pairwise.nil⟩
  have hurls := linksOk_collectMatches hnone .url URL_PATTERN
  have hlinks := linksOk_collectMatches hurls .path FILE_PATH_PATTERN
  have hlink : ∀ found ∈ extractTerminalLinks line, IsLink line found :=
    fun found hfound => hlinks.isLink found (mem_toSorted.mp hfound)
  have hsorted := (rankedBy_byKey TerminalLinkMatch.start).pairwise_toSorted
    (collectMatches line .url URL_PATTERN [] ++
      collectMatches line .path FILE_PATH_PATTERN (collectMatches line .url URL_PATTERN []))
  have hapart : (extractTerminalLinks line).Pairwise (fun a b => overlaps a b = false) :=
    ((toSorted_perm _ _).pairwise_iff (fun {a b} h => (overlaps_comm b a).trans h)).mpr hlinks.apart
  refine ⟨hlink, (hsorted.and hapart).imp_of_mem (fun {a b} ha hb hboth => ?_)⟩
  have hfirst := hlink a ha
  have hsecond := hlink b hb
  obtain ⟨hle, hfree⟩ := hboth
  simp only [overlaps, decide_eq_false_iff_not, not_and, not_lt] at hfree
  have hreach := hsecond.finish_eq
  have hlong := hsecond.nonempty
  exact hfree (by omega)

end GT3Code.Web
