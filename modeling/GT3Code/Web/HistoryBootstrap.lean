import GT3Code.Base.FreshNames
import GT3Code.Base.GreedySearch
import Mathlib.Data.Rat.Floor

/-! # The history prompt

A conversation goes on in another session with a transcript of its newest messages before the
prompt. Messages are taken from the newest on while the text fits, with a note of how many are
left out.
-/

namespace GT3Code.Web

open GT3Code.Base GT3Code.Base.Json

structure ChatAttachment where
  type : Text
  name : Text

inductive ChatRole where
  | user
  | assistant
  | system
  deriving DecidableEq

structure HistoryMessage where
  role : ChatRole
  text : Text
  attachments : Option (List ChatAttachment)

structure BootstrapInputResult where
  text : Text
  includedCount : Nat
  omittedCount : Nat
  truncated : Bool

def BOOTSTRAP_PREAMBLE : Text :=
  ascii "Continue this conversation using the transcript context below. The final section is the latest user request to answer now."

def TRANSCRIPT_HEADER : Text := ascii "Transcript context:"

def LATEST_PROMPT_HEADER : Text := ascii "Latest user request (answer this now):"

def OMITTED_SUMMARY (count : Nat) : Text :=
  ascii "[" ++ decimal count ++ ascii " earlier message(s) omitted to stay within input limits.]"

def messageRoleLabel (message : HistoryMessage) : Text :=
  if message.role = .assistant then ascii "ASSISTANT" else ascii "USER"

def attachmentSummary (message : HistoryMessage) : Option Text :=
  let imageAttachments := message.attachments.map fun attachments =>
    attachments.filter fun attachment => attachment.type == ascii "image"
  let count := (imageAttachments.map List.length).getD 0
  if count = 0 then none
  else
    let names := (imageAttachments.map fun images => (images.take 3).map ChatAttachment.name).getD []
    let namesSummary := (ascii ", ").intercalate names
    let extraCount := count - names.length
    let extraSummary :=
      if extraCount > 0 then ascii " (+" ++ decimal extraCount ++ ascii " more)" else []
    some (ascii "[Attached image" ++ (if count = 1 then [] else ascii "s") ++ ascii ": " ++
      namesSummary ++ extraSummary ++ ascii "]")

def buildMessageBlock (message : HistoryMessage) : Text :=
  let label := messageRoleLabel message ++ ascii ":\n"
  match message.text, attachmentSummary message with
  | [], none => label ++ ascii "(empty message)"
  | [], some attachments => label ++ attachments
  | text, none => label ++ text
  | text, some attachments => label ++ text ++ ascii "\n" ++ attachments

def bootstrapText (transcriptBody latestPrompt : Text) : Text :=
  BOOTSTRAP_PREAMBLE ++ ascii "\n\n" ++ TRANSCRIPT_HEADER ++ ascii "\n" ++ transcriptBody ++
    ascii "\n\n" ++ LATEST_PROMPT_HEADER ++ ascii "\n" ++ latestPrompt

def finalizeWithPrompt (transcriptBody latestPrompt : Text) (maxChars : Nat) : Option Text :=
  let text := bootstrapText transcriptBody latestPrompt
  if text.length ≤ maxChars then some text else none

def transcriptBody (total : Nat) (includedChronological : List Text) : Text :=
  let omittedCount := total - includedChronological.length
  if omittedCount > 0 then
    if includedChronological.length > 0 then
      OMITTED_SUMMARY omittedCount ++ ascii "\n\n" ++
        (ascii "\n\n").intercalate includedChronological
    else OMITTED_SUMMARY omittedCount
  else (ascii "\n\n").intercalate includedChronological

section

variable (total : Nat) (latestPrompt : Text) (budget : Nat)

/-- The first loop, whose list is never empty where it is finalized. -/
def includeNewest : List Text → List Text → List Text
  | includedNewestFirst, [] => includedNewestFirst
  | includedNewestFirst, block :: blocks =>
    let nextNewestFirst := includedNewestFirst ++ [block]
    let finalized :=
      finalizeWithPrompt (transcriptBody total nextNewestFirst.reverse) latestPrompt budget
    if finalized.isNone then includedNewestFirst else includeNewest nextNewestFirst blocks

def finalizeIncluded (promptOnly : Text) (includedChronological : List Text) :
    Option BootstrapInputResult :=
  let omittedCount := total - includedChronological.length
  (finalizeWithPrompt (transcriptBody total includedChronological) latestPrompt budget).map
    fun finalized =>
      { text := finalized
        includedCount := includedChronological.length
        omittedCount := omittedCount
        truncated := omittedCount > 0 || latestPrompt.length ≠ promptOnly.length }

/-- The second loop, which drops the oldest block until the text fits. -/
def finalizeNewest (messageCount : Nat) (promptOnly : Text) : List Text → BootstrapInputResult
  | [] =>
    (finalizeIncluded total latestPrompt budget promptOnly []).getD
      { text := promptOnly, includedCount := 0, omittedCount := messageCount, truncated := true }
  | block :: rest =>
    (finalizeIncluded total latestPrompt budget promptOnly (block :: rest)).getD
      (finalizeNewest messageCount promptOnly rest)

end

/-- A number from one on, `⊤` for `Infinity`. -/
abbrev CharLimit := WithTop ℚ

def charBudget : CharLimit → Nat
  | some maxChars => (max 1 ⌊maxChars⌋).toNat
  | none => 1

def buildBootstrapInput (previousMessages : List HistoryMessage) (latestPrompt : Text)
    (maxChars : CharLimit) : BootstrapInputResult :=
  let budget := charBudget maxChars
  let promptOnly :=
    if latestPrompt.length ≤ budget then latestPrompt else latestPrompt.take budget
  if previousMessages.length = 0 then
    { text := promptOnly
      includedCount := 0
      omittedCount := 0
      truncated := promptOnly.length ≠ latestPrompt.length }
  else
    let newestFirstBlocks := previousMessages.reverse.map buildMessageBlock
    if newestFirstBlocks.length = 0 then
      { text := promptOnly
        includedCount := 0
        omittedCount := previousMessages.length
        truncated := true }
    else
      let includedNewestFirst :=
        includeNewest newestFirstBlocks.length latestPrompt budget [] newestFirstBlocks
      finalizeNewest newestFirstBlocks.length latestPrompt budget previousMessages.length promptOnly
        includedNewestFirst.reverse

/-! ## What fits -/

/-- The text with the newest `count` messages. -/
def newestBlocks (messages : List HistoryMessage) (count : Nat) : List Text :=
  (messages.map buildMessageBlock).drop (messages.length - count)

def finishedText (messages : List HistoryMessage) (latestPrompt : Text) (count : Nat) : Text :=
  bootstrapText (transcriptBody messages.length (newestBlocks messages count)) latestPrompt

def FitsLimit (maxChars : CharLimit) (text : Text) : Prop :=
  match maxChars with
  | some limit => (text.length : Int) ≤ ⌊limit⌋
  | none => True

/-- The text is within the limit, and with the most of the newest messages that leave it there. -/
structure LongestFitting (messages : List HistoryMessage) (latestPrompt : Text) (maxChars : CharLimit)
    (result : BootstrapInputResult) : Prop where
  bounded : FitsLimit maxChars result.text
  counted : messages ≠ [] → result.includedCount + result.omittedCount = messages.length
  truncated : messages ≠ [] →
    (result.truncated = true ↔ 0 < result.omittedCount ∨ ¬FitsLimit maxChars latestPrompt)
  longest : messages ≠ [] →
    (∃ count ≤ messages.length, FitsLimit maxChars (finishedText messages latestPrompt count)) →
      IsGreatest {count | count ≤ messages.length ∧
        FitsLimit maxChars (finishedText messages latestPrompt count)} result.includedCount ∧
      result.text = finishedText messages latestPrompt result.includedCount

section

variable {messages : List HistoryMessage} {latestPrompt : Text} {budget : Nat}

variable {count : Nat}

theorem length_newestBlocks (h : count ≤ messages.length) :
    (newestBlocks messages count).length = count := by
  rw [newestBlocks, List.length_drop, List.length_map]
  omega

theorem newestBlocks_succ (h : count < messages.length) :
    ∃ block, newestBlocks messages (count + 1) = block :: newestBlocks messages count := by
  have hindex : messages.length - (count + 1) < (messages.map buildMessageBlock).length := by
    rw [List.length_map]
    omega
  refine ⟨(messages.map buildMessageBlock)[messages.length - (count + 1)], ?_⟩
  rw [newestBlocks, newestBlocks, List.drop_eq_getElem_cons hindex]
  congr 2
  omega

theorem reverse_take_newestFirst (count : Nat) :
    ((messages.reverse.map buildMessageBlock).take count).reverse = newestBlocks messages count := by
  rw [List.map_reverse, List.take_reverse, List.reverse_reverse, List.length_map, newestBlocks]

/-! ### Lengths -/

theorem length_intercalate (separator : Text) {blocks : List Text} (h : blocks ≠ []) :
    (separator.intercalate blocks).length + separator.length =
      (blocks.map fun block => block.length + separator.length).sum := by
  induction blocks with
  | nil => exact absurd rfl h
  | cons block rest ih =>
    cases rest with
    | nil => simp
    | cons next rest =>
      have hrest := ih (List.cons_ne_nil next rest)
      rw [List.intercalate_cons_cons, List.map_cons, List.sum_cons, ← hrest]
      simp only [List.length_append]
      omega

theorem length_transcriptBody (h : count < messages.length) :
    (transcriptBody messages.length (newestBlocks messages count)).length =
      (OMITTED_SUMMARY (messages.length - count)).length +
        ((newestBlocks messages count).map fun block => block.length + 2).sum := by
  have hlength := length_newestBlocks h.le
  unfold transcriptBody
  rw [hlength, if_pos (by omega)]
  cases hblocks : newestBlocks messages count with
  | nil =>
    rw [hblocks] at hlength
    rw [if_neg (by simp [← hlength])]
    simp
  | cons block rest =>
    have hjoin := length_intercalate (ascii "\n\n") (List.cons_ne_nil block rest)
    have htwo : (ascii "\n\n").length = 2 := rfl
    rw [hblocks] at hlength
    rw [if_pos (by simp [← hlength]), List.length_append, List.length_append]
    rw [htwo] at hjoin ⊢
    omega

theorem length_decimal_succ (n : Nat) : (decimal (n + 1)).length ≤ (decimal n).length + 1 := by
  have hlength : ∀ m, (decimal m).length = m.repr.length := by
    intro m
    rw [decimal, ascii, List.length_map, Nat.toString_eq_repr, String.length_toList]
  have hpos := Nat.length_repr_pos (n := n)
  have hle := (Nat.length_repr_le_iff (n := n) hpos).mp (le_refl _)
  rw [hlength, hlength, Nat.length_repr_le_iff (Nat.succ_pos _), Nat.pow_succ]
  omega

theorem length_bootstrapText (body : Text) :
    (bootstrapText body latestPrompt).length =
      (bootstrapText [] latestPrompt).length + body.length := by
  unfold bootstrapText
  generalize BOOTSTRAP_PREAMBLE ++ ascii "\n\n" ++ TRANSCRIPT_HEADER ++ ascii "\n" = lead
  simp only [List.append_assoc, List.length_append, List.length_nil]
  omega

theorem length_finishedText_succ (h : count + 1 < messages.length) :
    (finishedText messages latestPrompt count).length ≤
      (finishedText messages latestPrompt (count + 1)).length := by
  obtain ⟨block, hblock⟩ := newestBlocks_succ (show count < messages.length by omega)
  have hdigits := length_decimal_succ (messages.length - (count + 1))
  have hcount : messages.length - (count + 1) + 1 = messages.length - count := by omega
  rw [hcount] at hdigits
  rw [finishedText, finishedText, @length_bootstrapText latestPrompt (transcriptBody _ _),
    @length_bootstrapText latestPrompt (transcriptBody _ (newestBlocks messages (count + 1))),
    length_transcriptBody (by omega), length_transcriptBody h, hblock, List.map_cons, List.sum_cons]
  simp only [OMITTED_SUMMARY, List.length_append]
  omega

theorem length_finishedText_mono {low high : Nat} (h : low ≤ high) (hhigh : high < messages.length) :
    (finishedText messages latestPrompt low).length ≤
      (finishedText messages latestPrompt high).length := by
  induction high, h using Nat.le_induction with
  | base => exact le_refl _
  | succ high _ ih => exact (ih (by omega)).trans (length_finishedText_succ hhigh)

/-! ### The loops -/

def fitsCount (messages : List HistoryMessage) (latestPrompt : Text) (budget count : Nat) : Bool :=
  (finishedText messages latestPrompt count).length ≤ budget

theorem finalizeWithPrompt_newest (count : Nat) :
    finalizeWithPrompt (transcriptBody messages.length (newestBlocks messages count)) latestPrompt
        budget =
      if fitsCount messages latestPrompt budget count then
        some (finishedText messages latestPrompt count) else none := by
  simp only [finalizeWithPrompt]
  rw [← finishedText]
  by_cases hfits : (finishedText messages latestPrompt count).length ≤ budget
  · rw [if_pos hfits, if_pos (show fitsCount _ _ _ _ = true by rw [fitsCount, decide_eq_true hfits])]
  · rw [if_neg hfits, if_neg (by rw [fitsCount, decide_eq_false hfits]; exact Bool.false_ne_true)]

theorem includeNewest_eq {newestFirst : List Text}
    (hnewest : newestFirst = messages.reverse.map buildMessageBlock) {room count : Nat}
    (h : count + room = messages.length) :
    includeNewest messages.length latestPrompt budget (newestFirst.take count)
        (newestFirst.drop count) =
      newestFirst.take (raiseWhileFits (fitsCount messages latestPrompt budget) room count) := by
  have hlength : newestFirst.length = messages.length := by simp [hnewest]
  induction room generalizing count with
  | zero =>
    have hle : newestFirst.length ≤ count := by omega
    have hnil : newestFirst.drop count = [] := List.drop_eq_nil_of_le hle
    rw [hnil, includeNewest, raiseWhileFits]
  | succ room ih =>
    have hcount : count < newestFirst.length := by omega
    have hnext : (newestFirst.take (count + 1)).reverse = newestBlocks messages (count + 1) := by
      rw [hnewest]
      exact reverse_take_newestFirst (count + 1)
    rw [List.drop_eq_getElem_cons hcount, includeNewest, raiseWhileFits]
    simp only [List.take_append_getElem hcount, hnext, finalizeWithPrompt_newest]
    by_cases hfits : fitsCount messages latestPrompt budget (count + 1) = true
    · rw [if_pos hfits, if_pos hfits]
      exact ih (by omega)
    · rw [if_neg hfits, if_neg hfits]
      rfl

def includedResult (messages : List HistoryMessage) (latestPrompt promptOnly : Text) (count : Nat) :
    BootstrapInputResult where
  text := finishedText messages latestPrompt count
  includedCount := count
  omittedCount := messages.length - count
  truncated := messages.length - count > 0 || latestPrompt.length ≠ promptOnly.length

def promptOnlyResult (messages : List HistoryMessage) (promptOnly : Text) : BootstrapInputResult where
  text := promptOnly
  includedCount := 0
  omittedCount := messages.length
  truncated := true

theorem finalizeIncluded_newest {promptOnly : Text} {count : Nat} (h : count ≤ messages.length) :
    finalizeIncluded messages.length latestPrompt budget promptOnly (newestBlocks messages count) =
      if fitsCount messages latestPrompt budget count then
        some (includedResult messages latestPrompt promptOnly count) else none := by
  rw [finalizeIncluded, finalizeWithPrompt_newest, length_newestBlocks h]
  split <;> rfl

theorem finalizeNewest_eq {promptOnly : Text} (h : count ≤ messages.length) :
    finalizeNewest messages.length latestPrompt budget messages.length promptOnly
        (newestBlocks messages count) =
      ((lowerUntilFits (fitsCount messages latestPrompt budget) count).map
        (includedResult messages latestPrompt promptOnly)).getD
          (promptOnlyResult messages promptOnly) := by
  induction count with
  | zero =>
    have hnil : newestBlocks messages 0 = [] := List.length_eq_zero_iff.mp (length_newestBlocks h)
    have hincluded := @finalizeIncluded_newest messages latestPrompt budget promptOnly 0 h
    rw [hnil] at hincluded ⊢
    rw [finalizeNewest, hincluded, lowerUntilFits]
    split
    · rw [Option.map_some, Option.getD_some, Option.getD_some]
    · rw [Option.map_none, Option.getD_none, Option.getD_none, promptOnlyResult]
  | succ count ih =>
    obtain ⟨block, hblock⟩ := newestBlocks_succ (show count < messages.length by omega)
    have hincluded := @finalizeIncluded_newest messages latestPrompt budget promptOnly _ h
    rw [hblock] at hincluded ⊢
    rw [finalizeNewest, hincluded, ih (by omega), lowerUntilFits]
    split
    · rw [Option.map_some, Option.getD_some, Option.getD_some]
    · rw [Option.getD_none]

def cutPrompt (latestPrompt : Text) (budget : Nat) : Text :=
  if latestPrompt.length ≤ budget then latestPrompt else latestPrompt.take budget

theorem buildBootstrapInput_of_ne_nil {maxChars : CharLimit} (h : messages ≠ []) :
    buildBootstrapInput messages latestPrompt maxChars =
      ((lowerUntilFits (fitsCount messages latestPrompt (charBudget maxChars))
          (raiseWhileFits (fitsCount messages latestPrompt (charBudget maxChars)) messages.length 0)).map
        (includedResult messages latestPrompt
          (cutPrompt latestPrompt (charBudget maxChars)))).getD
        (promptOnlyResult messages (cutPrompt latestPrompt (charBudget maxChars))) := by
  have hlength : messages.length ≠ 0 := by simpa using h
  have hloop := @includeNewest_eq messages latestPrompt (charBudget maxChars) _ rfl messages.length 0
    (Nat.zero_add _)
  have htop := (@le_raiseWhileFits (fitsCount messages latestPrompt (charBudget maxChars))
    messages.length 0).2
  rw [List.take_zero, List.drop_zero] at hloop
  simp only [buildBootstrapInput, List.length_map, List.length_reverse, hlength, if_false, hloop,
    reverse_take_newestFirst]
  exact finalizeNewest_eq (by omega)

/-! ### Exactly when the text is the longest that fits -/

theorem closedBelow_fitsCount :
    ClosedBelow (fitsCount messages latestPrompt budget) messages.length := by
  intro low high hle hhigh hfits
  rw [fitsCount, decide_eq_true_eq] at hfits ⊢
  exact (length_finishedText_mono hle hhigh).trans hfits

variable {limit : ℚ}

theorem fitsLimit_iff (hlimit : 1 ≤ limit) (text : Text) :
    FitsLimit (limit : CharLimit) text ↔ text.length ≤ charBudget (limit : CharLimit) := by
  have hfloor : 1 ≤ ⌊limit⌋ := Int.le_floor.mpr (by exact_mod_cast hlimit)
  show (text.length : Int) ≤ ⌊limit⌋ ↔ text.length ≤ (max 1 ⌊limit⌋).toNat
  rw [max_eq_right hfloor]
  omega

theorem length_cutPrompt (latestPrompt : Text) (budget : Nat) :
    (cutPrompt latestPrompt budget).length ≤ budget := by
  unfold cutPrompt
  split
  · assumption
  · rw [List.length_take]
    omega

theorem fitsCount_one (count : Nat) : fitsCount messages latestPrompt 1 count = false := by
  have hheader : 1 < TRANSCRIPT_HEADER.length := by decide
  rw [fitsCount, decide_eq_false_iff_not, finishedText]
  simp only [bootstrapText, List.length_append]
  omega

theorem length_prompt_le (count : Nat) :
    latestPrompt.length ≤ (finishedText messages latestPrompt count).length := by
  simp only [finishedText, bootstrapText, List.length_append]
  omega

theorem longestFitting_iff_findsGreatest (hlimit : 1 ≤ limit) (hne : messages ≠ []) :
    LongestFitting messages latestPrompt (limit : CharLimit)
        (buildBootstrapInput messages latestPrompt (limit : CharLimit)) ↔
      FindsGreatest (fitsCount messages latestPrompt (charBudget (limit : CharLimit)))
        messages.length
        (lowerUntilFits (fitsCount messages latestPrompt (charBudget (limit : CharLimit)))
          (raiseWhileFits (fitsCount messages latestPrompt (charBudget (limit : CharLimit)))
            messages.length 0)) := by
  have hlimit := fitsLimit_iff hlimit
  rw [buildBootstrapInput_of_ne_nil hne]
  have htop := (@le_raiseWhileFits
    (fitsCount messages latestPrompt (charBudget (limit : CharLimit))) messages.length 0).2
  generalize charBudget (limit : CharLimit) = budget at hlimit htop ⊢
  have hfits : ∀ count, FitsLimit (limit : CharLimit) (finishedText messages latestPrompt count) ↔
      fitsCount messages latestPrompt budget count = true := by
    intro count
    rw [hlimit, fitsCount, decide_eq_true_eq]
  have hset : {count | count ≤ messages.length ∧
        FitsLimit (limit : CharLimit) (finishedText messages latestPrompt count)} =
      Fitting (fitsCount messages latestPrompt budget) messages.length := by
    ext count
    exact and_congr_right fun _ => hfits count
  have hlength : 0 < messages.length := List.length_pos_iff.mpr hne
  generalize raiseWhileFits (fitsCount messages latestPrompt budget) messages.length 0 = top at htop ⊢
  cases hfound : lowerUntilFits (fitsCount messages latestPrompt budget) top with
  | none =>
    constructor
    · intro hlongest
      refine ⟨nofun, fun _ count hcount => ?_⟩
      by_contra hfit
      rw [Bool.not_eq_false, ← hfits] at hfit
      obtain ⟨hgreatest, -⟩ := hlongest.longest hne ⟨count, hcount, hfit⟩
      rw [hset] at hgreatest
      have hzero : fitsCount messages latestPrompt budget 0 = true := hgreatest.1.2
      rw [lowerUntilFits_eq_none hfound (Nat.zero_le top)] at hzero
      cases hzero
    · intro hfinds
      refine ⟨?_, fun _ => Nat.zero_add _, fun _ => ?_, fun _ hany => ?_⟩
      · exact (hlimit _).mpr (length_cutPrompt latestPrompt budget)
      · exact ⟨fun _ => Or.inl hlength, fun _ => rfl⟩
      · obtain ⟨count, hcount, hfit⟩ := hany
        rw [hfits, hfinds.2 rfl count hcount] at hfit
        cases hfit
  | some found =>
    obtain ⟨hle, hfit⟩ := lowerUntilFits_eq_some hfound
    have hprompt : FitsLimit (limit : CharLimit) latestPrompt := by
      rw [hlimit]
      exact (length_prompt_le found).trans ((hlimit _).mp ((hfits found).mpr hfit))
    constructor
    · intro hlongest
      refine ⟨fun count hcount => ?_, nofun⟩
      cases hcount
      rw [← hset]
      exact (hlongest.longest hne ⟨found, by omega, (hfits found).mpr hfit⟩).1
    · intro hfinds
      refine ⟨(hfits found).mpr hfit, fun _ => ?_, fun _ => ?_, fun _ _ => ⟨?_, rfl⟩⟩
      · show found + (messages.length - found) = messages.length
        omega
      · have hwhole := (hlimit latestPrompt).mp hprompt
        simp [includedResult, cutPrompt, hwhole, hprompt]
      · rw [hset]
        exact hfinds.1 found rfl

/-- The text is the longest that fits, unless the limit is infinite, or all messages fit while
the note on the oldest one would not. -/
theorem longestFitting_iff (messages : List HistoryMessage) (latestPrompt : Text)
    {maxChars : CharLimit} (h : 1 ≤ maxChars) :
    LongestFitting messages latestPrompt maxChars
        (buildBootstrapInput messages latestPrompt maxChars) ↔
      messages = [] ∨ (maxChars ≠ ⊤ ∧ (1 < messages.length →
        FitsLimit maxChars (finishedText messages latestPrompt messages.length) →
        FitsLimit maxChars (finishedText messages latestPrompt (messages.length - 1)))) := by
  by_cases hne : messages = []
  · subst hne
    refine iff_of_true ⟨?_, fun hne => absurd rfl hne, fun hne => absurd rfl hne,
      fun hne => absurd rfl hne⟩ (Or.inl rfl)
    have hprompt := length_cutPrompt latestPrompt (charBudget maxChars)
    induction maxChars using WithTop.recTopCoe with
    | top => trivial
    | coe limit => exact (fitsLimit_iff (WithTop.one_le_coe.mp h) _).mpr hprompt
  · rw [or_iff_right hne]
    induction maxChars using WithTop.recTopCoe with
    | top =>
      refine iff_of_false (fun hlongest => ?_) (fun hfinite => hfinite.1 rfl)
      have hall := (hlongest.longest hne ⟨0, Nat.zero_le _, trivial⟩).1.2
        ⟨le_refl messages.length, trivial⟩
      have hnone : ∀ top, lowerUntilFits (fitsCount messages latestPrompt 1) top = none := by
        intro top
        induction top with
        | zero => rw [lowerUntilFits, fitsCount_one, if_neg Bool.false_ne_true]
        | succ top ih => rw [lowerUntilFits, fitsCount_one, if_neg Bool.false_ne_true, ih]
      rw [buildBootstrapInput_of_ne_nil hne, show charBudget ⊤ = 1 from rfl, hnone] at hall
      exact hne (List.length_eq_zero_iff.mp (Nat.le_zero.mp hall))
    | coe limit =>
      have hone := WithTop.one_le_coe.mp h
      rw [longestFitting_iff_findsGreatest hone hne, findsGreatest_iff closedBelow_fitsCount]
      simp only [fitsLimit_iff hone, fitsCount, decide_eq_true_eq, ne_eq, WithTop.coe_ne_top,
        not_false_eq_true, true_and]

end

/-! ### Messages left out, and a note longer than the oldest message -/

theorem length_ascii (units : List Char) :
    (ascii (String.ofList units)).length = units.length := by
  simp [ascii]

set_option maxRecDepth 2048 in
theorem length_finishedText (messages : List HistoryMessage) (latestPrompt : Text) (count : Nat) :
    (finishedText messages latestPrompt count).length =
      (transcriptBody messages.length (newestBlocks messages count)).length +
        latestPrompt.length + 185 := by
  have hpreamble : BOOTSTRAP_PREAMBLE.length = 122 := (length_ascii _).trans rfl
  have hheader : TRANSCRIPT_HEADER.length = 19 := (length_ascii _).trans rfl
  have hprompt : LATEST_PROMPT_HEADER.length = 38 := (length_ascii _).trans rfl
  have hline : (ascii "\n").length = 1 := rfl
  have hlines : (ascii "\n\n").length = 2 := rfl
  simp only [finishedText, bootstrapText, List.length_append, hpreamble, hheader, hprompt, hline,
    hlines]
  omega

theorem charBudget_natCast (n : Nat) (h : 1 ≤ n) : charBudget (((n : ℚ) : CharLimit)) = n := by
  show (max 1 ⌊(n : ℚ)⌋).toNat = n
  rw [Int.floor_natCast, max_eq_right (by exact_mod_cast h), Int.toNat_natCast]

/-- A long question, its answer and another question. -/
def longExchange : List HistoryMessage :=
  [{ role := .user, text := List.replicate 200 97, attachments := none },
    { role := .assistant, text := ascii "b", attachments := none },
    { role := .user, text := ascii "c", attachments := none }]

theorem length_longExchange :
    (finishedText longExchange (ascii "d") 3).length = 415 ∧
      (finishedText longExchange (ascii "d") 2).length = 268 := by
  rw [length_finishedText, length_finishedText]
  decide +kernel

/-- In 300 units the long message is left out, and the two after it are not. -/
theorem longestFitting_longExchange :
    LongestFitting longExchange (ascii "d") (((300 : Nat) : ℚ) : CharLimit)
        (buildBootstrapInput longExchange (ascii "d") (((300 : Nat) : ℚ) : CharLimit)) ∧
      (buildBootstrapInput longExchange (ascii "d")
        (((300 : Nat) : ℚ) : CharLimit)).includedCount = 2 := by
  have hone : (1 : ℚ) ≤ ((300 : Nat) : ℚ) := by norm_num
  have hfits : ∀ count, FitsLimit (((300 : Nat) : ℚ) : CharLimit)
      (finishedText longExchange (ascii "d") count) ↔
        (finishedText longExchange (ascii "d") count).length ≤ 300 := by
    intro count
    rw [fitsLimit_iff hone, charBudget_natCast 300 (by decide)]
  have hall : ¬ FitsLimit (((300 : Nat) : ℚ) : CharLimit)
      (finishedText longExchange (ascii "d") 3) := by
    rw [hfits, length_longExchange.1]
    decide
  have htwo : FitsLimit (((300 : Nat) : ℚ) : CharLimit)
      (finishedText longExchange (ascii "d") 2) := by
    rw [hfits, length_longExchange.2]
    decide
  have hlongest := (longestFitting_iff longExchange (ascii "d") (WithTop.one_le_coe.mpr hone)).mpr
    (Or.inr ⟨WithTop.coe_ne_top, fun _ hfit => absurd hfit hall⟩)
  obtain ⟨hgreatest, -⟩ := hlongest.longest (List.cons_ne_nil _ _) ⟨2, by decide, htwo⟩
  refine ⟨hlongest, ?_⟩
  have hle := hgreatest.1.1
  have hge := hgreatest.2 ⟨by decide, htwo⟩
  have hne : (buildBootstrapInput longExchange (ascii "d")
      (((300 : Nat) : ℚ) : CharLimit)).includedCount ≠ 3 := by
    intro hthree
    have hfit := hgreatest.1.2
    rw [hthree] at hfit
    exact hall hfit
  have hlength : longExchange.length = 3 := rfl
  omega

def shortExchange : List HistoryMessage :=
  [{ role := .user, text := ascii "a", attachments := none },
    { role := .assistant, text := ascii "b", attachments := none }]

theorem length_shortExchange :
    (finishedText shortExchange (ascii "c") 2).length = 207 ∧
      (finishedText shortExchange (ascii "c") 1).length = 259 := by
  rw [length_finishedText, length_finishedText]
  decide +kernel

/-- Both messages would fit in 250 units, but one of them and the note would not. -/
theorem not_longestFitting :
    ¬∀ messages latestPrompt maxChars, (1 : CharLimit) ≤ maxChars →
      LongestFitting messages latestPrompt maxChars
        (buildBootstrapInput messages latestPrompt maxChars) := by
  intro h
  have hone : (1 : ℚ) ≤ ((250 : Nat) : ℚ) := by norm_num
  have hlongest := h shortExchange (ascii "c") (((250 : Nat) : ℚ) : CharLimit)
    (WithTop.one_le_coe.mpr hone)
  rw [longestFitting_iff_findsGreatest hone (show shortExchange ≠ [] from List.cons_ne_nil _ _),
    findsGreatest_iff closedBelow_fitsCount, charBudget_natCast 250 (by decide)] at hlongest
  have hone := hlongest (by decide)
    (by rw [fitsCount, decide_eq_true_eq]; exact length_shortExchange.1.le.trans (by decide))
  rw [fitsCount, decide_eq_true_eq] at hone
  exact absurd (length_shortExchange.2.symm.le.trans hone) (by decide)

end GT3Code.Web
